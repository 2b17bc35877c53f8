import ScaffoldRunner.Data.Dict

/-!
# Arguments of a command

Options have a long and often a short name. Some take a value, which stands behind an equals sign,
at once behind the short name, or in the next argument. Arguments are read from left to right, and
the first thing that ends the reading decides what comes of it.
-/

namespace ScaffoldRunner

/-- What an option takes, and how often it may stand. -/
inductive OptionKind where
  | once
  | counted
  | value (mayBeEmpty : Bool)
  /-- Asks for help. -/
  | help
  /-- Asks for the version. -/
  | version
  deriving DecidableEq, Repr

structure OptionSpec where
  short : Option Char
  long : String
  kind : OptionKind

/-- What a command takes: options, and either the names of commands of its own or operands. -/
structure CommandSpec where
  options : List OptionSpec
  subcommands : List String := []
  /-- For each operand, the texts that it may be. -/
  operands : List (List String) := []

/-- What ends the reading before its end. -/
inductive ArgumentStop where
  | help
  | version
  | refused (reason : String)
  deriving DecidableEq, Repr

structure Arguments where
  values : Dict String := []
  counts : Dict Nat := []
  operands : List String := []
  /-- The command that follows, with its arguments. -/
  subcommand : Option (String × List String) := none

namespace CommandSpec

def long? (spec : CommandSpec) (name : String) : Option OptionSpec :=
  spec.options.find? fun o => o.long == name

def short? (spec : CommandSpec) (c : Char) : Option OptionSpec :=
  spec.options.find? fun o => o.short == some c

end CommandSpec

namespace Arguments

/-- Whether an argument cannot be the value of the option before it. -/
def looksLikeOption (arg : String) : Bool :=
  match arg.toList with
  | '-' :: _ :: _ => true
  | _ => false

/-- How often an option stands. -/
def count (found : Arguments) (long : String) : Nat := (found.counts.get? long).getD 0

/-- Enter an option that takes no value. -/
def addFlag (found : Arguments) (o : OptionSpec) : Except ArgumentStop Arguments :=
  match o.kind with
  | .help => .error .help
  | .version => .error .version
  | .once =>
      if found.count o.long = 0 then .ok { found with counts := found.counts.insert o.long 1 }
      else .error (.refused ("the argument '--" ++ o.long ++ "' cannot be used multiple times"))
  | _ => .ok { found with counts := found.counts.modify o.long 0 (· + 1) }

def addValue (found : Arguments) (o : OptionSpec) (value : String) :
    Except ArgumentStop Arguments :=
  if found.values.has o.long then
    .error (.refused ("the argument '--" ++ o.long ++ "' cannot be used multiple times"))
  else if value = "" ∧ o.kind = .value false then
    .error (.refused ("a value is required for '--" ++ o.long ++ "' but none was supplied"))
  else .ok { found with values := found.values.insert o.long value }

def takesValue (o : OptionSpec) : Bool :=
  match o.kind with
  | .value _ => true
  | _ => false

/-- Enter options given by their short names. The answer may hold an option whose value is still
to come. -/
def addShorts (spec : CommandSpec) (found : Arguments) :
    List Char → Except ArgumentStop (Arguments × Option OptionSpec)
  | [] => .ok (found, none)
  | c :: cs =>
      match spec.short? c with
      | none => .error (.refused ("unexpected argument '-" ++ String.ofList [c] ++ "' found"))
      | some o =>
          if takesValue o then
            match cs with
            | [] => .ok (found, some o)
            | '=' :: value =>
                (found.addValue o (String.ofList value)).map fun found => (found, none)
            | value => (found.addValue o (String.ofList value)).map fun found => (found, none)
          else
            match found.addFlag o with
            | .ok found => addShorts spec found cs
            | .error stop => .error stop

/-- Enter an option given by its long name. -/
def addLong (spec : CommandSpec) (found : Arguments) (name : String) (attached : Option String) :
    Except ArgumentStop (Arguments × Option OptionSpec) :=
  match spec.long? name, attached with
  | none, _ => .error (.refused ("unexpected argument '--" ++ name ++ "' found"))
  | some o, some value =>
      if takesValue o then (found.addValue o value).map fun found => (found, none)
      else
        .error (.refused ("unexpected value '" ++ value ++ "' for '--" ++ name ++ "' found"))
  | some o, none =>
      if takesValue o then .ok (found, some o)
      else (found.addFlag o).map fun found => (found, none)

def addOperand (spec : CommandSpec) (found : Arguments) (text : String) :
    Except ArgumentStop Arguments :=
  match spec.operands[found.operands.length]? with
  | none => .error (.refused ("unexpected argument '" ++ text ++ "' found"))
  | some allowed =>
      if allowed.contains text then .ok { found with operands := found.operands ++ [text] }
      else .error (.refused ("invalid value '" ++ text ++ "'"))

def addOption (spec : CommandSpec) (found : Arguments) (arg : String) :
    Except ArgumentStop (Arguments × Option OptionSpec) :=
  match arg.toList with
  | '-' :: '-' :: cs =>
      let name := String.ofList (cs.takeWhile (· ≠ '='))
      match cs.dropWhile (· ≠ '=') with
      | _ :: value => addLong spec found name (some (String.ofList value))
      | [] => addLong spec found name none
  | _ :: cs => addShorts spec found cs
  | [] => .ok (found, none)

/-- Read arguments; `pending` is an option whose value is still to come. -/
def readFrom (spec : CommandSpec) (found : Arguments) :
    Option OptionSpec → List String → Except ArgumentStop Arguments
  | none, [] => .ok found
  | some o, [] =>
      .error (.refused ("a value is required for '--" ++ o.long ++ "' but none was supplied"))
  | some o, arg :: args =>
      if looksLikeOption arg then
        .error (.refused ("a value is required for '--" ++ o.long ++ "' but none was supplied"))
      else
        match found.addValue o arg with
        | .ok found => readFrom spec found none args
        | .error stop => .error stop
  | none, arg :: args =>
      if arg = "--" then args.foldlM (addOperand spec) found
      else if looksLikeOption arg then
        match addOption spec found arg with
        | .ok (found, pending) => readFrom spec found pending args
        | .error stop => .error stop
      else if spec.subcommands.contains arg then
        .ok { found with subcommand := some (arg, args) }
      else
        match addOperand spec found arg with
        | .ok found => readFrom spec found none args
        | .error stop => .error stop

def read (spec : CommandSpec) (args : List String) : Except ArgumentStop Arguments :=
  readFrom spec {} none args

end Arguments

end ScaffoldRunner
