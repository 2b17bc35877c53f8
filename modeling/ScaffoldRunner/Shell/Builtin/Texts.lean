import ScaffoldRunner.Shell.Builtin
import ScaffoldRunner.Utility.Condition
import ScaffoldRunner.Utility.Format

/-!
# Builtin commands on texts

Writing texts, reading lines, and conditions.
-/

namespace ScaffoldRunner.Shell

namespace Builtin

/-- What the arguments of `echo` put out: each with its escapes replaced, and a line end unless it
is not wanted. An escaped `c` stops all output. -/
def echoed (ends : Bool) : List String → String → String
  | [], text => if ends then text ++ "\n" else text
  | arg :: args, text =>
      let (shown, goesOn) := Escape.expandAll Escape.ofText arg
      let text := text ++ shown
      if !goesOn then text
      else echoed ends args (if args.isEmpty then text else text ++ " ")

/-- Write the arguments. -/
def echo : Builtin where
  name := "echo"
  run _ _ args := do
    Sh.say (match args with
      | "-n" :: args => echoed false args ""
      | args => echoed true args "")
    return 0

def formatDialect : FormatDialect where
  formatEscape := Escape.ofFormat
  textEscape := Escape.ofText
  stopsInFormat := false
  sizes := []
  notNumeric arg := arg ++ ": expected numeric value"
  notAllNumeric arg := arg ++ ": not completely converted"
  outOfRange arg := arg ++ ": Numerical result out of range"
  invalid text := text ++ ": invalid directive"
  missingLetter _ := "missing format character"

/-- Write the arguments under a format. -/
def printf : Builtin where
  name := "printf"
  run _ _ args := do
    let (_, operands) ← options "" args
    match operands with
    | [] => Sh.fail "usage: printf format [arg ...]"
    | format :: args => do
        let out := Format.output formatDialect format args
        Sh.say out.text
        out.complaints.reverse.forM Sh.complain
        match out.fault with
        | some text => Sh.fail text
        | none => return if out.complaints.isEmpty then 0 else 1

def answer (args : List String) : Sh Nat := do
  let s ← get
  let tree ← Act.files
  let streams ← if args.contains "-p" then [0, 1, 2].mapM fun n => Act.ask (.kind n) else pure []
  let files : Condition.Files := { tree := tree, resolve := s.resolve, streams := streams }
  match Condition.holds files args with
  | .ok holds => return if holds then 0 else 1
  | .error e => Sh.fail e.message

/-- Answer a condition. -/
def test : Builtin where
  name := "test"
  run _ _ args := answer args

/-- Answer a condition between brackets. -/
def bracket : Builtin where
  name := "["
  run _ _ args := do
    if args.getLast? = some "]" then answer args.dropLast else Sh.fail "missing ]"

/-- The characters of a line and whether the line has an end. A backslash marks the character
after it unless that is not wanted, and joins lines. -/
def lineChars (raw : Bool) : Nat → List Piece → Sh (List Piece × Bool)
  | 0, pieces => return (pieces.reverse, false)
  | fuel + 1, pieces => do
      match ← Act.ask (.read 0 4096 true) with
      | .error _ => return (pieces.reverse, false)
      | .ok octets =>
          if octets.isEmpty then return (pieces.reverse, false)
          else go octets.toList fuel pieces
where
  /-- The characters of one read; the last may be a backslash that joins lines. -/
  go (cs : List Char) (fuel : Nat) (pieces : List Piece) : Sh (List Piece × Bool) :=
    match cs with
    | [] => lineChars raw fuel pieces
    | ['\n'] => return (pieces.reverse, true)
    | '\\' :: cs =>
        if raw then go cs fuel (.char '\\' false :: pieces)
        else
          match cs with
          | [] => do
              match ← Act.ask (.read 0 1 false) with
              | .ok next =>
                  match next.toList with
                  | [] => return (pieces.reverse, false)
                  | '\n' :: _ => lineChars raw fuel pieces
                  | c :: _ => lineChars raw fuel (marked c pieces)
              | .error _ => return (pieces.reverse, false)
          | '\n' :: _ => lineChars raw fuel pieces
          | c :: cs => go cs fuel (marked c pieces)
    | c :: cs =>
        if c.toNat = 0 then go cs fuel pieces else go cs fuel (.char c false :: pieces)
  /-- Put a character that stands for itself into a stretch of its own. -/
  marked (c : Char) (pieces : List Piece) : List Piece :=
    .opening false :: .char c true :: .closing :: pieces

/-- Give variables the fields of a line, and nothing to those that are left. -/
def assignFields : List String → List Field → Sh Unit
  | [], _ => return
  | name :: names, [] => do
      Sh.assign name ""
      assignFields names []
  | name :: names, field :: fields => do
      Sh.assign name field.text
      assignFields names fields

/-- Read a line of the input into variables. -/
def read : Builtin where
  name := "read"
  run _ _ args := do
    let (given, names) ← options "p:r" args
    if names.isEmpty then Sh.fail "arg count"
    let (pieces, isEnded) ← lineChars (given.any fun e => e.1 = 'r') Sh.rounds []
    let separators := (← get).separators
    let pieces := .opening false :: pieces ++ [.closing]
    assignFields names (Piece.fields separators (some names.length) pieces)
    return if isEnded then 0 else 1

end Builtin

end ScaffoldRunner.Shell
