import ScaffoldRunner.Shell.Builtin

/-!
# Builtin commands on variables

Variables, parameters, options and aliases.
-/

namespace ScaffoldRunner.Shell

namespace Builtin

/-- The name and the value of an assignment in an argument. -/
def assignment (arg : String) : String × Option String :=
  let cs := arg.toList
  let name := cs.takeWhile (· ≠ '=')
  match cs.drop name.length with
  | [] => (arg, none)
  | _ :: value => (String.ofList name, some (String.ofList value))

/-- A line that would give a variable its value. -/
def declaration (command : String) (name : String) (v : Variable) : String :=
  let value := match v.value with
    | some value => "=" ++ singleQuoted value
    | none => ""
  (if command = "" then "" else command ++ " ") ++ name ++ value ++ "\n"

/-- Declare variables, or tell which have been declared. -/
def declare (name : String) (marked : Variable → Bool) (mark : Variable → Variable) : Builtin where
  name := name
  assigns := true
  run _ _ args := do
    let (given, operands) ← options "p" args
    if operands.isEmpty || !given.isEmpty then
      for (subject, v) in (← get).vars do
        if marked v then Sh.say (declaration name subject v)
      return 0
    else do
      for arg in operands do
        let (subject, value) := assignment arg
        if !isName subject then Sh.fail (subject ++ ": bad variable name")
        if let some value := value then Sh.assign subject value
        modify fun s =>
          let v := (s.vars.get? subject).getD {}
          { s with vars := s.vars.insert subject (mark v) }
      return 0

/-- Let programs see variables. -/
def exported : Builtin :=
  declare "export" (·.exported) fun v => { v with exported := true }

/-- Let variables stay as they are. -/
def readonly : Builtin :=
  declare "readonly" (·.isReadonly) fun v => { v with isReadonly := true }

/-- Declare variables that are given back what they were at the end of the function. -/
def localVariables : Builtin where
  name := "local"
  assigns := true
  run _ _ args := do
    if (← get).shadowed.isEmpty then Sh.fail "not in a function"
    for arg in args do
      if arg = "-" then Sh.remember (.options (← get).options)
      else
        let (name, value) := assignment arg
        if !isName name then Sh.fail (name ++ ": bad variable name")
        Sh.shadow name
        if let some value := value then Sh.assign name value
    return 0

/-- Take variables or functions away. -/
def unset : Builtin where
  name := "unset"
  run _ _ args := do
    let (given, names) ← options "vf" args
    let functions := (given.getLast?).any fun e => e.1 = 'f'
    for name in names do
      if functions then modify fun s => { s with functions := s.functions.erase name }
      else do
        if !isName name then Sh.fail (name ++ ": bad variable name")
        Sh.unassign name
        if name = "PATH" then modify fun s => { s with located := [] }
    return 0

/-- Drop the first parameters. -/
def shift : Builtin where
  name := "shift"
  run _ _ args := do
    let count ← match args with
      | [] => pure 1
      | arg :: _ => Sh.number arg
    let s ← get
    if s.params.length < count then Sh.fail "can't shift that many"
    set { s with params := s.params.drop count, optionIndex := 1, optionOffset := none }
    return 0

/-- The options that have a name, with their letters. -/
def optionNames : List (String × Option Char) :=
  [("errexit", some 'e'), ("noglob", some 'f'), ("ignoreeof", some 'I'), ("interactive", some 'i'),
    ("monitor", some 'm'), ("noexec", some 'n'), ("stdin", some 's'), ("xtrace", some 'x'),
    ("verbose", some 'v'), ("vi", some 'V'), ("emacs", some 'E'), ("noclobber", some 'C'),
    ("allexport", some 'a'), ("notify", some 'b'), ("nounset", some 'u'),
    ("privileged", some 'p'), ("nolog", none), ("debug", none)]

/-- Set an option or take it back. -/
def setOption (value : Bool) (letter : Char) : Sh Unit := do
  if !optionNames.any fun e => e.2 = some letter then
    Sh.fail ("Illegal option -" ++ String.singleton letter)
  modify fun s =>
    let others := s.options.filter (· ≠ letter)
    { s with options := if value then letter :: others else others }

/-- Tell which options are set: as a table, or as commands that would set them. -/
def showOptions (asTable : Bool) : Sh Unit := do
  if asTable then Sh.say "Current option settings\n"
  let s ← get
  for (name, letter) in optionNames do
    let isOn := letter.any s.has
    if asTable then
      Sh.say (name ++ "".pushn ' ' (16 - name.length) ++ (if isOn then "on" else "off") ++ "\n")
    else Sh.say ("set " ++ (if isOn then "-" else "+") ++ "o " ++ name ++ "\n")

/-- Set an option by its name; without a name, tell which are set. -/
def setNamedOption (value : Bool) : Option String → Sh Unit
  | none => showOptions value
  | some name =>
      match optionNames.find? fun e => e.1 = name with
      | some (_, some letter) => setOption value letter
      | some (_, none) => return
      | none => Sh.fail ("Illegal option -o " ++ name)

/-- What options in front of other arguments ask for. -/
structure OptionReading where
  /-- The arguments that are left. -/
  args : List String
  /-- The parameters are to be replaced even if none are left. -/
  replaces : Bool := false
  /-- The commands are in the first argument. -/
  isCommand : Bool := false

/-- Set the options that stand in front of other arguments. Some are known only when a shell is
started. -/
def readOptions (atStart : Bool) : Nat → OptionReading → Sh OptionReading
  | 0, r => return r
  | fuel + 1, r =>
      match r.args with
      | [] => return r
      | arg :: args =>
          match arg.toList with
          | '-' :: cs =>
              if cs.isEmpty || cs = ['-'] then do
                if !atStart && cs.isEmpty then
                  modify fun s => { s with options := s.options.filter fun c => c ≠ 'x' && c ≠ 'v' }
                return { r with args := args, replaces := !atStart && !cs.isEmpty }
              else letters true cs fuel { r with args := args }
          | '+' :: cs => letters false cs fuel { r with args := args }
          | _ => return r
where
  letters (value : Bool) (cs : List Char) (fuel : Nat) (r : OptionReading) : Sh OptionReading :=
    match cs with
    | [] => readOptions atStart fuel r
    | c :: cs => do
        if c = 'c' && atStart then letters value cs fuel { r with isCommand := true }
        else if c = 'l' && atStart then letters value cs fuel r
        else if c = 'o' then do
          setNamedOption value r.args.head?
          letters value cs fuel { r with args := r.args.drop 1 }
        else do
          setOption value c
          letters value cs fuel r

/-- Set options and parameters, or tell which variables there are. -/
def setting : Builtin where
  name := "set"
  run _ _ args := do
    if args.isEmpty then
      for (name, v) in (← get).vars do
        if v.value.isSome then Sh.say (declaration "" name v)
      return 0
    else do
      let r ← readOptions false (args.length + 1) { args := args }
      if !r.args.isEmpty || r.replaces then
        modify fun s => { s with params := r.args, optionIndex := 1, optionOffset := none }
      return 0

/-- Tell what an alias stands for. -/
def aliasLine (name value : String) : String := name ++ "=" ++ singleQuoted value ++ "\n"

/-- Give words another meaning, or tell which meaning they have. -/
def aliasing : Builtin where
  name := "alias"
  run _ _ args := do
    let aliases := (← get).reader.aliases
    if args.isEmpty then
      let row (name : String) : Nat := State.tableRow 39 name
      for (name, value) in aliases.mergeSort fun a b => row a.1 ≤ row b.1 do
        Sh.say (aliasLine name value)
      return 0
    else do
      let mut status := 0
      for arg in args do
        match assignment arg with
        | (name, some value) =>
            modify fun s => { s with reader :=
              { s.reader with aliases := s.reader.aliases.insert name value } }
        | (name, none) =>
            match (← get).reader.aliases.get? name with
            | some value => Sh.say (aliasLine name value)
            | none => do
                Sh.putError ("alias: " ++ name ++ " not found\n")
                status := 1
      return status

/-- Take the meaning of words back. -/
def unalias : Builtin where
  name := "unalias"
  run _ _ args := do
    let (given, names) ← options "a" args
    if !given.isEmpty then
      modify fun s => { s with reader := { s.reader with aliases := [] } }
      return 0
    else do
      let mut status := 0
      for name in names do
        let reader := (← get).reader
        if reader.aliases.has name then
          modify fun s => { s with reader := { reader with aliases := reader.aliases.erase name } }
        else do
          Sh.putError ("unalias: " ++ name ++ " not found\n")
          status := 1
      return status

/-- Where the search for options has come to: the argument after the one being looked at, counted
from one, and how far it is in the argument before. -/
structure OptionPlace where
  next : Nat
  offset : Option Nat

/-- What was found by the search for options. -/
structure OptionFound where
  letter : Char
  isOver : Bool := false
  /-- What becomes of the variable for the argument of the option. -/
  argument : Option (Option String) := none
  complaint : String := ""
  place : OptionPlace

/-- Look for the next option among arguments. -/
def nextOption (known : List Char) (args : List String) (index : Nat) (offset : Option Nat) :
    OptionFound :=
  let before : List Char := if index ≤ 1 then [] else (args.getD (index - 2) "").toList
  let inWord : List Char := match offset with
    | some n => if index ≤ 1 || before.length < n then [] else before.drop n
    | none => []
  let ended (next : Nat) : OptionFound := { letter := '?', isOver := true, place := ⟨next, none⟩ }
  let go (word : List Char) (next : Nat) : OptionFound :=
    match word with
    | [] => ended next
    | c :: rest =>
        let size := (args.getD (next - 2) "").toList.length
        let place : OptionPlace := ⟨next, some (size - rest.length)⟩
        let silent := known.head? = some ':'
        match find known c with
        | none =>
            if silent then
              { letter := '?', argument := some (some (String.singleton c)), place := place }
            else
              { letter := '?', argument := some none, place := place
                complaint := "Illegal option -" ++ String.singleton c ++ "\n" }
        | some false => { letter := c, argument := some (some ""), place := place }
        | some true =>
            if !rest.isEmpty then
              { letter := c, argument := some (some (String.ofList rest)), place := ⟨next, none⟩ }
            else
              match args[next - 1]? with
              | some value =>
                  { letter := c, argument := some (some value), place := ⟨next + 1, none⟩ }
              | none =>
                  if silent then
                    { letter := ':', argument := some (some (String.singleton c))
                      place := ⟨next, none⟩ }
                  else
                    { letter := '?', argument := some none, place := ⟨next, none⟩
                      complaint := "No arg for -" ++ String.singleton c ++ " option\n" }
  if !inWord.isEmpty then go inWord index
  else
    match (args.getD (index - 1) "").toList with
    | ['-', '-'] => ended (index + 1)
    | '-' :: c :: rest => go (c :: rest) (index + 1)
    | _ => ended index
where
  /-- Whether an option is known, and whether it has an argument. -/
  find : List Char → Char → Option Bool
    | [], _ => none
    | d :: ':' :: rest, c => if c = d then some true else find rest c
    | d :: rest, c => if c = d then some false else find rest c

/-- Look for the next option among the parameters, or among other arguments. -/
def getopts : Builtin where
  name := "getopts"
  run _ _ args := do
    let (_, operands) ← options "" args
    match operands with
    | known :: name :: rest => do
        let s ← get
        let words := if rest.isEmpty then s.params else rest
        let isBeyond := words.length + 1 < s.optionIndex
        let index := if isBeyond then 1 else s.optionIndex
        let offset := if isBeyond then none else s.optionOffset
        let found := nextOption known.toList words index offset
        if found.complaint ≠ "" then Sh.putError found.complaint
        match found.argument with
        | none => pure ()
        | some none => Sh.unassign "OPTARG"
        | some (some value) => Sh.assign "OPTARG" value
        Sh.assign "OPTIND" (toString found.place.next)
        modify fun s => { s with
          optionIndex := found.place.next, optionOffset := found.place.offset }
        Sh.assign name (String.singleton found.letter)
        return if found.isOver then 1 else 0
    | _ => Sh.fail "Usage: getopts optstring var [arg...]"

end Builtin

end ScaffoldRunner.Shell
