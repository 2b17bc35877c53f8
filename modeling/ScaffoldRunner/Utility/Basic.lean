import ScaffoldRunner.System.Setting
import ScaffoldRunner.Text.Utf8

/-!
# Utilities

A utility is a program that works by itself: it looks at its arguments, reads and writes, and ends
with a status. This module holds what most of them have in common: complaints, options and inputs.
-/

namespace ScaffoldRunner

/-- A step of a utility. It may be left at any time with a status. -/
abbrev Utility := Act Nat Setting

namespace Utility

def program (act : Utility Nat) (setting : Setting) : Program :=
  act setting (fun status _ => .ended (status % 256)) fun status _ => .ended (status % 256)

def leave {α : Type} (status : Nat) : Utility α := throw status

/-- The status of a utility whose output cannot be written. -/
def refusedStatus (name : String) : Nat :=
  if ["ls", "sort", "grep", "diff"].contains name then 2
  else if name = "expr" then 3
  else if name = "env" then 125
  else 1

/-- The complaint of a utility whose output cannot be written. -/
def refusedText (name reason : String) : String :=
  if ["wc", "md5sum", "sha1sum", "sha256sum", "sha512sum"].contains name then "write error"
  else if ["tee", "find"].contains name then "'standard output': " ++ reason
  else if ["diff", "yes"].contains name then "standard output: " ++ reason
  else "write error: " ++ reason

/-- Write to the output. A utility whose output cannot be written complains and fails. -/
def put (octets : String) : Utility Unit := do
  if let some e ← Act.write 1 octets then
    let s ← get
    Act.put 2 (s.name ++ ": " ++ refusedText s.name e.reason ++ "\n")
    leave (refusedStatus s.name)

/-- Write a line of complaint. -/
def complain (text : String) : Utility Unit := do
  let s ← get
  Act.put 2 (s.name ++ ": " ++ text ++ "\n")

def adviseHelp : Utility Unit := do
  let s ← get
  Act.put 2 ("Try '" ++ s.name ++ " --help' for more information.\n")

/-- Complain about how the utility was called, and leave. -/
def misuse {α : Type} (text : String) (status : Nat := 1) : Utility α := do
  complain text
  adviseHelp
  leave status

def quoted (text : String) : String := "'" ++ text ++ "'"

/-- The status after something was tried. -/
def statusOf (isDone : Bool) : Nat := if isDone then 0 else 1

/-! ## Options -/

/-- The options that a utility knows: letters, each followed by a colon if it has a value, or two if
it may have one; and names that stand for letters. -/
structure OptionTable where
  letters : String
  names : List (String × Char) := []
  /-- Options come in front of all operands. -/
  inFront : Bool := false

/-- Options with their values, and operands. -/
structure Options where
  given : List (Char × String) := []
  operands : List String := []

namespace Options

def has (o : Options) (letter : Char) : Bool := o.given.any fun e => e.1 = letter

/-- The value of an option; the last one counts. -/
def value? (o : Options) (letter : Char) : Option String :=
  (o.given.reverse.find? fun e => e.1 = letter).map (·.2)

def last? (o : Options) (letters : List Char) : Option Char :=
  (o.given.reverse.find? fun e => letters.contains e.1).map (·.1)

/-- The operands, or the input when there are none. -/
def inputs (o : Options) : List String := if o.operands.isEmpty then ["-"] else o.operands

end Options

namespace OptionTable

inductive Value where
  | none
  | needed
  | possible

/-- What is known about an option. -/
def find (table : OptionTable) (letter : Char) : Option Value :=
  match table.letters.toList.dropWhile (· ≠ letter) with
  | [] => .none
  | _ :: ':' :: ':' :: _ => some .possible
  | _ :: ':' :: _ => some .needed
  | _ => some .none

def readLetters (table : OptionTable) : List Char → List String → List (Char × String) →
    Except String (List (Char × String) × List String)
  | [], args, found => .ok (found, args)
  | c :: cs, args, found =>
      match if c = ':' then none else table.find c with
      | none => .error ("invalid option -- " ++ quoted (String.singleton c))
      | some .none => readLetters table cs args ((c, "") :: found)
      | some .possible => .ok ((c, String.ofList cs) :: found, args)
      | some .needed =>
          match cs, args with
          | [], [] => .error ("option requires an argument -- " ++ quoted (String.singleton c))
          | [], value :: args => .ok ((c, value) :: found, args)
          | cs, args => .ok ((c, String.ofList cs) :: found, args)

/-- The names that begin with a text; one that is the text stands for itself. -/
def matching (table : OptionTable) (text : String) : List (String × Char) :=
  match table.names.find? fun e => e.1 = text with
  | some e => [e]
  | none => table.names.filter fun e => text.toList.isPrefixOf e.1.toList

def readName (table : OptionTable) (text : String) (args : List String)
    (found : List (Char × String)) : Except String (List (Char × String) × List String) :=
  let name := String.ofList (text.toList.takeWhile (· ≠ '='))
  let value : Option String := match text.toList.dropWhile (· ≠ '=') with
    | _ :: value => some (String.ofList value)
    | [] => none
  let same := (table.matching name).map (·.2)
  match table.matching name with
  | [] => .error ("unrecognized option " ++ quoted ("--" ++ text))
  | (whole, letter) :: _ =>
      if same.any (· ≠ letter) then
        .error ("option " ++ quoted ("--" ++ text) ++ " is ambiguous; possibilities:" ++
          String.join ((table.matching name).map fun e => " " ++ quoted ("--" ++ e.1)))
      else
        match table.find letter, value, args with
        | some .needed, some value, args => .ok ((letter, value) :: found, args)
        | some .needed, none, value :: args => .ok ((letter, value) :: found, args)
        | some .needed, none, [] =>
            .error ("option " ++ quoted ("--" ++ whole) ++ " requires an argument")
        | some .possible, value, args => .ok ((letter, value.getD "") :: found, args)
        | _, some _, _ =>
            .error ("option " ++ quoted ("--" ++ whole) ++ " doesn't allow an argument")
        | _, none, args => .ok ((letter, "") :: found, args)

def split (table : OptionTable) : Nat → List String → List (Char × String) → List String →
    Except String Options
  | 0, args, found, operands => .ok ⟨found.reverse, operands.reverse ++ args⟩
  | _, [], found, operands => .ok ⟨found.reverse, operands.reverse⟩
  | fuel + 1, arg :: args, found, operands =>
      match arg.toList with
      | ['-', '-'] => .ok ⟨found.reverse, operands.reverse ++ args⟩
      | '-' :: '-' :: name =>
          match table.readName (String.ofList name) args found with
          | .ok (found, args) => split table fuel args found operands
          | .error e => .error e
      | '-' :: c :: cs =>
          match table.readLetters (c :: cs) args found with
          | .ok (found, args) => split table fuel args found operands
          | .error e => .error e
      | _ =>
          if table.inFront then .ok ⟨found.reverse, operands.reverse ++ arg :: args⟩
          else split table fuel args found (arg :: operands)

end OptionTable

def options (table : OptionTable) (status : Nat := 1) : Utility Options := do
  let args := (← get).args
  match table.split (args.length + 1) args [] [] with
  | .ok o => return o
  | .error e => misuse e status

/-! ## Inputs -/

/-- Open the input of some name; a dash stands for the input of the utility. -/
def openInput (path : String) : Utility (Except Fault Nat) := do
  if path = "-" then return .ok 0
  else return ← Act.openFile ((← get).resolve path) .reading

def closeInput (descriptor : Nat) : Utility Unit :=
  if descriptor = 0 then pure () else Act.close descriptor

def contents (path : String) : Utility (Except Fault String) := do
  match ← openInput path with
  | .error e => return .error e
  | .ok descriptor => do
      let text ← Act.readAll descriptor
      closeInput descriptor
      return text

/-- All of an input, or a complaint about it. -/
def contentsOrComplain (path : String) : Utility (Option String) := do
  match ← contents path with
  | .ok text => return some text
  | .error e => do
      complain (path ++ ": " ++ e.reason)
      return none

/-- Do something for each of some arguments; whether all of it could be done. -/
def forAll {α : Type} (args : List α) (action : α → Utility Bool) : Utility Bool :=
  args.foldlM (fun isDone arg => do return (← action arg) && isDone) true

/-- The place that a path leads to. -/
def locate (files : FileTree) (s : Setting) (path : String) : Except OsError (List String) :=
  files.locate (Octets.decode (s.resolve path))

/-- What lies at the end of a path. -/
def lookup (path : String) : Utility (Except OsError Node) := do
  return (← Act.files).lookup (Octets.decode ((← get).resolve path))

/-! ## Lines -/

/-- Cut a text behind each character of some kind, which is left out; the last piece has none. -/
def cutAt (ending : Char) (text : List Char) : List (List Char) × List Char :=
  let rec go : List Char → List Char → List (List Char) → List (List Char) × List Char
    | [], current, lines => (lines.reverse, current.reverse)
    | c :: cs, current, lines =>
        if c = ending then go cs [] (current.reverse :: lines) else go cs (c :: current) lines
  go text [] []

/-- Cut a text at its line ends; the last piece has none. -/
def cutLines (text : List Char) : List (List Char) × List Char := cutAt '\n' text

/-- The lines of a text, without their ends, and whether the last one has an end. -/
def linesOf (text : String) : List String × Bool :=
  let (lines, rest) := cutLines text.toList
  let lines := lines.map String.ofList
  if rest.isEmpty then (lines, true) else (lines ++ [String.ofList rest], false)

/-- What becomes of lines that are read one after the other: the state changes, there is output,
and reading may stop. -/
structure Reading (σ : Type) where
  state : σ
  output : List String := []
  stops : Bool := false

/-- Work through some lines; each comes with whether it has an end. -/
def workLines {σ : Type} (step : σ → String → Bool → Reading σ) :
    List (String × Bool) → σ → List String → Reading σ
  | [], state, out => { state := state, output := out }
  | (line, isEnded) :: lines, state, out =>
      let r := step state line isEnded
      let out := r.output.reverseAux out
      if r.stops then { state := r.state, output := out, stops := true }
      else workLines step lines r.state out

/-- Read a descriptor line by line. The output of a block of lines is written before the next block
is read. -/
def eachLine {σ : Type} (descriptor : Nat) (step : σ → String → Bool → Reading σ) :
    Nat → List Char → σ → Utility (σ × Bool)
  | 0, _, state => return (state, false)
  | fuel + 1, rest, state => do
      let block ← match ← Act.ask (.read descriptor Act.blockSize false) with
        | .ok block => pure block
        | .error _ => pure ""
      if block.isEmpty then
        if rest.isEmpty then return (state, false)
        else
          let r := step state (String.ofList rest) false
          put (String.join r.output)
          return (r.state, r.stops)
      else
        let (lines, rest) := cutLines (rest ++ block.toList)
        let r := workLines step (lines.map fun line => (String.ofList line, true)) state []
        put (String.join r.output.reverse)
        if r.stops then return (r.state, true)
        else eachLine descriptor step fuel rest r.state

end Utility

end ScaffoldRunner
