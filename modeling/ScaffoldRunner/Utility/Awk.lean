import ScaffoldRunner.Utility.Awk.Evaluation

/-!
# Programs on records as a utility

`awk` reads a program from its arguments or from files, sets its variables and lets it work.
-/

namespace ScaffoldRunner.Utility

namespace Records

open Awk

def usage : String :=
  "Usage: mawk [Options] [Program] [file ...]

Program:
    The -f option value is the name of a file containing program text.
    If no -f option is given, a \"--\" ends option processing; the following
    parameters are the program text.

Options:
    -f program-file  Program  text is read from file instead of from the
                     command-line.  Multiple -f options are accepted.
    -F value         sets the field separator, FS, to value.
    -v var=value     assigns value to program variable var.
    --               unambiguous end of options.

    Implementation-specific options are prefixed with \"-W\".  They can be
    abbreviated:

    -W version       show version information and exit.
    -W compat        pre-POSIX 2001.
    -W dump          show assembler-like listing of program and exit.
    -W help          show this message and exit.
    -W interactive   set unbuffered output, line-buffered input.
    -W exec file     use file as program as well as last option.
    -W posix         stricter POSIX checking.
    -W random=number set initial random seed.
    -W sprintf=number adjust size of sprintf buffer.
    -W usage         show this message and exit.
"

/-- What the arguments say in front of the operands. -/
structure Wishes where
  /-- The files that the program is in. -/
  files : List String := []
  /-- Variables with their values, in order. -/
  assignments : List (String × String) := []
  operands : List String := []

/-- Read the arguments in front of the operands. -/
def wishes : List String → Wishes → Except String Wishes
  | [], w => .ok w
  | [arg], w =>
      match arg.toList with
      | ['-', '-'] | ['-'] => .ok w
      | ['-', letter] =>
          if ['f', 'F', 'v'].contains letter then
            .error ("option -" ++ String.singleton letter ++ " lacks argument")
          else .error ("not an option: " ++ arg)
      | cs => valued cs w fun w => .ok { w with operands := [arg] }
  | arg :: value :: rest, w =>
      match arg.toList with
      | ['-', '-'] => .ok { w with operands := value :: rest }
      | ['-', 'f'] => wishes rest { w with files := w.files ++ [value] }
      | ['-', 'F'] => wishes rest { w with assignments := w.assignments ++ [("FS", value)] }
      | ['-', 'v'] => do
          let w ← assigned w value
          wishes rest w
      | ['-', 'W'] => wishes rest w
      | '-' :: 'W' :: _ => wishes (value :: rest) w
      | cs => do
          match cs with
          | '-' :: _ :: _ => do
              let w ← valued cs w .ok
              wishes (value :: rest) w
          | _ => .ok { w with operands := arg :: value :: rest }
where
  assigned (w : Wishes) (text : String) : Except String Wishes :=
    match Running.assignment? text with
    | some e => .ok { w with assignments := w.assignments ++ [e] }
    | none => .error ("improper assignment: -v " ++ text)
  valued (cs : List Char) (w : Wishes) (other : Wishes → Except String Wishes) :
      Except String Wishes :=
    match cs with
    | '-' :: 'f' :: value => .ok { w with files := w.files ++ [String.ofList value] }
    | '-' :: 'F' :: value =>
        .ok { w with assignments := w.assignments ++ [("FS", String.ofList value)] }
    | '-' :: 'v' :: value => assigned w (String.ofList value)
    | '-' :: _ :: _ => if cs.take 2 = ['-', 'W'] then other w
        else .error ("not an option: " ++ String.ofList cs)
    | _ => other w

/-- The tokens of a program that is in some files. -/
def tokens (files : List String) : Utility (List Token) := do
  let lists ← files.mapM fun file => do
    match ← contents file with
    | .ok text => return Token.ofText (some file) text
    | .error e => do
        complain ("cannot open \"" ++ file ++ "\" (" ++ e.reason ++ ")")
        leave 2
  /- Only the last file ends the program. -/
  let inner := lists.dropLast.map fun list => list.filter fun t => match t.lexeme with
    | .finish => false
    | _ => true
  return inner.flatten ++ (lists.getLast?).getD []

/-- What the variables of a program hold at the start. -/
def start (script : Script) (s : Setting) (args : List String) : Array Slot × Array Table :=
  let environment := s.environment.foldl
    (fun (t : Table) (e : String × String) => t.set (.text e.1) (.input e.2)) {}
  let named := (args.zip (List.range args.length)).foldl
    (fun (t : Table) (arg, i) => t.set (.number (Int.ofNat i)) (.input arg)) {}
  let value (name : String) : Value :=
    match name with
    | "FS" | "OFS" => .text " "
    | "ORS" | "RS" => .text "\n"
    | "SUBSEP" => .text "\x1c"
    | "CONVFMT" | "OFMT" => .text "%.6g"
    | "NR" | "FNR" | "NF" => .number 0.0
    | "ARGC" => .ofNat args.length
    | _ => .unset
  script.shared.foldl (fun (slots, tables) e =>
    match e.2 with
    | .table =>
        let t := if e.1 = "ENVIRON" then environment else if e.1 = "ARGV" then named else {}
        (slots.push (.table tables.size), tables.push t)
    | _ => (slots.push (.value (value e.1)), tables)) (#[], #[])

end Records

open Awk Records in
/-- Do what a program says for each record of the inputs. -/
def awk (load : Loader) : Utility Nat := do
  let s ← get
  let name := ((Text.split '/' s.name).getLast?).getD ""
  set { s with name := name }
  if s.args.isEmpty then
    Act.put 2 usage
    return 0
  let w ← match wishes s.args {} with
    | .ok w => pure w
    | .error e => do
        complain e
        leave 2
  let (tokens, operands) ← match w.files, w.operands with
    | [], [] => leave 0
    | [], program :: rest => pure (Token.ofText none program, rest)
    | files, rest => do pure (← tokens files, rest)
  match Script.read tokens with
  | .error complaints => do
      for e in complaints do
        complain e
      return 2
  | .ok script => do
      let (shared, tables) := start script s (name :: operands)
      let count := script.rules.foldl (fun n r => match r.guard with
        | .range index _ _ => max n (index + 1)
        | _ => n) 0
      let clock : Nat ← Act.ask .clock
      let state : State :=
        { setting := s, script := script, load := load, shared := shared, tables := tables
          ranges := Array.replicate count false
          seed := Float.ofNat (Utility.Calendar.clockStart + clock / 1000000)
          chance := clock }
      let leaving : Leaving → Utility Nat
        | .fault status => leave status
        | _ => leave 2
      Act.within state leaving (do
        for (name, text) in w.assignments do
          Running.assignNamed name text
        Running.course (Worker.upTo Act.rounds))

end ScaffoldRunner.Utility
