import ScaffoldRunner.Utility.Sed.Editing

/-!
# The stream editor

`sed` puts its script together from its arguments and edits its inputs with it.
-/

namespace ScaffoldRunner.Utility

namespace Editor

def table : OptionTable where
  letters := "bsnrzuEe:f:l:i::Vhp"
  names := [("binary", 'b'), ("regexp-extended", 'E'), ("debug", 'p'), ("in-place", 'i'),
    ("expression", 'e'), ("file", 'f'), ("line-length", 'l'), ("null-data", 'z'),
    ("zero-terminated", 'z'), ("quiet", 'n'), ("posix", 'p'), ("silent", 'n'), ("sandbox", 'p'),
    ("separate", 's'), ("unbuffered", 'u'), ("version", 'V'), ("help", 'h')]

def usage (name : String) : String :=
  "Usage: " ++ name ++ " [OPTION]... \x7bscript-only-if-no-other-script\x7d [input-file]...

  -n, --quiet, --silent
                 suppress automatic printing of pattern space
      --debug
                 annotate program execution
  -e script, --expression=script
                 add the script to the commands to be executed
  -f script-file, --file=script-file
                 add the contents of script-file to the commands to be executed
  --follow-symlinks
                 follow symlinks when processing in place
  -i[SUFFIX], --in-place[=SUFFIX]
                 edit files in place (makes backup if SUFFIX supplied)
  -l N, --line-length=N
                 specify the desired line-wrap length for the `l' command
  --posix
                 disable all GNU extensions.
  -E, -r, --regexp-extended
                 use extended regular expressions in the script
                 (for portability use POSIX -E).
  -s, --separate
                 consider files as separate rather than as a single,
                 continuous long stream.
      --sandbox
                 operate in sandbox mode (disable e/r/w commands).
  -u, --unbuffered
                 load minimal amounts of data from the input files and flush
                 the output buffers more often
  -z, --null-data
                 separate lines by NUL characters
      --help     display this help and exit
      --version  output version information and exit

If no -e, --expression, -f, or --file option is given, then the first
non-option argument is taken as the sed script to interpret.  All
remaining arguments are names of input files; if no input files are
specified, then the standard input is read.

"

/-- Complain, show how the utility is called, and leave. -/
def wrongUse {α : Type} (text : Option String) : Utility α := do
  if let some text := text then complain text
  Act.put 2 (usage (← get).name)
  leave 1

/-- A part of the script: its text, and how its place is told when something is wrong in it. -/
structure Part where
  text : String
  file : Option String

/-- The parts of the script among the options. -/
def parts (o : Options) : Utility (List Part) :=
  o.given.filterMapM fun (letter, value) => do
    if letter = 'e' then return some ⟨value, none⟩
    else if letter = 'f' then
      match ← contents value with
      | .ok text =>
          let text := if text.endsWith "\n" then (text.dropEnd 1).toString else text
          return some ⟨text, some value⟩
      | .error e => do
          complain ("couldn't open file " ++ value ++ ": " ++ e.reason)
          leave 4
    else return none

/-- The place of an error: the part of the script that some number of characters leads to. -/
def placeOf : List Part → Nat → Nat → String
  | [], _, _ => ""
  | part :: rest, number, position =>
      let size := part.text.length
      if size + 1 < position && !rest.isEmpty then
        placeOf rest (if part.file.isSome then number else number + 1) (position - size - 1)
      else
        match part.file with
        | none => "-e expression #" ++ toString number ++ ", char " ++ toString position
        | some file =>
            let line := ((part.text.toList.take (position - 1)).filter (· = '\n')).length + 1
            "file " ++ file ++ " line " ++ toString line

end Editor

open Editor in
/-- Edit streams. -/
def sed : Utility Nat := do
  let args := (← get).args
  let o ← match table.split (args.length + 1) args [] [] with
    | .ok o => pure o
    | .error e => wrongUse (some e)
  let (parts, operands) ← match ← parts o, o.operands with
    | [], [] => wrongUse none
    | [], script :: rest => pure ([(⟨script, none⟩ : Part)], rest)
    | parts, rest => pure (parts, rest)
  let text := Text.join "\n" (parts.map (·.text))
  let isMarked := text = "#n" || text.startsWith "#n\n"
  match Sed.read { extended := o.has 'E' || o.has 'r' } text with
  | .error (e, position) => do
      complain (placeOf parts 1 position ++ ": " ++ e)
      leave 1
  | .ok script => do
      let missing := script.findSome? fun c => match c.action with
        | .branch label | .branchIf label | .branchUnless label =>
            if label = "" || (Sed.Editing.labelIndex script label).isSome then none
            else some label
        | _ => none
      if let some label := missing then
        complain ("can't find label for jump to `" ++ label ++ "'")
        leave 4
      let inPlace := o.value? 'i'
      let mode : Sed.Mode :=
        { script := script
          quiet := o.has 'n' || isMarked
          separate := o.has 's' || inPlace.isSome
          inPlace := inPlace
          ending := if o.has 'z' then '\x00' else '\n'
          width := ((o.value? 'l').bind String.toNat?).getD 70 }
      let s ← get
      let waiting := if operands.isEmpty then ["-"] else operands
      Act.within { setting := s, waiting := waiting, ranges := mode.startRanges } leave
        (Sed.Editing.run mode)

end ScaffoldRunner.Utility
