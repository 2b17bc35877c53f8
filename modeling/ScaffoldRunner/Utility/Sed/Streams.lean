import ScaffoldRunner.Utility.Basic
import ScaffoldRunner.Utility.Sed.Substitution

/-!
# The streams of an editor

A stream editor reads one line after the other into its pattern space, and writes what has become
of it. A second text, the hold space, is kept from line to line. This module holds the state of the
editor and what it reads and writes.
-/

namespace ScaffoldRunner.Sed

/-- How the editor works. -/
structure Mode where
  script : Array Command
  /-- Nothing is written but what commands write. -/
  quiet : Bool := false
  /-- Each file is a stream of its own. -/
  separate : Bool := false
  /-- Files are edited where they are; the text is what the names of copies end with. -/
  inPlace : Option String := none
  /-- What lines end with. -/
  ending : Char := '\n'
  width : Nat := 70

/-- How far a range of lines has come. -/
inductive RangeState where
  | closed
  | open
  /-- Open up to a line. -/
  | upTo (line : Nat)

/-- The ranges of lines before the first line of a stream. -/
def Mode.startRanges (m : Mode) : Array RangeState :=
  m.script.map fun c => if c.selector.fromStart then .open else .closed

/-- What is written when the next line is read. -/
inductive Late where
  | text (octets : String)
  | file (path : String)

/-- An output, with whether the end of its last line is still to be written. -/
structure Output where
  descriptor : Nat
  written : List String := []
  size : Nat := 0
  owesEnd : Bool := false

structure State where
  setting : Setting
  status : Nat := 0
  /-- The inputs that are still to be opened. -/
  waiting : List String
  path : String := "-"
  descriptor : Option Nat := none
  /-- The lines that were read ahead, each with whether it has an end; and the part of a line. -/
  ahead : List (String × Bool) := []
  part : List Char := []
  line : Nat := 0
  space : String := ""
  /-- Whether the line at hand has an end. -/
  hasEnd : Bool := true
  hold : String := ""
  ranges : Array RangeState
  late : List Late := []
  replaced : Bool := false
  lastRegex : Regex := none
  output : Output := { descriptor := 1 }
  /-- The files that commands write to. -/
  writers : List (String × Output) := []
  /-- The files that commands read line by line, with what is left of them. -/
  readers : List (String × List String) := []

/-- A step of the editor; it may be left with a status. -/
abbrev Editing := Act Nat State

namespace Editing

/-- Say what is wrong. -/
def complain (text : String) : Editing Unit := Act.put 2 ("sed: " ++ text ++ "\n")

/-! ## Output -/

/-- How much is written at once. -/
def outputSize : Nat := 4096

/-- Write what was collected for an output. -/
def flush (o : Output) : Editing Output := do
  if o.written.isEmpty then return o
  if let some e ← Act.write o.descriptor (String.join o.written.reverse) then
    complain ("couldn't flush stdout: " ++ e.reason)
    throw 4
  return { o with written := [], size := 0 }

/-- Write a text to an output, after the end of the line before it. -/
def emit (m : Mode) (o : Output) (octets : String) (hasEnd : Bool) : Output :=
  let start := if o.owesEnd then String.singleton m.ending else ""
  let stop := if hasEnd then String.singleton m.ending else ""
  let text := start ++ octets ++ stop
  { o with written := text :: o.written, size := o.size + text.length, owesEnd := !hasEnd }

/-- Write a line to the output. -/
def put (m : Mode) (octets : String) (hasEnd : Bool := true) : Editing Unit := do
  let o := emit m (← get).output octets hasEnd
  let o ← if outputSize ≤ o.size && m.inPlace.isNone then flush o else pure o
  modify fun s => { s with output := o }

/-- Write octets as they are to the output. -/
def putRaw (m : Mode) (octets : String) : Editing Unit :=
  modify fun s =>
    let o := emit m s.output octets false
    { s with output := { o with owesEnd := false } }

/-- Open the files that the script writes to. -/
def openWriters (m : Mode) : Editing Unit :=
  m.script.forM fun c => do
    let path? : Option String := match c.action with
      | .writeFile path | .writeLine path => some path
      | .substitute s => s.file
      | _ => none
    if let some path := path? then
      let s ← get
      if path ≠ "/dev/stdout" && !(s.writers.any fun e => e.1 = path) then
        match ← Act.openFile (s.setting.resolve path) .writing s.setting.newMode with
        | .ok descriptor =>
            modify fun s => { s with
              writers := (path, { descriptor := descriptor }) :: s.writers }
        | .error e => do
            complain ("couldn't open file " ++ path ++ ": " ++ e.reason)
            throw 4

/-- Write a line to a file of the script. -/
def putTo (m : Mode) (path octets : String) (hasEnd : Bool) : Editing Unit := do
  if path = "/dev/stdout" then put m octets hasEnd
  else
    let s ← get
    match s.writers.find? fun e => e.1 = path with
    | none => return
    | some (_, o) => do
        let o ← flush (emit m o octets hasEnd)
        modify fun s => { s with
          writers := s.writers.map fun e => if e.1 = path then (path, o) else e }

/-! ## Input -/

/-- Put the edited text in the place of the file that was read. -/
def replaceFile (m : Mode) : Editing Unit := do
  if let some suffix := m.inPlace then
    let s ← get
    let text := String.join s.output.written.reverse
    let path := Octets.decode (s.setting.resolve s.path)
    let files ← Act.files
    if let .ok (.file bytes mode) := files.lookup path then
      if suffix ≠ "" then
        let names := Text.split '/' s.path
        let name := names.getLast?.getD ""
        let copied := if suffix.toList.contains '*' then
          Text.join name (Text.split '*' suffix) else name ++ suffix
        let copied := if copied.toList.contains '/' then copied
          else Text.join "/" (names.dropLast ++ [copied])
        let copied := Octets.decode (s.setting.resolve copied)
        let _ ← Act.change (FileTree.writeWith (fun _ => mode) copied bytes)
      let _ ← Act.change (FileTree.write path (Octets.toBytes text))
    set { s with output := { descriptor := 1 } }

/-- Open the next input that can be opened; whether there is one. -/
def openNext (m : Mode) : Nat → Editing Bool
  | 0 => return false
  | fuel + 1 => do
      let s ← get
      match s.waiting with
      | [] => return false
      | path :: waiting => do
          set { s with waiting := waiting }
          let start (descriptor : Nat) : Editing Unit := do
            replaceFile m
            modify fun s => { s with
              path := path, descriptor := some descriptor, part := []
              line := if m.separate then 0 else s.line
              ranges := if m.separate then m.startRanges else s.ranges }
          if path = "-" && m.inPlace.isNone then do
            start 0
            return true
          let isFile := (← Act.files).isFile (Octets.decode (s.setting.resolve path))
          match ← Act.openFile (s.setting.resolve path) .reading with
          | .error e => do
              complain ("can't read " ++ path ++ ": " ++ e.reason)
              modify fun s => { s with status := 2 }
              openNext m fuel
          | .ok descriptor => do
              if m.inPlace.isSome && !isFile then
                complain ("couldn't edit " ++ path ++ ": not a regular file")
                throw 4
              start descriptor
              return true

/-- Read ahead in the open input until there is a line; whether there is one. -/
def readAhead (m : Mode) : Nat → Editing Bool
  | 0 => return false
  | fuel + 1 => do
      let s ← get
      if !s.ahead.isEmpty then return true
      match s.descriptor with
      | none => return false
      | some descriptor => do
          match ← Act.ask (.read descriptor Act.blockSize false) with
          | .error e => do
              complain ("read error on " ++ s.path ++ ": " ++ e.reason)
              throw 4
          | .ok block => do
              if block.isEmpty then
                if descriptor ≠ 0 then Act.close descriptor
                set { s with
                  descriptor := none, part := []
                  ahead := if s.part.isEmpty then [] else [(String.ofList s.part, false)] }
                return !s.part.isEmpty
              else
                let (lines, part) := Utility.cutAt m.ending (s.part ++ block.toList)
                set { s with
                  ahead := lines.map fun line => (String.ofList line, true)
                  part := part }
                readAhead m fuel

/-- Read ahead in the inputs until there is a line; whether there is one. -/
def readOn (m : Mode) : Nat → Editing Bool
  | 0 => return false
  | fuel + 1 => do
      if ← readAhead m Act.rounds then return true
      else if ← openNext m ((← get).waiting.length + 1) then readOn m fuel
      else return false

/-- Whether the line at hand is the last one. -/
def isLast (m : Mode) : Editing Bool := do
  if m.separate then return !(← readAhead m Act.rounds)
  else return !(← readOn m ((← get).waiting.length + 2))

/-- Write what was put off until the next line. -/
def putLate (m : Mode) : Editing Unit := do
  let late := (← get).late
  if late.isEmpty then return
  modify fun s => { s with late := [] }
  for entry in late do
    match entry with
    | .text octets => putRaw m octets
    | .file path => do
        match ← Act.openFile ((← get).setting.resolve path) .reading with
        | .error _ => pure ()
        | .ok descriptor => do
            match ← Act.readAll descriptor with
            | .ok text => putRaw m text
            | .error _ => pure ()
            Act.close descriptor

/-- Read the next line; whether there is one. -/
def nextLine? (m : Mode) : Editing (Option String) := do
  let _ ← Act.ask .clock
  putLate m
  modify fun s => { s with replaced := false }
  if !(← readOn m ((← get).waiting.length + 2)) then return none
  let s ← get
  match s.ahead with
  | [] => return none
  | (text, hasEnd) :: ahead => do
      set { s with ahead := ahead, hasEnd := hasEnd, line := s.line + 1 }
      return some text

end Editing

end ScaffoldRunner.Sed
