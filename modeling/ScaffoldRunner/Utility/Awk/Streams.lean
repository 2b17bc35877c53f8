import ScaffoldRunner.Utility.Awk.Parser
import ScaffoldRunner.Utility.Awk.Table
import ScaffoldRunner.Utility.Running

/-!
# The streams of a program

A program on records reads them from its inputs, and may read from other files and from programs
that it starts; it writes to its output, to files and to programs. This module holds the state of
such a program at work, and what it reads and writes.
-/

namespace ScaffoldRunner.Awk

/-- What a variable holds: a value, or the number of a table. -/
inductive Slot where
  | value (v : Value)
  | table (index : Nat)

instance : Inhabited Slot := ⟨.value .unset⟩

/-- Where text is written to. What was written is kept until there is enough of it. -/
structure Outlet where
  name : String
  descriptor : Nat
  /-- The program that reads what is written. -/
  process : Option Nat := none
  kept : List String := []
  size : Nat := 0

/-- Where text is read from. -/
structure Inlet where
  name : String
  descriptor : Nat
  /-- The program that writes what is read. -/
  process : Option Nat := none
  /-- What has been read, but is not used yet. -/
  ahead : List Char := []
  isOver : Bool := false

/-- Why a program is left, or a part of it. -/
inductive Leaving where
  /-- The program ends; what is to be done at the end is done. -/
  | program
  /-- The program ends at once. -/
  | fault (status : Nat)
  | record
  | file
  | function (v : Value)
  | loop
  | round

/-- The state of a program at work. -/
structure State where
  setting : Setting
  script : Script
  load : Loader
  /-- What the variables of the program and of the function at work hold. -/
  shared : Array Slot
  own : Array Slot := #[]
  /-- How many variables the functions at work have together. -/
  room : Nat := 0
  tables : Array Table := #[]
  /-- The record, as it was read or put together. -/
  record : String := ""
  /-- Whether the record is to be put together from its fields. -/
  isStale : Bool := false
  /-- The fields, once the record has been cut. -/
  fields : Option (Array Value) := none
  /-- For each range of records, whether it is open. -/
  ranges : Array Bool
  outlets : List Outlet := [{ name := "/dev/stdout", descriptor := 1 },
    { name := "/dev/stderr", descriptor := 2 }]
  inlets : List Inlet := []
  /-- The input that records are read from, and the number of the next argument. -/
  input : Option Inlet := none
  nextArgument : Nat := 1
  /-- Whether some argument has named an input. -/
  hasInput : Bool := false
  /-- Whether all inputs have been read. -/
  isOver : Bool := false
  /-- The patterns that texts were found to stand for. -/
  patterns : List (String × Regex) := []
  seed : Float := 0.0
  /-- The number behind the last random one. -/
  chance : Nat := 0
  status : Nat := 0

/-- A step of a program; it may be left for a reason. -/
abbrev Running := Act Leaving State

namespace Running

/-! ## Variables -/

/-- The value of a variable of the program. -/
def sharedValue (index : Nat) : Running Value := do
  match (← get).shared.getD index default with
  | .value v => return v
  | .table _ => return .unset

/-- Give a variable of the program a value, and do nothing else. -/
def setShared (index : Nat) (v : Value) : Running Unit :=
  modify fun s => { s with shared := s.shared.setIfInBounds index (.value v) }

/-- How numbers become texts. -/
def conversion : Running String := do return (← sharedValue Script.conversionFormat).toText "%.6g"

def textOf (v : Value) : Running String := do
  match v with
  | .text s | .input s => return s
  | v => return v.toText (← conversion)

/-- The text of a variable of the program. -/
def sharedText (index : Nat) : Running String := do textOf (← sharedValue index)

def table (index : Nat) : Running Table := do return (← get).tables.getD index {}

def changeTable (index : Nat) (f : Table → Table) : Running Unit :=
  modify fun s => { s with tables := s.tables.modify index f }

/-- The number of the table of a variable of the program. -/
def sharedTable (index : Nat) : Running Nat := do
  match (← get).shared.getD index default with
  | .table i => return i
  | .value _ => return 0

/-! ## Complaints -/

/-- Say what is wrong. -/
def complain (text : String) : Running Unit := do
  let name := ((Text.split '/' (← get).setting.name).getLast?).getD ""
  Act.put 2 (name ++ ": " ++ text ++ "\n")

/-- Say what is wrong, and end the program at once. -/
def quit {α : Type} (text : String) : Running α := do
  complain text
  throw (.fault 2)

/-- Say what is wrong at the record at hand, and end the program at once. -/
def fault {α : Type} (text : String) : Running α := do
  let name ← sharedText Script.fileName
  let place := "\n\tFILENAME=\"" ++ name ++ "\" FNR=" ++ (← sharedText Script.fileRecordNumber) ++
    " NR=" ++ (← sharedText Script.recordNumber)
  quit ("run time error: " ++ text ++ place)

/-! ## Output -/

/-- How much is kept before it is written. -/
def outputSize : Nat := 4096

/-- Write what was kept for an outlet. -/
def flush (o : Outlet) : Running Outlet := do
  if o.kept.isEmpty then return o
  if let some e ← Act.write o.descriptor (String.join o.kept.reverse) then
    complain ("close failed on file \"" ++ o.name ++ "\" (" ++ e.reason ++ ")")
    modify fun s => { s with
      outlets := s.outlets.map fun other =>
        if other.descriptor = o.descriptor then { other with kept := [], size := 0 } else other }
    throw (.fault 2)
  return { o with kept := [], size := 0 }

/-- Put an outlet in front of all others. -/
def setOutlet (o : Outlet) : Running Unit :=
  modify fun s => { s with
    outlets := o :: s.outlets.filter fun other => other.descriptor ≠ o.descriptor }

def changeOutlet (o : Outlet) : Running Unit :=
  modify fun s => { s with
    outlets := s.outlets.map fun other => if other.descriptor = o.descriptor then o else other }

/-- Write what was kept for all outlets. -/
def flushAll : Running Unit := do
  for o in (← get).outlets do
    changeOutlet (← flush o)

/-- Write what was kept for the output. -/
def flushOutput : Running Unit := do
  for o in (← get).outlets do
    if o.descriptor = 1 then changeOutlet (← flush o)

/-- Add text to an outlet. Complaints are not kept. -/
def add (o : Outlet) (text : String) : Running Outlet := do
  let o := { o with kept := text :: o.kept, size := o.size + text.length }
  if o.descriptor = 2 || outputSize ≤ o.size then flush o else return o

/-- The program that runs a command, in the place of the one at work. All streams of the program
are closed, and one end of a pipe takes the place of the input or of the output. -/
def runCommand (load : Loader) (s : Setting) (unused : List Nat) (descriptor target : Nat)
    (command : String) : Program :=
  Utility.program (do
    if descriptor ≠ target then
      let _ ← Act.copy descriptor target
      Act.close descriptor
    for other in unused do
      Act.close other
    Utility.launch load ["/bin/sh", "-c", command] Utility.plainComplaint) s

/-- The descriptors of all streams that were opened. -/
def opened (s : State) : List Nat :=
  let all := s.outlets.map (·.descriptor) ++ s.inlets.map (·.descriptor) ++
    (s.input.map (·.descriptor)).toList
  all.filter (2 < ·)

/-- Run a command whose input or output is a pipe; the answer is the own end of the pipe and the
process. -/
def openPipe (command : String) (writes : Bool) : Running (Nat × Nat) := do
  flushOutput
  let (reading, writing) ← Act.makePipe
  let (own, other) := if writes then (writing, reading) else (reading, writing)
  let process ← Act.fork fun s =>
    runCommand s.load s.setting (own :: opened s) other (if writes then 0 else 1) command
  Act.close other
  return (own, process)

/-- The status of a process that is waited for. -/
def awaitStatus (process : Nat) : Running Nat := do
  match ← Act.await (some process) .full with
  | .ended _ (.exited status) => return status
  | .ended _ (.killed signal) => return 256 + signal
  | _ => return 0

def outlet (sink : Sink) (name : String) : Running Outlet := do
  let isPipe : Bool := match sink with
    | .pipe => true
    | _ => false
  let s ← get
  match s.outlets.find? fun o => o.name = name && o.process.isSome = isPipe with
  | some o => return o
  | none =>
      match sink with
      | .pipe => do
          let (descriptor, process) ← openPipe name true
          return { name := name, descriptor := descriptor, process := some process }
      | sink => do
          let access : Access := match sink with
            | .append => .appending
            | _ => .writing
          match ← Act.openFile (s.setting.resolve name) access s.setting.newMode with
          | .ok descriptor => return { name := name, descriptor := descriptor }
          | .error e => quit ("cannot open \"" ++ name ++ "\" for output (" ++ e.reason ++ ")")

def write (target : Option (Sink × String)) (text : String) : Running Unit := do
  match target with
  | some (sink, name) => setOutlet (← add (← outlet sink name) text)
  | none =>
      match (← get).outlets.find? fun o => o.descriptor = 1 with
      | some o => changeOutlet (← add o text)
      | none => return

/-- Close an outlet; the answer is its status. -/
def closeOutlet (o : Outlet) : Running Nat := do
  let _ ← flush o
  modify fun s => { s with
    outlets := s.outlets.filter fun other => other.descriptor ≠ o.descriptor }
  Act.close o.descriptor
  match o.process with
  | some process => awaitStatus process
  | none => return 0

/-- Write all that was kept, and wait for the programs that read it. -/
def closeAll : Running Unit := do
  for o in (← get).outlets do
    if o.process.isSome then
      let _ ← closeOutlet o
    else changeOutlet (← flush o)

/-! ## Input -/

def readOn (i : Inlet) : Running Inlet := do
  match ← Act.ask (.read i.descriptor Act.blockSize false) with
  | .error _ => return { i with isOver := true }
  | .ok block =>
      if block.isEmpty then return { i with isOver := true }
      else return { i with ahead := i.ahead ++ block.toList }

/-- How records are told apart. -/
inductive Separation where
  | character (c : Char)
  /-- By empty lines. -/
  | paragraphs
  | pattern (r : Regex)

/-- Find the first record in a text: the record and what follows its end. Without an end there is
none, but at the end of the input the rest of it is one. -/
def recordIn (how : Separation) (isOver : Bool) (cs : List Char) :
    Option (List Char × List Char) :=
  let rest : Option (List Char × List Char) :=
    if isOver && !cs.isEmpty then some (cs, []) else none
  match how with
  | .character c =>
      let text := cs.takeWhile (· ≠ c)
      match cs.drop text.length with
      | _ :: after => some (text, after)
      | [] => rest
  | .paragraphs =>
      if !isOver then none
      else
        let cs := cs.dropWhile (· = '\n')
        let rec go : List Char → List Char → List Char × List Char
          | '\n' :: '\n' :: after, done => (done.reverse, after.dropWhile (· = '\n'))
          | ['\n'], done => (done.reverse, [])
          | c :: after, done => go after (c :: done)
          | [], done => (done.reverse, [])
        if cs.isEmpty then none else some (go cs [])
  | .pattern r =>
      if !isOver then none
      else
        match Pattern.matchFrom? cs.toArray r.groups r.pattern 0 with
        | some m =>
            if m.stop = m.start then rest else some (cs.take m.start, cs.drop m.stop)
        | none => rest

def readRecord (how : Separation) : Nat → Inlet → Running (Option String × Inlet)
  | 0, i => return (none, i)
  | fuel + 1, i => do
      match recordIn how i.isOver i.ahead with
      | some (text, rest) => return (some (String.ofList text), { i with ahead := rest })
      | none =>
          if i.isOver then return (none, { i with ahead := [] })
          else readRecord how fuel (← readOn i)

def pattern (text : String) : Running Regex := do
  let s ← get
  match s.patterns.find? fun e => e.1 = text with
  | some (_, r) => return r
  | none =>
      match Parse.pattern text with
      | .ok r => do
          set { s with patterns := (text, r) :: s.patterns.take 50 }
          return r
      | .error e => fault e

/-- How the records of the program are told apart. -/
def separation : Running Separation := do
  match (← sharedText Script.recordSeparator).toList with
  | [] => return .paragraphs
  | [c] => return .character c
  | cs => return .pattern (← pattern (String.ofList cs))

/-- Read from an inlet of some name, which is opened when it is read from for the first time. No
inlet can be opened: `none`. At its end there is no text. -/
def readFrom (isPipe : Bool) (name : String) : Running (Option (Option String)) := do
  let s ← get
  let known : Option Inlet := s.inlets.find? fun i => i.name = name && i.process.isSome = isPipe
  let found : Option Inlet ← match known with
    | some i => pure (some i)
    | none =>
        if isPipe then do
          let (descriptor, process) ← openPipe name false
          pure (some { name := name, descriptor := descriptor, process := some process })
        else if name = "-" || name = "/dev/stdin" then
          pure (some { name := name, descriptor := 0 })
        else
          match ← Act.openFile (s.setting.resolve name) .reading with
          | .ok descriptor => pure (some { name := name, descriptor := descriptor })
          | .error _ => pure none
  match found with
  | none => return none
  | some i => do
      let (text, i) ← readRecord (← separation) Act.rounds i
      let isSame (other : Inlet) : Bool :=
        other.name = name && other.process.isSome = isPipe
      modify fun s => { s with inlets := i :: s.inlets.filter fun other => !isSame other }
      return some text

/-- Close all streams of some name; the answer is the status of the last one. -/
def closeNamed (name : String) : Running (Option Nat) := do
  let s ← get
  let mut status : Option Nat := none
  for o in s.outlets.filter fun o => o.name = name do
    status := some (← closeOutlet o)
  for i in s.inlets.filter fun i => i.name = name do
    modify fun s => { s with inlets := s.inlets.filter fun other =>
      other.name ≠ name || other.process.isSome ≠ i.process.isSome }
    if i.descriptor ≠ 0 then Act.close i.descriptor
    match i.process with
    | some process => status := some (← awaitStatus process)
    | none => status := some 0
  return status

end Running

end ScaffoldRunner.Awk
