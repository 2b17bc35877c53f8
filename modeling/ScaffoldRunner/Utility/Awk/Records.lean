import ScaffoldRunner.Utility.Awk.Streams

/-!
# Records and fields

A record is cut into fields when one of them is asked for. A field that is set changes the record,
which is put together again when it is asked for; the number of fields can be set, too. This module
also goes from record to record, through the inputs that the arguments name.
-/

namespace ScaffoldRunner.Awk

/-- How a text is cut into pieces. -/
inductive Cutting where
  /-- At blanks and line ends, which may come at both ends, too. -/
  | blanks
  | character (c : Char)
  /-- Into its characters. -/
  | characters
  | pattern (r : Regex)

namespace Cutting

def words (cs : List Char) : List (List Char) :=
  let isBlank (c : Char) : Bool := c = ' ' || c = '\t' || c = '\n'
  let rec go : List Char → List Char → List (List Char) → List (List Char)
    | [], [], done => done.reverse
    | [], word, done => (word.reverse :: done).reverse
    | c :: cs, word, done =>
        if isBlank c then go cs [] (if word.isEmpty then done else word.reverse :: done)
        else go cs (c :: word) done
  go cs [] []

/-- The pieces of a text between matches of a pattern. A match of nothing does not count. -/
def between (text : Array Char) (r : Regex) : Nat → Nat → Nat → List (List Char) →
    List (List Char)
  | 0, start, _, done => ((text.extract start text.size).toList :: done).reverse
  | fuel + 1, start, position, done =>
      match Pattern.matchFrom? text r.groups r.pattern position with
      | none => ((text.extract start text.size).toList :: done).reverse
      | some m =>
          if m.stop = m.start then
            if text.size ≤ m.start then ((text.extract start text.size).toList :: done).reverse
            else between text r fuel start (m.start + 1) done
          else
            between text r fuel m.stop m.stop ((text.extract start m.start).toList :: done)

/-- The pieces of a text. Nothing has no pieces. -/
def pieces (how : Cutting) (text : String) : List String :=
  let cs := text.toList
  let found : List (List Char) :=
    if cs.isEmpty then []
    else
      match how with
      | .blanks => words cs
      | .character c =>
          let (front, last) := Utility.cutAt c cs
          front ++ [last]
      | .characters => cs.map fun c => [c]
      | .pattern r => between cs.toArray r (cs.length + 1) 0 0 []
  found.map String.ofList

end Cutting

namespace Running

/-- How a text says that it is to be cut. -/
def cutting (text : String) : Running Cutting := do
  match text.toList with
  | [] => return .characters
  | [' '] => return .blanks
  | [c] => return .character c
  | _ => return .pattern (← pattern text)

/-! ## Fields -/

/-- Cut the record, unless that has been done. -/
def cutRecord : Running (Array Value) := do
  let s ← get
  match s.fields with
  | some fields => return fields
  | none => do
      let how ← cutting (← sharedText Script.fieldSeparator)
      let fields := ((how.pieces s.record).map Value.input).toArray
      modify fun s => { s with fields := some fields }
      setShared Script.fieldCount (.ofNat fields.size)
      return fields

def setRecord (text : String) : Running Unit :=
  modify fun s => { s with record := text, isStale := false, fields := none }

def record : Running String := do
  let s ← get
  if !s.isStale then return s.record
  let separator ← sharedText Script.outputFieldSeparator
  let texts ← (s.fields.getD #[]).toList.mapM textOf
  let text := separator.intercalate texts
  modify fun s => { s with record := text, isStale := false }
  return text

/-- The field of some number; the record has number zero. -/
def field (n : Int) : Running Value := do
  if n < 0 then fault ("negative field index $" ++ toString n)
  else if n = 0 then return .input (← record)
  else return (← cutRecord).getD (n.toNat - 1) (.input "")

def setFields (fields : Array Value) : Running Unit := do
  modify fun s => { s with fields := some fields, isStale := true }
  setShared Script.fieldCount (.ofNat fields.size)

/-- So many fields, of which new ones are empty. -/
def resized (fields : Array Value) (size : Nat) : Array Value :=
  fields.extract 0 size ++ Array.replicate (size - fields.size) (Value.text "")

def setField (n : Int) (v : Value) : Running Unit := do
  if n < 0 then fault ("negative field index $" ++ toString n)
  else if n = 0 then setRecord (← textOf v)
  else
    let fields ← cutRecord
    let fields := if fields.size < n.toNat then resized fields n.toNat else fields
    setFields (fields.setIfInBounds (n.toNat - 1) v)

/-! ## Variables -/

def value (v : Variable) : Running Value := do
  match v with
  | .shared index => do
      if index = Script.fieldCount then
        let _ ← cutRecord
      sharedValue index
  | .own index =>
      match (← get).own.getD index default with
      | .value v => return v
      | .table _ => return .unset

def setValue (place : Variable) (v : Value) : Running Unit := do
  match place with
  | .shared index =>
      if index = Script.fieldCount then
        let fields ← cutRecord
        let n := Value.toInt v.toNumber
        if n < 0 then fault "negative value assigned to NF"
        else
          setFields (resized fields n.toNat)
          setShared index v
      else
        if index = Script.fieldSeparator then
          let _ ← cutRecord
        if index = Script.outputFieldSeparator then
          let _ ← record
        setShared index v
  | .own index =>
      modify fun s => { s with own := s.own.setIfInBounds index (.value v) }

/-- The number of the table that a variable stands for. -/
def tableOf (v : Variable) : Running Nat := do
  let s ← get
  let slot := match v with
    | .shared index => s.shared.getD index default
    | .own index => s.own.getD index default
  match slot with
  | .table index => return index
  | .value _ => return s.tables.size

/-! ## From record to record -/

/-- The parts of an argument that gives a variable a value. -/
def assignment? (arg : String) : Option (String × String) :=
  match arg.toList with
  | c :: _ =>
      if !Token.isLetter c then none
      else
        let name := arg.toList.takeWhile Token.isInName
        match arg.toList.drop name.length with
        | '=' :: text => some (String.ofList name, String.ofList text)
        | _ => none
  | [] => none

/-- Give the variable of some name a value, as an argument says. -/
def assignNamed (name text : String) : Running Unit := do
  let v : Value := .input (String.ofList (unescaped text.toList))
  match (← get).script.shared.findIdx? fun e => e.1 = name with
  | some index => setValue (.shared index) v
  | none => return

def openInput (name : String) : Running Unit := do
  let descriptor ← if name = "-" || name = "/dev/stdin" then pure 0 else
    match ← Act.openFile ((← get).setting.resolve name) .reading with
    | .ok descriptor => pure descriptor
    | .error e => quit ("cannot open \"" ++ name ++ "\" (" ++ e.reason ++ ")")
  modify fun s => { s with
    input := some { name := name, descriptor := descriptor }, hasInput := true }
  setShared Script.fileName (.text name)
  setShared Script.fileRecordNumber (.number 0.0)

/-- Open the next input that the arguments name; whether there is one. -/
def openNext : Nat → Running Bool
  | 0 => return false
  | fuel + 1 => do
      let s ← get
      let count := Value.toNat (← sharedValue Script.argumentCount).toNumber
      if s.nextArgument < count then
        set { s with nextArgument := s.nextArgument + 1 }
        let args ← table (← sharedTable Script.arguments)
        let arg ← textOf (args.get (.number (Int.ofNat s.nextArgument)))
        if arg = "" then openNext fuel
        else
          match assignment? arg with
          | some (name, text) => do
              assignNamed name text
              openNext fuel
          | none => do
              openInput arg
              return true
      else if s.hasInput then return false
      else
        openInput "-"
        return true

def closeInput : Running Unit := do
  if let some i := (← get).input then
    if i.descriptor ≠ 0 then Act.close i.descriptor
    modify fun s => { s with input := none }

/-- The text of the next record, which is counted. -/
def nextText : Nat → Running (Option String)
  | 0 => return none
  | fuel + 1 => do
      let s ← get
      if s.isOver then return none
      match s.input with
      | none =>
          if ← openNext (Act.rounds) then nextText fuel
          else
            modify fun s => { s with isOver := true }
            return none
      | some i => do
          let (text, i) ← readRecord (← separation) Act.rounds i
          modify fun s => { s with input := some i }
          match text with
          | none => do
              closeInput
              nextText fuel
          | some text => do
              let count (index : Nat) : Running Unit := do
                setShared index (.number ((← sharedValue index).toNumber + 1.0))
              count Script.recordNumber
              count Script.fileRecordNumber
              return some text

end Running

end ScaffoldRunner.Awk
