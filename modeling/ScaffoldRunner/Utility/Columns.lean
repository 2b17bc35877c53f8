import ScaffoldRunner.Utility.Copying

/-!
# Columns of lines

Utilities that cut lines into parts, put lines side by side, or bring them to a width.
-/

namespace ScaffoldRunner.Utility

/-- Do something with the text of each input that can be read, with complaints about the others;
whether all could be. -/
def eachText (paths : List String) (action : String → Utility Unit) : Utility Bool :=
  forAll paths fun path => do
    match ← contentsOrComplain path with
    | none => return false
    | some text => do
        action text
        return true

/-- The texts between the ends of lines, and whether the last one has an end. -/
def linesBetween (ending : Char) (text : String) : List String × Bool :=
  let (lines, rest) := cutAt ending text.toList
  let lines := lines.map String.ofList
  if rest.isEmpty then (lines, true) else (lines ++ [String.ofList rest], false)

/-! ## Parts of lines -/

namespace Cut

/-- A range of positions; without an end it goes on. -/
structure Range where
  first : Nat
  last : Option Nat

/-- Whether a position is in one of some ranges. -/
def has (ranges : List Range) (n : Nat) : Bool :=
  ranges.any fun r => r.first ≤ n && r.last.all (n ≤ ·)

def ranges (isFields : Bool) (text : String) : Except String (List Range) :=
  let isBlank (c : Char) : Bool := c = ',' || c = ' ' || c = '\t'
  (Text.split ',' (text.map fun c => if isBlank c then ',' else c)).mapM fun item => do
    let number (digits : String) : Except String Nat :=
      match if digits.toList.all Char.isDigit then digits.toNat? else none with
      | some 0 => .error (if isFields then "fields are numbered from 1"
          else "byte/character positions are numbered from 1")
      | some n => .ok n
      | none => .error ((if isFields then "invalid field value "
          else "invalid byte/character position ") ++ quoted item)
    match Text.split '-' item with
    | [""] => throw (if isFields then "fields are numbered from 1"
        else "byte/character positions are numbered from 1")
    | [n] => do
        let n ← number n
        return ⟨n, some n⟩
    | ["", ""] => throw ("invalid range with no endpoint: " ++ item)
    | [first, ""] => return ⟨← number first, none⟩
    | ["", last] => return ⟨1, some (← number last)⟩
    | [first, last] => do
        let first ← number first
        let last ← number last
        if last < first then throw "invalid decreasing range"
        return ⟨first, some last⟩
    | _ => throw ((if isFields then "invalid field value "
        else "invalid byte/character position ") ++ quoted item)

structure Mode where
  ranges : List Range
  fields : Bool
  complement : Bool
  delimiter : Char
  /-- What stands between the parts; nothing, if parts of positions just follow each other. -/
  joined : Option String
  onlyDelimited : Bool

/-- The positions that are kept, in stretches that follow each other in the line. -/
def stretches (m : Mode) (cs : List Char) : List (List Char) :=
  let numbered := (List.range cs.length).zip cs
  let kept (i : Nat) : Bool := has m.ranges (i + 1) != m.complement
  let starts (i : Nat) : Bool := m.ranges.any fun r => r.first = i + 1
  let (out, current, _) := numbered.foldl (fun (out, current, wasKept) (i, c) =>
    if !kept i then (out, current, false)
    else if wasKept && !starts i then (out, c :: current, true)
    else ((if current.isEmpty then out else current.reverse :: out), [c], true))
    (([] : List (List Char)), ([] : List Char), false)
  (if current.isEmpty then out else current.reverse :: out).reverse

/-- A line after it was cut; none if it is left out. -/
def line? (m : Mode) (line : String) : Option String :=
  if m.fields then
    let parts := Text.split m.delimiter line
    if parts.length ≤ 1 then (if m.onlyDelimited then none else some line)
    else
      let kept := ((List.range parts.length).zip parts).filter fun (i, _) =>
        has m.ranges (i + 1) != m.complement
      some (Text.join (m.joined.getD (String.singleton m.delimiter)) (kept.map (·.2)))
  else some (Text.join (m.joined.getD "") ((stretches m line.toList).map String.ofList))

end Cut

/-- Write parts of lines. -/
def cut : Utility Nat := do
  let o ← options
    { letters := "b:c:d:f:nszC\x01:"
      names := [("bytes", 'b'), ("characters", 'c'), ("fields", 'f'), ("delimiter", 'd'),
        ("only-delimited", 's'), ("output-delimiter", '\x01'), ("complement", 'C'),
        ("zero-terminated", 'z')] }
  let lists := o.given.filter fun e => e.1 = 'b' || e.1 = 'c' || e.1 = 'f'
  match lists with
  | [] => misuse "you must specify a list of bytes, characters, or fields"
  | _ :: _ :: _ => misuse "only one list may be specified"
  | [(letter, list)] => do
      let isFields := letter = 'f'
      let delimiter := o.value? 'd'
      if delimiter.any fun d => 1 < d.length then
        misuse "the delimiter must be a single character"
      let ranges ← match Cut.ranges isFields list with
        | .ok ranges => pure ranges
        | .error e => misuse e
      if !isFields && delimiter.isSome then
        misuse "an input delimiter may be specified only when operating on fields"
      if !isFields && o.has 's' then
        misuse "suppressing non-delimited lines makes sense\n\tonly when operating on fields"
      let m : Cut.Mode :=
        { ranges := ranges
          fields := isFields
          complement := o.has 'C'
          delimiter := (delimiter.bind fun d => d.toList.head?).getD
            (if delimiter.isSome then '\x00' else '\t')
          joined := o.value? '\x01'
          onlyDelimited := o.has 's' }
      let ending := if o.has 'z' then '\x00' else '\n'
      let isDone ← eachText o.inputs fun text => do
        let lines := (linesBetween ending text).1.filterMap (Cut.line? m)
        put (String.join (lines.map fun line => line ++ String.singleton ending))
      return statusOf isDone

/-! ## Lines side by side -/

/-- The characters that stand between pasted lines; an escaped zero stands for none. -/
def pasteMarks : List Char → List String
  | '\\' :: c :: cs =>
      (match c with
        | 'n' => "\n"
        | 't' => "\t"
        | 'b' => "\x08"
        | 'f' => "\x0c"
        | 'r' => "\x0d"
        | 'v' => "\x0b"
        | '0' => ""
        | c => String.singleton c) :: pasteMarks cs
  | c :: cs => String.singleton c :: pasteMarks cs
  | [] => []

/-- Texts with marks between them, which are used in turn. -/
def interleave (marks : List String) (texts : List String) : String :=
  let size := max marks.length 1
  String.join (((List.range texts.length).zip texts).flatMap fun (i, text) =>
    if i = 0 then [text] else [marks.getD ((i - 1) % size) "", text])

/-- Lines that are taken from each of some inputs in turn, as long as one has any. -/
def pasteRows (marks : List String) : Nat → List (List String) → List String → List String
  | 0, _, rows => rows.reverse
  | fuel + 1, inputs, rows =>
      if inputs.all List.isEmpty then rows.reverse
      else
        pasteRows marks fuel (inputs.map (List.drop 1))
          (interleave marks (inputs.map fun lines => lines.headD "") :: rows)

/-- The lines of the input, dealt out among those who share it. -/
def deal (lines : List String) (count index : Nat) : List String :=
  (((List.range lines.length).zip lines).filter fun (i, _) => i % count = index).map (·.2)

/-- Write lines of inputs side by side. -/
def paste : Utility Nat := do
  let o ← options
    { letters := "d:sz", names := [("delimiters", 'd'), ("serial", 's'), ("zero-terminated", 'z')] }
  let marks := pasteMarks ((o.value? 'd').getD "\t").toList
  let ending := if o.has 'z' then '\x00' else '\n'
  let stop := String.singleton ending
  let shared := (o.inputs.filter (· = "-")).length
  let common ← if shared = 0 then pure []
    else do
      let text ← contents "-"
      pure (linesBetween ending (text.toOption.getD "")).1
  let (inputs, _, isDone) ← o.inputs.foldlM (fun (inputs, index, isDone) path => do
    if path = "-" then
      let lines := if o.has 's' then (if index = 0 then common else [])
        else deal common shared index
      return (inputs ++ [lines], index + 1, isDone)
    else
      match ← contentsOrComplain path with
      | none =>
          if o.has 's' then return (inputs, index, false) else leave 1
      | some text => return (inputs ++ [(linesBetween ending text).1], index, isDone))
    (([] : List (List String)), 0, true)
  if o.has 's' then
    put (String.join (inputs.map fun lines => interleave marks lines ++ stop))
  else
    let most := (inputs.map List.length).foldl max 0
    put (String.join ((pasteRows marks (most + 1) inputs []).map fun row => row ++ stop))
  return statusOf isDone

/-! ## Widths -/

def columnAfter (octets : Bool) (column : Nat) (c : Char) : Nat :=
  if octets then column + 1
  else
    match c with
    | '\x08' => column - 1
    | '\r' => 0
    | '\t' => column + (8 - column % 8)
    | _ => column + 1

/-- A line broken into lines of some width; at blanks if so asked. What was written comes with the
last character first. -/
def foldLine (octets blanks : Bool) (width : Nat) : Nat → List Char → List Char → Nat →
    List Char → List Char
  | 0, cs, line, _, out => cs.reverseAux (line ++ out)
  | _, [], line, _, out => line ++ out
  | fuel + 1, c :: cs, line, column, out =>
      let next := columnAfter octets column c
      if next ≤ width || line.isEmpty then
        foldLine octets blanks width fuel cs (c :: line) next out
      else
        let isBlank (c : Char) : Bool := c = ' ' || c = '\t'
        let rest := if blanks then line.takeWhile (!isBlank ·) else []
        if rest.length = line.length || !blanks then
          foldLine octets blanks width fuel (c :: cs) [] 0 ('\n' :: (line ++ out))
        else
          let column := rest.reverse.foldl (columnAfter octets) 0
          foldLine octets blanks width fuel (c :: cs) rest column
            ('\n' :: (line.drop rest.length ++ out))

/-- Arguments where a number after a dash is the value of an option. -/
def spellNumber (letter : String) (args : List String) : List String :=
  args.flatMap fun arg =>
    match arg.toList with
    | '-' :: c :: cs => if (c :: cs).all Char.isDigit then [letter, String.ofList (c :: cs)]
        else [arg]
    | _ => [arg]

/-- Break lines that are too long. -/
def fold : Utility Nat := do
  modify fun s => { s with args := spellNumber "-w" s.args }
  let o ← options
    { letters := "bsw:", names := [("bytes", 'b'), ("spaces", 's'), ("width", 'w')] }
  let text := (o.value? 'w').getD "80"
  let width ← match text.toNat? with
    | some 0 | none => do
        complain ("invalid number of columns: " ++ quoted text)
        leave 1
    | some n => pure n
  return statusOf (← eachText o.inputs fun text => do
    let (lines, isEnded) := linesOf text
    let shown := lines.map fun line =>
      let cs := line.toList
      String.ofList (foldLine (o.has 'b') (o.has 's') width (3 * cs.length + 2) cs [] 0 []).reverse
    put (Text.join "\n" shown ++ (if isEnded && !lines.isEmpty then "\n" else "")))

/-- The column of the next tab stop: the stops are listed, or come at even distances. -/
def nextStop (stops : List Nat) (column : Nat) : Nat :=
  match stops with
  | [size] => (column / max size 1 + 1) * max size 1
  | stops => (stops.find? (column < ·)).getD (column + 1)

/-- Write inputs with blanks in the place of tabs. -/
def expand : Utility Nat := do
  modify fun s => { s with args := spellNumber "-t" s.args }
  let o ← options { letters := "it:", names := [("initial", 'i'), ("tabs", 't')] }
  let list := (o.value? 't').getD "8"
  let separated := list.map fun c => if c = ' ' then ',' else c
  let stops := (Text.split ',' separated).filterMap String.toNat?
  return statusOf (← eachText o.inputs fun text => do
    let (out, _, _) := text.toList.foldl (fun (out, column, isInitial) c =>
      match c with
      | '\n' => (c :: out, 0, true)
      | '\t' =>
          if isInitial || !o.has 'i' then
            let stop := nextStop stops column
            (List.replicate (stop - column) ' ' ++ out, stop, isInitial)
          else (c :: out, nextStop stops column, isInitial)
      | c => (c :: out, column + 1, isInitial && c = ' ')) (([] : List Char), 0, true)
    put (String.ofList out.reverse))

end ScaffoldRunner.Utility
