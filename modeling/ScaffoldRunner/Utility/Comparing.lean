import ScaffoldRunner.Utility.Columns

/-!
# Comparing lines

Utilities that compare lines with the ones next to them, or the lines of two inputs with each
other.
-/

namespace ScaffoldRunner.Utility

/-! ## Neighbours -/

namespace Uniq

structure Mode where
  fields : Nat
  chars : Nat
  most : Option Nat
  fold : Bool

/-- The part of a line that is compared. -/
def key (m : Mode) (line : String) : List Char :=
  let isBlank (c : Char) : Bool := c = ' ' || c = '\t'
  let skip (cs : List Char) : List Char := (cs.dropWhile isBlank).dropWhile (!isBlank ·)
  let cs := (List.range m.fields).foldl (fun cs _ => skip cs) line.toList
  let cs := cs.drop m.chars
  let cs := match m.most with
    | some n => cs.take n
    | none => cs
  if m.fold then cs.map Char.toLower else cs

/-- The lines in groups of neighbours that are the same, each from its first line on. -/
def groups (m : Mode) (lines : List String) : List (List String) :=
  let (found, _) := lines.foldl (fun (found, last) line =>
    let k := key m line
    match found, last with
    | group :: rest, some other =>
        if other = k then ((line :: group) :: rest, some k) else ([line] :: found, some k)
    | _, _ => ([line] :: found, some k)) (([] : List (List String)), none)
  (found.map List.reverse).reverse

end Uniq

/-- Write each group of neighbours that are the same once. -/
def uniq : Utility Nat := do
  let o ← options
    { letters := "cdDuif:s:w:z"
      names := [("count", 'c'), ("repeated", 'd'), ("all-repeated", 'D'), ("unique", 'u'),
        ("ignore-case", 'i'), ("skip-fields", 'f'), ("skip-chars", 's'), ("check-chars", 'w'),
        ("zero-terminated", 'z')] }
  let number (letter : Char) (what : String) : Utility (Option Nat) := do
    match o.value? letter with
    | none => return none
    | some text =>
        match text.toNat? with
        | some n => return some n
        | none => do
            complain (text ++ ": invalid number of " ++ what)
            leave 1
  let m : Uniq.Mode :=
    { fields := ((← number 'f' "fields to skip")).getD 0
      chars := ((← number 's' "bytes to skip")).getD 0
      most := ← number 'w' "bytes to compare"
      fold := o.has 'i' }
  let (input, output) ← match o.operands with
    | [] => pure ("-", none)
    | [input] => pure (input, none)
    | [input, output] => pure (input, if output = "-" then none else some output)
    | _ :: _ :: extra :: _ => misuse ("extra operand " ++ quoted extra)
  if o.has 'D' && o.has 'c' then
    misuse "printing all duplicated lines and repeat counts is meaningless"
  let ending := if o.has 'z' then '\x00' else '\n'
  match ← contentsOrComplain input with
  | none => return 1
  | some text => do
      let groups := Uniq.groups m (linesBetween ending text).1
      let groups := groups.filter fun g =>
        (!o.has 'u' || g.length = 1) && (!(o.has 'd' || o.has 'D') || 1 < g.length)
      let shown (g : List String) : List String :=
        if o.has 'D' then g
        else if o.has 'c' then
          let count := toString g.length
          [String.ofList (List.replicate (7 - count.length) ' ') ++ count ++ " " ++ g.headD ""]
        else g.take 1
      let out := String.join ((groups.flatMap shown).map fun line => line.push ending)
      match output with
      | none => put out
      | some path =>
          let s ← get
          match ← Act.openFile (s.resolve path) .writing s.newMode with
          | .ok descriptor => Act.put descriptor out
          | .error e => do
              complain (path ++ ": " ++ e.reason)
              leave 1
      return 0

/-! ## Sorted inputs -/

/-- The two operands of a utility that needs two. -/
def twoOperands (o : Options) : Utility (String × String) := do
  match o.operands with
  | [a, b] => return (a, b)
  | [] => misuse "missing operand"
  | [a] => misuse ("missing operand after " ++ quoted a)
  | _ :: _ :: extra :: _ => misuse ("extra operand " ++ quoted extra)

/-- The lines of an input that must be there. -/
def neededLines (path : String) : Utility (List String) := do
  match ← contentsOrComplain path with
  | some text => return (linesOf text).1
  | none => leave 1

def isSorted : List String → Bool
  | a :: b :: lines => !(b < a) && isSorted (b :: lines)
  | _ => true

/-- Lines of two inputs in order: each with whether the first and the second have it. -/
def merged : Nat → List String → List String → List (String × Bool × Bool) →
    List (String × Bool × Bool)
  | 0, _, _, found => found.reverse
  | _, [], [], found => found.reverse
  | fuel + 1, a :: as, [], found => merged fuel as [] ((a, true, false) :: found)
  | fuel + 1, [], b :: bs, found => merged fuel [] bs ((b, false, true) :: found)
  | fuel + 1, a :: as, b :: bs, found =>
      if a = b then merged fuel as bs ((a, true, true) :: found)
      else if a < b then merged fuel as (b :: bs) ((a, true, false) :: found)
      else merged fuel (a :: as) bs ((b, false, true) :: found)

/-- Write which lines two sorted inputs have in common, and which not. -/
def comm : Utility Nat := do
  let o ← options
    { letters := "123z\x01:\x02\x03t"
      names := [("output-delimiter", '\x01'), ("check-order", '\x02'),
        ("nocheck-order", '\x03'), ("total", 't'), ("zero-terminated", 'z')] }
  let (a, b) ← twoOperands o
  let first ← neededLines a
  let second ← neededLines b
  let delimiter := (o.value? '\x01').getD "\t"
  let gap (letter : Char) : String := if o.has letter then "" else delimiter
  let found := merged (first.length + second.length + 1) first second []
  put (String.join (found.map fun (line, inFirst, inSecond) =>
    match inFirst, inSecond with
    | true, true => if o.has '3' then "" else gap '1' ++ gap '2' ++ line ++ "\n"
    | true, false => if o.has '1' then "" else line ++ "\n"
    | _, _ => if o.has '2' then "" else gap '1' ++ line ++ "\n"))
  let count (test : Bool × Bool → Bool) : String :=
    toString (found.filter fun e => test e.2).length
  if o.has 't' then
    put (count (· = (true, false)) ++ delimiter ++ count (· = (false, true)) ++ delimiter ++
      count (· = (true, true)) ++ delimiter ++ "total\n")
  let isPaired := found.all fun e => e.2.1 && e.2.2
  if o.has '\x03' || isPaired then return 0
  if !isSorted first then complain "file 1 is not in sorted order"
  if !isSorted second then complain "file 2 is not in sorted order"
  if isSorted first && isSorted second then return 0
  complain "input is not in sorted order"
  return 1

namespace Joining

/-- A line with its fields. -/
structure Row where
  key : String
  fields : List String

/-- A field of the output: the key, or a field of one of the inputs. -/
inductive Column where
  | key
  | field (second : Bool) (number : Nat)

structure Mode where
  separator : Option Char
  fold : Bool
  columns : Option (List Column)
  empty : String
  keyFields : Nat × Nat

def fields (separator : Option Char) (line : String) : List String :=
  match separator with
  | some c => Text.split c line
  | none => (Text.split ' ' (line.map fun c => if c = '\t' then ' ' else c)).filter (· ≠ "")

def row (m : Mode) (second : Bool) (line : String) : Row :=
  let found := fields m.separator line
  let number := if second then m.keyFields.2 else m.keyFields.1
  let key := found.getD (number - 1) ""
  ⟨if m.fold then key.toLower else key, found⟩

def line (m : Mode) (a b : Option Row) : String :=
  let separator := String.singleton (m.separator.getD ' ')
  let keyOf (r : Row) (second : Bool) : String :=
    r.fields.getD ((if second then m.keyFields.2 else m.keyFields.1) - 1) ""
  let key := match a, b with
    | some a, _ => keyOf a false
    | none, some b => keyOf b true
    | none, none => ""
  let others (r : Option Row) (second : Bool) : List String :=
    match r with
    | none => []
    | some r => r.fields.eraseIdx ((if second then m.keyFields.2 else m.keyFields.1) - 1)
  let shown : List String := match m.columns with
    | none => key :: others a false ++ others b true
    | some columns => columns.map fun c =>
        let text := match c with
          | .key => key
          | .field second n =>
              ((if second then b else a).map fun r => r.fields.getD (n - 1) "").getD ""
        if text = "" then m.empty else text
  Text.join separator shown ++ "\n"

/-- Join rows that are sorted by their keys: lines of output, each with whether the first and the
second input have a part in it. -/
def joined (m : Mode) : Nat → List Row → List Row → List (String × Bool × Bool) →
    List (String × Bool × Bool)
  | 0, _, _, out => out.reverse
  | _, [], [], out => out.reverse
  | fuel + 1, a :: as, [], out => joined m fuel as [] ((line m (some a) none, true, false) :: out)
  | fuel + 1, [], b :: bs, out => joined m fuel [] bs ((line m none (some b), false, true) :: out)
  | fuel + 1, a :: as, b :: bs, out =>
      if a.key < b.key then joined m fuel as (b :: bs) ((line m (some a) none, true, false) :: out)
      else if b.key < a.key then
        joined m fuel (a :: as) bs ((line m none (some b), false, true) :: out)
      else
        let first := (a :: as).takeWhile fun r => r.key = a.key
        let second := (b :: bs).takeWhile fun r => r.key = a.key
        let found := first.flatMap fun x => second.map fun y =>
          (line m (some x) (some y), true, true)
        joined m fuel ((a :: as).drop first.length) ((b :: bs).drop second.length)
          (found.reverse ++ out)

def columns? (text : String) : Option (List Column) :=
  (Text.split ',' (text.map fun c => if c = ' ' then ',' else c)).mapM fun item =>
    match Text.split '.' item with
    | ["0"] => some .key
    | ["1", n] => n.toNat?.map (Column.field false)
    | ["2", n] => n.toNat?.map (Column.field true)
    | _ => none

end Joining

open Joining in
/-- Join lines of two sorted inputs that have the same key. -/
def join : Utility Nat := do
  let o ← options
    { letters := "a:e:i1:2:j:o:t:v:z", names := [("ignore-case", 'i'), ("zero-terminated", 'z')] }
  let (a, b) ← twoOperands o
  let number (letter : Char) : Nat :=
    ((o.value? letter).bind String.toNat?).getD (((o.value? 'j').bind String.toNat?).getD 1)
  let columns ← match o.value? 'o' with
    | none | some "auto" => pure none
    | some text =>
        match columns? text with
        | some found => pure (some found)
        | none => do
            complain ("invalid field specifier: " ++ quoted text)
            leave 1
  let m : Mode :=
    { separator := (o.value? 't').bind fun t => t.toList.head?
      fold := o.has 'i'
      columns := columns
      empty := (o.value? 'e').getD ""
      keyFields := (number '1', number '2') }
  let first := (← neededLines a).map (row m false)
  let second := (← neededLines b).map (row m true)
  let asked (letter : Char) (n : String) : Bool := o.given.any (· = (letter, n))
  let isAlone := o.has 'v'
  let out := joined m (first.length + second.length + 1) first second []
  put (String.join (out.filterMap fun (line, inFirst, inSecond) =>
    let isShown := match inFirst, inSecond with
      | true, true => !isAlone
      | true, false => asked 'a' "1" || asked 'v' "1"
      | _, _ => asked 'a' "2" || asked 'v' "2"
    if isShown then some line else none))
  return 0

/-! ## Differences -/

/-- Tell where two inputs differ first. -/
def cmp : Utility Nat := do
  let o ← options
    { letters := "bln:i:s"
      names := [("print-bytes", 'b'), ("verbose", 'l'), ("quiet", 's'), ("silent", 's'),
        ("bytes", 'n'), ("ignore-initial", 'i')] } 2
  let read (path : String) : Utility (List Char) := do
    match ← contents path with
    | .ok text => return text.toList
    | .error e => do
        complain (path ++ ": " ++ e.reason)
        leave 2
  let cut (cs : List Char) : List Char := match (o.value? 'n').bind String.toNat? with
    | some n => cs.take n
    | none => cs
  match o.operands with
  | [] => misuse "missing operand after 'cmp'" 2
  | a :: rest => do
      let b := rest.headD "-"
      let first := cut (← read a)
      let second := cut (← read b)
      let same := ((first.zip second).takeWhile fun e => e.1 = e.2).length
      if same = first.length && same = second.length then return 0
      if o.has 's' then return 1
      let before := first.take same
      let lines := (before.filter (· = '\n')).length
      let shorter := if same = first.length then a else b
      let atEnd := same = first.length || same = second.length
      let octal (c : Char) : String :=
        let digits := Nat.toDigits 8 c.toNat
        String.ofList (List.replicate (3 - digits.length) ' ' ++ digits)
      if o.has 'l' then
        let pairs := (List.range first.length).zip (first.zip second)
        let width := (toString (min first.length second.length)).length
        for (i, x, y) in pairs do
          if x ≠ y then
            let n := toString (i + 1)
            put (String.ofList (List.replicate (width - n.length) ' ') ++ n ++ " " ++ octal x ++
              " " ++ octal y ++ "\n")
      if atEnd then
        complain ("EOF on " ++ shorter ++
          (if same = 0 then " which is empty"
          else " after byte " ++ toString same ++ ", " ++
            (if before.getLast? = some '\n' then "line " ++ toString lines
            else "in line " ++ toString (lines + 1))))
      else if !o.has 'l' then
        put (a ++ " " ++ b ++ " differ: char " ++ toString (same + 1) ++ ", line " ++
          toString (lines + 1) ++ "\n")
      return 1

namespace Diff

structure Mode where
  fold : Bool
  /-- Blanks do not count at all, or only where they begin and end. -/
  noBlanks : Bool
  someBlanks : Bool

/-- The part of a line that is compared. -/
def key (m : Mode) (line : String) : String :=
  let isBlank (c : Char) : Bool := c = ' ' || c = '\t' || c = '\r'
  let line := if m.fold then line.toLower else line
  if m.noBlanks then String.ofList (line.toList.filter (!isBlank ·))
  else if m.someBlanks then
    let words := (Text.split ' ' (line.map fun c => if isBlank c then ' ' else c)).filter (· ≠ "")
    let start := if (line.toList.head?).any isBlank then " " else ""
    start ++ Text.join " " words
  else line

/-- Stretches of lines: `kept` ones are in both, the others were taken out or put in. -/
structure Change where
  /-- The place in the first input, and how many lines were taken out there. -/
  start : Nat
  removed : Nat
  /-- The place in the second input, and how many lines were put in there. -/
  target : Nat
  added : Nat

/-- For each place in the first lines, the lengths of the longest common parts of what follows it
and what follows each place in the second lines. -/
def table (first second : Array String) : Array (Array Nat) :=
  let empty := Array.replicate (second.size + 1) 0
  let rows := (List.range first.size).foldl (fun (rows : List (Array Nat)) k =>
    let i := first.size - 1 - k
    let below := rows.headD empty
    let row := (List.range second.size).foldl (fun (row : Array Nat) l =>
      let j := second.size - 1 - l
      let value := if first[i]? = second[j]? then below.getD (j + 1) 0 + 1
        else max (below.getD j 0) (row.getD (j + 1) 0)
      row.setIfInBounds j value) empty
    row :: rows) [empty]
  rows.toArray

/-- The changes that make the second lines of the first. -/
def changes (first second : Array String) : List Change :=
  let t := table first second
  let value (i j : Nat) : Nat := (t.getD i #[]).getD j 0
  let rec go : Nat → Nat → Nat → Option Change → List Change → List Change
    | 0, _, _, current, found => (current.toList ++ found).reverse
    | fuel + 1, i, j, current, found =>
        if i = first.size && j = second.size then (current.toList ++ found).reverse
        else if i < first.size && j < second.size && first[i]? = second[j]? then
          go fuel (i + 1) (j + 1) none (current.toList ++ found)
        else
          let c := current.getD ⟨i, 0, j, 0⟩
          if j = second.size || (i < first.size && value i (j + 1) ≤ value (i + 1) j) then
            go fuel (i + 1) j (some { c with removed := c.removed + 1 }) found
          else go fuel i (j + 1) (some { c with added := c.added + 1 }) found
  go (first.size + second.size + 1) 0 0 none []

/-- A line with a mark in front; a last line without an end is told. -/
def shown (mark : String) (lines : Array String) (isEnded : Bool) (i : Nat) : String :=
  mark ++ lines.getD i "" ++ "\n" ++
    (if i + 1 = lines.size && !isEnded then "\\ No newline at end of file\n" else "")

def shownFrom (mark : String) (lines : Array String) (isEnded : Bool) (start count : Nat) :
    String :=
  String.join ((List.range count).map fun k => shown mark lines isEnded (start + k))

/-- Two inputs with whether their last lines have ends. -/
structure Pair where
  first : Array String
  firstEnded : Bool
  second : Array String
  secondEnded : Bool

/-- A range of lines; an empty one is told by the line in front of it. -/
def range (start count : Nat) : String :=
  if count ≤ 1 then toString (start + count) else toString (start + 1) ++ "," ++
    toString (start + count)

def plain (p : Pair) (c : Change) : String :=
  let letter := if c.removed = 0 then "a" else if c.added = 0 then "d" else "c"
  range c.start c.removed ++ letter ++ range c.target c.added ++ "\n" ++
    shownFrom "< " p.first p.firstEnded c.start c.removed ++
    (if letter = "c" then "---\n" else "") ++
    shownFrom "> " p.second p.secondEnded c.target c.added

/-- Changes in groups of those whose contexts touch each other. -/
def hunks (context : Nat) : List Change → List (List Change)
  | [] => []
  | c :: cs =>
      match hunks context cs with
      | (d :: ds) :: rest =>
          if d.start ≤ c.start + c.removed + 2 * context then (c :: d :: ds) :: rest
          else [c] :: (d :: ds) :: rest
      | rest => [c] :: rest

/-- A group of changes with the lines around them. -/
def unified (p : Pair) (context : Nat) (group : List Change) : String :=
  match group.head?, group.getLast? with
  | some a, some z =>
      let start := a.start - context
      let target := a.target - (a.start - start)
      let stop := min p.first.size (z.start + z.removed + context)
      let count := stop - start
      let after := stop - (z.start + z.removed)
      let targetCount := z.target + z.added + after - target
      let place (start count : Nat) : String :=
        if count = 1 then toString (start + 1)
        else toString (if count = 0 then start else start + 1) ++ "," ++ toString count
      let (body, reached) := group.foldl (fun (body, reached) c =>
        (body ++ shownFrom " " p.first p.firstEnded reached (c.start - reached) ++
          shownFrom "-" p.first p.firstEnded c.start c.removed ++
          shownFrom "+" p.second p.secondEnded c.target c.added, c.start + c.removed))
        ("", start)
      "@@ -" ++ place start count ++ " +" ++ place target targetCount ++ " @@\n" ++ body ++
        shownFrom " " p.first p.firstEnded reached (stop - reached)
  | _, _ => ""

end Diff

open Diff in
/-- Tell the differences of two texts; whether there are any. -/
def compareTexts (o : Options) (a b first second : String) : Utility Bool := do
  let m : Mode := ⟨o.has 'i', o.has 'w', o.has 'b'⟩
  let (xs, xEnded) := linesOf first
  let (ys, yEnded) := linesOf second
  let p : Pair := ⟨xs.toArray, xEnded, ys.toArray, yEnded⟩
  /- A last line without an end differs from the same line with one. -/
  let keys (lines : List String) (isEnded : Bool) : Array String :=
    let found := (lines.map (key m)).toArray
    if isEnded then found else found.modify (found.size - 1) (·.push '\n')
  let found := changes (keys xs xEnded) (keys ys yEnded)
  if found.isEmpty then
    if o.has 's' then put ("Files " ++ a ++ " and " ++ b ++ " are identical\n")
    return false
  if o.has 'q' then put ("Files " ++ a ++ " and " ++ b ++ " differ\n")
  else if o.has 'u' || o.has 'U' then
    let context := ((o.value? 'U').bind String.toNat?).getD 3
    put ("--- " ++ a ++ "\n+++ " ++ b ++ "\n" ++
      String.join ((hunks context found).map (unified p context)))
  else put (String.join (found.map (plain p)))
  return true

/-- Tell the differences of two inputs. -/
def diff : Utility Nat := do
  let o ← options
    { letters := "abBiNqrsuU:w"
      names := [("brief", 'q'), ("report-identical-files", 's'), ("unified", 'u'),
        ("ignore-case", 'i'), ("ignore-all-space", 'w'), ("ignore-space-change", 'b'),
        ("recursive", 'r'), ("new-file", 'N'), ("text", 'a')] } 2
  let name := (← get).name
  let advise (text : String) : Utility (String × String) := do
    complain text
    complain ("Try '" ++ name ++ " --help' for more information.")
    leave 2
  let (a, b) ← match o.operands with
    | [a, b] => pure (a, b)
    | [] => advise ("missing operand after " ++ quoted name)
    | [a] => advise ("missing operand after " ++ quoted a)
    | _ :: _ :: extra :: _ => advise ("extra operand " ++ quoted extra)
  let files ← Act.files
  let s ← get
  let isDir (path : String) : Bool :=
    path ≠ "-" && files.isDir (Octets.decode (s.resolve path))
  let last (path : String) : String := (Text.split '/' path).getLast?.getD ""
  let firstPath := if isDir a && !isDir b then a ++ "/" ++ last b else a
  let secondPath := if isDir b && !isDir a then b ++ "/" ++ last a else b
  let read (path : String) : Utility (Option String) := do
    match ← contents path with
    | .ok text => return some text
    | .error e => do
        if o.has 'N' then return some ""
        complain (path ++ ": " ++ e.reason)
        return none
  if isDir a && isDir b then
    let namesIn (path : String) : List String :=
      match locate files s path with
      | .ok place => ((files.below place).filterMap fun e => match e with
          | ([name], .file _ _) => some (Octets.encode name)
          | _ => none).mergeSort (· ≤ ·)
      | .error _ => []
    let all := merged ((namesIn a).length + (namesIn b).length + 1) (namesIn a) (namesIn b) []
    let differ ← all.foldlM (fun differ (name, inFirst, inSecond) => do
      if inFirst && inSecond then
        let x ← read (a ++ "/" ++ name)
        let y ← read (b ++ "/" ++ name)
        let x := x.getD ""
        let y := y.getD ""
        if x ≠ y && !o.has 'q' then
          put ("diff " ++ (if o.has 'r' then "-r " else "") ++ a ++ "/" ++ name ++ " " ++ b ++
            "/" ++ name ++ "\n")
        return (← compareTexts o (a ++ "/" ++ name) (b ++ "/" ++ name) x y) || differ
      else do
        put ("Only in " ++ (if inFirst then a else b) ++ ": " ++ name ++ "\n")
        return true) false
    return if differ then 1 else 0
  let first ← read firstPath
  let second ← read secondPath
  match first, second with
  | some first, some second =>
      return if ← compareTexts o firstPath secondPath first second then 1 else 0
  | _, _ => return 2

end ScaffoldRunner.Utility
