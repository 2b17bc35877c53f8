import ScaffoldRunner.Utility.Columns
import ScaffoldRunner.Utility.Real

/-!
# Sorting lines

`sort` brings lines into an order by keys, which are parts of lines that are compared in some way.
-/

namespace ScaffoldRunner.Utility

namespace Sorting

/-- How keys are compared. -/
structure Style where
  numeric : Bool := false
  general : Bool := false
  human : Bool := false
  months : Bool := false
  versions : Bool := false
  fold : Bool := false
  dictionary : Bool := false
  printable : Bool := false
  reversed : Bool := false
  deriving DecidableEq

/-- A place in a line: a field, and a character in it; zero stands for its end. -/
structure Place where
  field : Nat
  char : Nat
  skipsBlanks : Bool

/-- A key: from where to where in the line, and how it is compared. -/
structure Key where
  first : Place
  last : Option Place
  style : Style

/-- Add the style that a letter stands for. -/
def Style.add? (s : Style) (letter : Char) : Option Style :=
  match letter with
  | 'n' => some { s with numeric := true }
  | 'g' => some { s with general := true }
  | 'h' => some { s with human := true }
  | 'M' => some { s with months := true }
  | 'V' => some { s with versions := true }
  | 'f' => some { s with fold := true }
  | 'd' => some { s with dictionary := true }
  | 'i' => some { s with printable := true }
  | 'r' => some { s with reversed := true }
  | _ => none

def isBlank (c : Char) : Bool := c = ' ' || c = '\t' || c = '\n'

/-! ## Comparing -/

def order {α : Type} [LT α] [DecidableRel (α := α) (· < ·)] (a b : α) : Ordering :=
  if a < b then .lt else if b < a then .gt else .eq

/-- A decimal number at the front of a text: its digits, and how many of them stand behind the
point. What is no number counts as zero. -/
def decimal (cs : List Char) : Int × Nat × List Char :=
  let cs := cs.dropWhile isBlank
  let (negative, cs) : Bool × List Char := match cs with
    | '-' :: rest => (true, rest)
    | cs => (false, cs)
  let whole := cs.takeWhile Char.isDigit
  let (part, rest) : List Char × List Char := match cs.drop whole.length with
    | '.' :: more => (more.takeWhile Char.isDigit, more.dropWhile Char.isDigit)
    | rest => ([], rest)
  let size := (whole ++ part).foldl (fun n c => n * 10 + (c.toNat - 48)) 0
  (if negative then -Int.ofNat size else size, part.length, rest)

/-- The order of two decimal numbers. -/
def compareDecimals (a b : List Char) : Ordering :=
  let (m, i, _) := decimal a
  let (n, j, _) := decimal b
  order (m * Int.ofNat (tenTo j)) (n * Int.ofNat (tenTo i))

/-- The order of two numbers with letters for powers of a thousand. -/
def compareHuman (a b : List Char) : Ordering :=
  let rank (cs : List Char) : Int :=
    let (n, _, rest) := decimal cs
    let power := match rest.head? with
      | some c => ("KMGTPEZY".toList.findIdx? (· = c.toUpper)).map (· + 1)
      | none => none
    let size : Int := if n = 0 then 0 else power.getD 0
    if n < 0 then -size else size
  match order (rank a) (rank b) with
  | .eq => compareDecimals a b
  | found => found

/-- The order of two real numbers; what is no number comes first. -/
def compareGeneral (a b : List Char) : Ordering :=
  match Real.read? a, Real.read? b with
  | none, none => .eq
  | none, some _ => .lt
  | some _, none => .gt
  | some x, some y => order x.value y.value

/-- The number of the month that a text begins with. -/
def month (cs : List Char) : Nat :=
  let name := String.ofList (((cs.dropWhile isBlank).take 3).map Char.toUpper)
  let names := ["JAN", "FEB", "MAR", "APR", "MAY", "JUN", "JUL", "AUG", "SEP", "OCT", "NOV", "DEC"]
  ((names.findIdx? (· = name)).map (· + 1)).getD 0

/-- The order of two versions: runs of digits are compared as numbers, and what is between them
character by character, letters before all others and a tilde before the end. -/
def compareVersions : Nat → List Char → List Char → Ordering
  | 0, _, _ => .eq
  | fuel + 1, a, b =>
      let rank (cs : List Char) : Int :=
        match cs with
        | [] => 0
        | c :: _ =>
            if c.isDigit then 0
            else if c = '~' then -1
            else if c.isAlpha then c.toNat
            else c.toNat + 256
      let isText (cs : List Char) : Bool := (cs.head?).any fun c => !c.isDigit
      if isText a || isText b then
        match order (rank a) (rank b) with
        | .eq => compareVersions fuel (a.drop 1) (b.drop 1)
        | found => found
      else if a.isEmpty && b.isEmpty then .eq
      else
        let number (cs : List Char) : Nat :=
          (cs.takeWhile Char.isDigit).foldl (fun n c => n * 10 + (c.toNat - 48)) 0
        match order (number a) (number b) with
        | .eq => compareVersions fuel (a.dropWhile Char.isDigit) (b.dropWhile Char.isDigit)
        | found => found

/-- The order of two texts, character by character. -/
def compareText (s : Style) (a b : List Char) : Ordering :=
  let prepare (cs : List Char) : List Char :=
    let cs := if s.dictionary then cs.filter fun c => c.isAlphanum || isBlank c else cs
    let cs := if s.printable then cs.filter fun c => ' ' ≤ c && c ≤ '~' else cs
    if s.fold then cs.map Char.toUpper else cs
  order (prepare a) (prepare b)

def compareKeys (s : Style) (a b : List Char) : Ordering :=
  let found :=
    if s.numeric then compareDecimals a b
    else if s.general then compareGeneral a b
    else if s.human then compareHuman a b
    else if s.months then order (month a) (month b)
    else if s.versions then compareVersions (a.length + b.length + 2) a b
    else compareText s a b
  if s.reversed then found.swap else found

/-! ## Keys -/

/-- The fields of a line from its front on: with a separator, the texts between them; else each
with the blanks in front of it. -/
def skipFields (separator : Option Char) : Nat → List Char → List Char
  | 0, cs => cs
  | n + 1, cs =>
      match separator with
      | some c => skipFields separator n ((cs.dropWhile (· ≠ c)).drop 1)
      | none => skipFields separator n ((cs.dropWhile isBlank).dropWhile (!isBlank ·))

/-- How many characters of a line stand in front of a key. -/
def startOf (separator : Option Char) (line : List Char) (p : Place) : Nat :=
  let rest := skipFields separator (p.field - 1) line
  let rest := if p.skipsBlanks then rest.dropWhile isBlank else rest
  line.length - (rest.drop (p.char - 1)).length

/-- How many characters of a line stand in front of the end of a key. -/
def stopOf (separator : Option Char) (line : List Char) (p : Place) : Nat :=
  if p.char = 0 then
    let before := skipFields separator (p.field - 1) line
    let rest := match separator with
      | some c => before.dropWhile (· ≠ c)
      | none => (before.dropWhile isBlank).dropWhile (!isBlank ·)
    line.length - rest.length
  else min line.length (startOf separator line { p with char := p.char + 1 })

def keyOf (separator : Option Char) (k : Key) (line : List Char) : List Char :=
  let start := startOf separator line k.first
  match k.last with
  | none => line.drop start
  | some p => (line.take (stopOf separator line p)).drop start

/-- A place of a key, with the letters after it. -/
def place? (isFirst : Bool) (text : List Char) : Except String (Place × List Char) := do
  let field := text.takeWhile Char.isDigit
  let rest := text.drop field.length
  let number (ds : List Char) : Nat := ds.foldl (fun n c => n * 10 + (c.toNat - 48)) 0
  if field.isEmpty then
    throw ("invalid number " ++ (if isFirst then "at field start" else "after ','") ++
      ": invalid count at start of " ++ quoted (String.ofList text))
  if number field = 0 then
    throw ("field number is zero: invalid field specification " ++ quoted (String.ofList text))
  match rest with
  | '.' :: more =>
      let char := more.takeWhile Char.isDigit
      if char.isEmpty then
        throw ("invalid number after '.': invalid count at start of " ++
          quoted (String.ofList more))
      if isFirst && number char = 0 then
        throw ("character offset is zero: invalid field specification " ++
          quoted (String.ofList text))
      return (⟨number field, number char, false⟩, more.drop char.length)
  | rest => return (⟨number field, if isFirst then 1 else 0, false⟩, rest)

/-- A key from its text. A key without letters is compared as lines are by default. -/
def key? (usual : Style) (skipsBlanks : Bool) (text : String) : Except String Key := do
  let bad : String := "stray character in field spec: invalid field specification " ++ quoted text
  let style (letters : List Char) (s : Style) : Except String (Style × Bool) :=
    letters.foldlM (fun (s, blanks) c =>
      if c = 'b' then .ok (s, true)
      else match s.add? c with
        | some s => .ok (s, blanks)
        | none => .error bad) (s, false)
  let (first, rest) ← place? true text.toList
  let letters := rest.takeWhile (· ≠ ',')
  let (s, firstBlanks) ← style letters {}
  let (last, s, lastBlanks, hasLetters) ← match rest.drop letters.length with
    | _ :: more => do
        let (last, rest) ← place? false more
        let (s, blanks) ← style rest s
        pure (some last, s, blanks, !(letters.isEmpty && rest.isEmpty))
    | [] => pure (none, s, false, !letters.isEmpty)
  if hasLetters then
    return ⟨{ first with skipsBlanks := firstBlanks },
      last.map fun p => { p with skipsBlanks := lastBlanks }, s⟩
  else
    return ⟨{ first with skipsBlanks := skipsBlanks },
      last.map fun p => { p with skipsBlanks := skipsBlanks }, usual⟩

structure Mode where
  keys : List Key
  separator : Option Char
  /-- Lines whose keys are the same stay in their order. -/
  stable : Bool
  reversed : Bool

/-- The order of two lines by their keys. -/
def compareByKeys (m : Mode) (a b : List Char) : Ordering :=
  m.keys.foldl (fun found k =>
    if found = .eq then
      compareKeys k.style (keyOf m.separator k a) (keyOf m.separator k b)
    else found) .eq

def compareLines (m : Mode) (a b : List Char) : Ordering :=
  match compareByKeys m a b with
  | .eq =>
      if m.stable then .eq
      else if m.reversed then (order a b).swap
      else order a b
  | found => found

/-- Lines without those whose keys are the same as those of the line before. -/
def distinctLines (m : Mode) (lines : List (List Char)) : List (List Char) :=
  (lines.foldl (fun kept line =>
    match kept with
    | last :: _ => if compareByKeys m last line = .eq then kept else line :: kept
    | [] => [line]) []).reverse

/-- The number of the first line that is out of order. -/
def disorder? (m : Mode) (unique : Bool) : Nat → List (List Char) → Option (Nat × List Char)
  | n, a :: b :: lines =>
      let found := if unique then compareByKeys m a b else compareLines m a b
      if found = .gt || (unique && found = .eq) then some (n + 1, b)
      else disorder? m unique (n + 1) (b :: lines)
  | _, _ => none

end Sorting

open Sorting in
/-- Write lines in order. -/
def sort : Utility Nat := do
  let o ← options
    { letters := "bdfgik:cCmMnrsuVhRz\x01o:t:S:T:"
      names := [("ignore-leading-blanks", 'b'), ("dictionary-order", 'd'), ("ignore-case", 'f'),
        ("general-numeric-sort", 'g'), ("ignore-nonprinting", 'i'), ("month-sort", 'M'),
        ("human-numeric-sort", 'h'), ("numeric-sort", 'n'), ("random-sort", 'R'),
        ("reverse", 'r'), ("version-sort", 'V'), ("check", 'c'), ("key", 'k'), ("merge", 'm'),
        ("output", 'o'), ("stable", 's'), ("field-separator", 't'), ("unique", 'u'),
        ("zero-terminated", 'z'), ("buffer-size", 'S'), ("temporary-directory", 'T')] } 2
  let usual : Style := o.given.foldl (fun s e => (s.add? e.1).getD s) {}
  let keys ← (o.given.filter fun e => e.1 = 'k').mapM fun e => do
    match key? usual (o.has 'b') e.2 with
    | .ok k => return k
    | .error e => do
        complain e
        leave 2
  let separator ← match (o.value? 't').map String.toList with
    | none => pure none
    | some [c] => pure (some c)
    | some ['\\', '0'] => pure (some '\x00')
    | some [] => do
        complain "empty tab"
        leave 2
    | some cs => do
        complain ("multi-character tab " ++ quoted (String.ofList cs))
        leave 2
  let whole : Key := ⟨⟨1, 1, o.has 'b'⟩, none, usual⟩
  let m : Mode :=
    { keys := if keys.isEmpty then [whole] else keys
      separator := separator
      stable := o.has 's' || o.has 'u'
      reversed := o.has 'r' }
  let ending := if o.has 'z' then '\x00' else '\n'
  let texts ← o.inputs.mapM fun path => do
    match ← openInput path with
    | .error e => do
        complain ("cannot read: " ++ path ++ ": " ++ e.reason)
        leave 2
    | .ok descriptor => do
        match ← Act.readAll descriptor with
        | .error e => do
            complain ("read failed: " ++ path ++ ": " ++ e.reason)
            leave 2
        | .ok text => do
            closeInput descriptor
            return (linesBetween ending text).1
  let lines := texts.flatten.map String.toList
  if o.has 'c' || o.has 'C' then
    match disorder? m (o.has 'u') 1 lines with
    | none => return 0
    | some (n, line) => do
        if o.has 'c' then
          complain (o.inputs.headD "-" ++ ":" ++ toString n ++ ": disorder: " ++ String.ofList line)
        return 1
  let sorted := lines.mergeSort fun a b => compareLines m a b ≠ .gt
  let sorted := if o.has 'u' then distinctLines m sorted else sorted
  let text := String.join (sorted.map fun line => (String.ofList line).push ending)
  match o.value? 'o' with
  | none => put text
  | some path =>
      let s ← get
      match ← Act.openFile (s.resolve path) .writing s.newMode with
      | .ok descriptor => Act.put descriptor text
      | .error e => do
          complain ("open failed: " ++ path ++ ": " ++ e.reason)
          leave 2
  return 0

end ScaffoldRunner.Utility
