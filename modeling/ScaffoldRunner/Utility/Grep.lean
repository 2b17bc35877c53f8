import ScaffoldRunner.Pattern.PosixSyntax
import ScaffoldRunner.Utility.Basic

/-!
# Searching lines

`grep` writes the lines that patterns match, or tells about them.
-/

namespace ScaffoldRunner.Utility

namespace Grep

/-- What is searched for, and what is told. -/
structure Search where
  patterns : List (Pattern × Nat)
  invert : Bool
  wholeWords : Bool
  wholeLines : Bool
  onlyMatches : Bool
  count : Bool
  quiet : Bool
  numbers : Bool
  offsets : Bool
  /-- Only the names of files with, or without, a match are told. -/
  listing : Option Bool
  most : Option Nat
  before : Nat
  after : Nat
  /-- Whether stretches of context are parted from each other. -/
  parts : Bool

/-- Whether a character belongs to a word. -/
def isWordChar (c : Char) : Bool := c.isAlphanum || c = '_'

/-- Whether a stretch is a word of its own. -/
def isWord (cs : Array Char) (start stop : Nat) : Bool :=
  (start = 0 || !(cs[start - 1]?).any isWordChar) && !(cs[stop]?).any isWordChar

/-- The longest match at a place that is a whole word, or the whole line, if so asked. -/
def matchAt? (s : Search) (cs : Array Char) (start : Nat) : Option (Nat × Nat) :=
  let fits (stop : Nat) : Bool :=
    (!s.wholeLines || (start = 0 && stop = cs.size)) && (!s.wholeWords || isWord cs start stop)
  let ends := s.patterns.flatMap fun (p, groups) =>
    (Pattern.places cs p (Pattern.entry groups start)).map (·.position)
  (ends.filter fits).max?.map fun stop => (start, stop)

/-- The first match from some place on. -/
def matchFrom? (s : Search) (cs : Array Char) : Nat → Nat → Option (Nat × Nat)
  | 0, _ => none
  | fuel + 1, start =>
      if cs.size < start then none
      else
        match matchAt? s cs start with
        | some found => some found
        | none => matchFrom? s cs fuel (start + 1)

def allMatches (s : Search) (cs : Array Char) : Nat → Nat → List (Nat × Nat)
  | 0, _ => []
  | fuel + 1, start =>
      match matchFrom? s cs (cs.size + 2) start with
      | none => []
      | some (first, stop) =>
          if stop = first then allMatches s cs fuel (first + 1)
          else (first, stop) :: allMatches s cs fuel stop

/-- How far the search of a file has come. -/
structure Progress where
  line : Nat := 0
  offset : Nat := 0
  found : Nat := 0
  /-- The last lines that were not written, the last one first. -/
  held : List (Nat × Nat × String) := []
  /-- How many more lines are written after a match. -/
  owed : Nat := 0
  lastShown : Nat := 0
  isDone : Bool := false

/-- Whether anything is written of a matching line. -/
def showsLines (s : Search) : Bool := !s.quiet && !s.count && s.listing.isNone

/-- A line of output. -/
def shown (s : Search) (name : String) (sign : Char) (number offset : Nat) (text : String) :
    String :=
  let name := if name = "" then "" else name ++ String.singleton sign
  let number := if s.numbers then toString number ++ String.singleton sign else ""
  let offset := if s.offsets then toString offset ++ String.singleton sign else ""
  name ++ number ++ offset ++ text ++ "\n"

def step (s : Search) (name : String) (p : Progress) (text : String) (_ : Bool) :
    Reading Progress :=
  let cs := text.toList.toArray
  let number := p.line + 1
  let here := p.offset
  let p := { p with line := number, offset := here + cs.size + 1 }
  let found := (matchFrom? s cs (cs.size + 2) 0).isSome != s.invert
  let isOver := s.most.any (· ≤ p.found)
  if isOver then
    if p.owed = 0 then { state := { p with isDone := true }, stops := true }
    else if showsLines s && !found then
      { state := { p with owed := p.owed - 1, lastShown := number }
        output := if s.onlyMatches then [] else [shown s name '-' number here text] }
    else { state := { p with isDone := true }, stops := true }
  else if found then
    let held := (p.held.take s.before).reverse
    let first := ((held.head?).map (·.1)).getD number
    let gap := s.parts && p.lastShown ≠ 0 && p.lastShown + 1 < first
    let next := { p with found := p.found + 1, held := [], owed := s.after, lastShown := number }
    if !showsLines s then
      { state := next, stops := s.quiet || s.listing.isSome || s.most.any (· ≤ p.found + 1) }
    else
      let lines : List String :=
        if s.onlyMatches then
          if s.invert then []
          else (allMatches s cs (cs.size + 2) 0).map fun (start, stop) =>
            shown s name ':' number (here + start) (String.ofList (cs.extract start stop).toList)
        else
          held.map (fun (n, o, line) => shown s name '-' n o line) ++
            [shown s name ':' number here text]
      let lines := if gap && !s.onlyMatches then "--\n" :: lines else lines
      { state := next, output := lines, stops := s.most.any (· ≤ p.found + 1) && s.after = 0 }
  else if p.owed ≠ 0 && showsLines s then
    { state := { p with owed := p.owed - 1, lastShown := number, held := [] }
      output := if s.onlyMatches then [] else [shown s name '-' number here text] }
  else { state := { p with held := ((number, here, text) :: p.held).take s.before } }

/-- Search an input that is open; whether something was found. -/
def searchInput (s : Search) (descriptor : Nat) (name label : String) : Utility Bool := do
  let (p, _) ← eachLine descriptor (step s name) Act.rounds [] {}
  let isFound := p.found ≠ 0
  if s.quiet then return isFound
  if let some wanted := s.listing then
    if isFound = wanted then put (label ++ "\n")
  else if s.count then
    put ((if name = "" then "" else name ++ ":") ++ toString p.found ++ "\n")
  return isFound

def table : OptionTable where
  letters := "0123456789A:B:C:D:EFGHILPTUVX:abcd:e:f:hiLlm:noqRrsuvwxyzZ\x01:\x02:\x03:\x04"
  names := [("regexp", 'e'), ("file", 'f'), ("ignore-case", 'i'), ("no-ignore-case", '\x04'),
    ("invert-match", 'v'), ("word-regexp", 'w'), ("line-regexp", 'x'), ("count", 'c'),
    ("color", '\x01'), ("colour", '\x01'), ("files-with-matches", 'l'),
    ("files-without-match", 'L'), ("max-count", 'm'), ("only-matching", 'o'), ("quiet", 'q'),
    ("silent", 'q'), ("no-messages", 's'), ("byte-offset", 'b'), ("with-filename", 'H'),
    ("no-filename", 'h'), ("line-number", 'n'), ("after-context", 'A'), ("before-context", 'B'),
    ("context", 'C'), ("text", 'a'), ("recursive", 'r'), ("dereference-recursive", 'R'),
    ("extended-regexp", 'E'), ("fixed-strings", 'F'), ("basic-regexp", 'G'), ("perl-regexp", 'P'),
    ("include", '\x02'), ("exclude", '\x03'), ("null", 'Z')]

/-- Complain about how the utility was called, and leave. -/
def wrongUse {α : Type} (text : Option String) : Utility α := do
  if let some text := text then complain text
  let name := (← get).name
  Act.put 2 ("Usage: " ++ name ++ " [OPTION]... PATTERNS [FILE]...\nTry '" ++ name ++
    " --help' for more information.\n")
  leave 2

/-- A number of lines. -/
def lineCount (text : String) : Utility Nat := do
  match text.toNat? with
  | some n => return n
  | none => do
      complain (text ++ ": invalid context length argument")
      leave 2

def compile (grammar : Pattern.Posix.Grammar) (fixed : Bool) (lines : List String) :
    Utility (List (Pattern × Nat)) :=
  lines.mapM fun line => do
    if fixed then
      let p := line.toList.foldl (fun p c => Pattern.seq p (Pattern.Posix.charPattern grammar c))
        Pattern.nothing
      return (p, 0)
    else
      let isBareClass := line.length > 4 && line.startsWith "[:" && line.endsWith ":]"
      if isBareClass then
        complain "character class syntax is [[:space:]], not [:space:]"
        leave 2
      match Pattern.Posix.read grammar line.toList with
      | .ok r => do
          for c in r.loose do
            complain ("warning: " ++ String.singleton c ++ " at start of expression")
          return (r.pattern, if r.pattern.refersBack then r.groups + 1 else 0)
      | .error e => do
          complain e
          leave 2

def patternLines (text : String) : List String :=
  let (lines, rest) := cutLines text.toList
  lines.map String.ofList ++ [String.ofList rest]

/-- The paths of the files below some path, in order. -/
def filesBelow (files : FileTree) (place : List String) (path : String) : List String :=
  let found := (files.below place).filterMap fun (names, node) =>
    match node with
    | .file _ _ => some (path ++ "/" ++ Octets.encode (Text.join "/" names))
    | .dir => none
  found.mergeSort (· ≤ ·)

/-- What searching a number of inputs has come to. -/
structure Outcome where
  found : Bool := false
  failed : Bool := false

end Grep

open Grep in
/-- Search lines. -/
def grep (extended fixed : Bool) : Utility Nat := do
  let args := (← get).args
  let o ← match table.split (args.length + 1) args [] [] with
    | .ok o => pure o
    | .error e => wrongUse (some e)
  let sources ← o.given.filterMapM fun (letter, value) => do
    if letter = 'e' then return some (patternLines value)
    else if letter = 'f' then
      match ← contents value with
      | .ok text => return some (linesOf text).1
      | .error e => do
          complain (value ++ ": " ++ e.reason)
          leave 2
    else return none
  let (lines, operands) ← match sources, o.operands with
    | [], [] => wrongUse none
    | [], first :: rest => pure (patternLines first, rest)
    | sources, rest => pure (sources.flatten, rest)
  let kind := o.last? ['E', 'F', 'G', 'P']
  let grammar : Pattern.Posix.Grammar :=
    { extended := kind = some 'E' || kind = some 'P' || (kind.isNone && extended)
      fold := (o.last? ['i', 'y', '\x04']).any (· ≠ '\x04') }
  let patterns ← compile grammar (kind = some 'F' || (kind.isNone && fixed)) lines
  let digits := o.given.filterMap fun (letter, _) => if letter.isDigit then some letter else none
  let around ← match o.value? 'C' with
    | some text => some <$> lineCount text
    | none => pure (if digits.isEmpty then none else (String.ofList digits).toNat?)
  let before ← match o.value? 'B' with
    | some text => lineCount text
    | none => pure (around.getD 0)
  let after ← match o.value? 'A' with
    | some text => lineCount text
    | none => pure (around.getD 0)
  let most ← match o.value? 'm' with
    | none => pure none
    | some text =>
        match text.toInt? with
        | some n => pure (if n < 0 then none else some n.toNat)
        | none => do
            complain "invalid max count"
            leave 2
  let search : Search :=
    { patterns := patterns
      invert := o.has 'v'
      wholeWords := o.has 'w'
      wholeLines := o.has 'x'
      onlyMatches := o.has 'o'
      count := o.has 'c'
      quiet := o.has 'q'
      numbers := o.has 'n'
      offsets := o.has 'b'
      listing := (o.last? ['l', 'L']).map (· = 'l')
      most := most
      before := before
      after := after
      parts := before ≠ 0 || after ≠ 0 }
  let deep := o.has 'r' || o.has 'R'
  let operands := if !operands.isEmpty then operands else if deep then ["."] else ["-"]
  let files ← Act.files
  let s ← get
  let inputs : List String := operands.flatMap fun path =>
    match deep, locate files s path with
    | true, .ok place =>
        if files.get? place matches some .dir then
          (filesBelow files place path).map fun found =>
            let isImplied := o.operands.length ≤ 1 && operands = ["."] && !o.operands.contains "."
            if path = "." && isImplied then
              (found.drop 2).toString
            else found
        else [path]
    | _, _ => [path]
  let named : Bool := match o.last? ['H', 'h'] with
    | some c => c = 'H'
    | none => 1 < operands.length || deep
  if search.most = some 0 then return 1
  let work (outcome : Outcome) (path : String) : Utility Outcome := do
    if outcome.found && search.quiet then return outcome
    let label := if path = "-" then "(standard input)" else path
    let name := if named then label else ""
    let isDir := path ≠ "-" && (locate files s path).toOption.any fun place =>
      files.get? place matches some .dir
    if isDir then
      if !o.has 's' then complain (path ++ ": Is a directory")
      return { outcome with failed := true }
    else
      match ← openInput path with
      | .error e => do
          if !o.has 's' then complain (path ++ ": " ++ e.reason)
          return { outcome with failed := true }
      | .ok descriptor => do
          let found ← searchInput search descriptor name label
          closeInput descriptor
          let hit := if search.listing = some false then !found else found
          return { outcome with found := outcome.found || hit }
  let outcome ← inputs.foldlM work {}
  return if outcome.found && search.quiet then 0
    else if outcome.failed then 2
    else if outcome.found then 0
    else 1

end ScaffoldRunner.Utility
