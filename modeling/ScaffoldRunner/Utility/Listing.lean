import ScaffoldRunner.Data.Power
import ScaffoldRunner.Utility.Basic
import ScaffoldRunner.Utility.Escape

/-!
# Listing files

`ls` writes what directories hold, and `stat` and `realpath` what is known about files.
-/

namespace ScaffoldRunner.Utility

namespace FileListing

/-- The size that is told for directories. -/
def dirSize : Nat := 4096

def sizeOf : Node → Nat
  | .file bytes _ => bytes.size
  | .dir => dirSize

/-- The number of blocks of 1024 octets that a node takes. -/
def blocksOf : Node → Nat
  | .file bytes _ => (bytes.size + 4095) / 4096 * 4
  | .dir => 4

/-- Three permissions as letters; a special bit shows in the last one. -/
def permissions (bits special : Nat) (letter : Char) : List Char :=
  let last := if special ≠ 0 then (if bits % 2 = 1 then letter else letter.toUpper)
    else if bits % 2 = 1 then 'x' else '-'
  [if bits / 4 % 2 = 1 then 'r' else '-', if bits / 2 % 2 = 1 then 'w' else '-', last]

/-- The permission bits of a node as letters. -/
def modeLetters (mode : Nat) : String :=
  String.ofList (permissions (mode / 64 % 8) (mode / 2048 % 2) 's' ++
    permissions (mode / 8 % 8) (mode / 1024 % 2) 's' ++
    permissions (mode % 8) (mode / 512 % 2) 't')

/-- The kind and the permission bits of a node as letters. -/
def modeText (node : Node) : String :=
  (match node with
    | .dir => "d"
    | .file _ _ => "-") ++ modeLetters node.mode

/-- A number in the digits of a base. -/
def inBase (base n : Nat) : String := String.ofList (Nat.toDigits base n)

/-- A text brought to a width, with zeros in front. -/
def padZero (width : Nat) (text : String) : String :=
  String.ofList (List.replicate (width - text.length) '0') ++ text

/-- A text brought to a width, with blanks in front or behind. -/
def padLeft (width : Nat) (text : String) : String :=
  String.ofList (List.replicate (width - text.length) ' ') ++ text

def padRight (width : Nat) (text : String) : String :=
  text ++ String.ofList (List.replicate (width - text.length) ' ')

/-- A size in a unit that is easy to read. -/
def humanSize (n : Nat) : String :=
  let rec go : Nat → Nat → List String → String
    | _, n, [] => toString n
    | 0, n, _ => toString n
    | fuel + 1, n, unit :: units =>
        /- The size is counted in units of the one before. -/
        let tenths := (n * 10 + 1023) / 1024
        if tenths < 100 then
          toString (tenths / 10) ++ "." ++ toString (tenths % 10) ++ unit
        else
          let whole := (n + 1023) / 1024
          if whole < 1024 then toString whole ++ unit else go fuel (n / 1024) units
  if n < 1024 then toString n else go 8 n ["K", "M", "G", "T", "P"]

/-- An entry of a listing: its name, its node, and its rank among all files, the one that was
written last first. -/
structure Entry where
  name : String
  node : Node
  rank : Nat

/-- Bring entries into the order that is asked for. -/
def sorted (o : Options) (entries : List Entry) : List Entry :=
  let byName := entries.mergeSort fun a b => a.name ≤ b.name
  let found : List Entry := match o.last? ['S', 't', 'U', 'f'] with
    | some 'S' => byName.mergeSort fun a b => sizeOf b.node ≤ sizeOf a.node
    | some 't' => byName.mergeSort fun a b => a.rank ≤ b.rank
    | _ => byName
  if o.has 'r' then found.reverse else found

/-- A name with a mark for its kind, if so asked. -/
def shownName (o : Options) (e : Entry) : String :=
  let mark := match e.node with
    | .dir => if o.has 'F' || o.has 'p' then "/" else ""
    | .file _ mode => if o.has 'F' && Node.mayRun mode then "*" else ""
  (if o.has 'Q' then "\"" ++ e.name ++ "\"" else e.name) ++ mark

def lines (o : Options) (entries : List Entry) : List String :=
  let isLong := o.has 'l' || o.has 'n' || o.has 'o' || o.has 'g'
  let size (e : Entry) : String :=
    if o.has 'h' then humanSize (sizeOf e.node) else toString (sizeOf e.node)
  let blocks (e : Entry) : String := toString (blocksOf e.node)
  let blockWidth := (entries.map fun e => (blocks e).length).foldl max 0
  let inFront (e : Entry) : String :=
    if o.has 's' then padLeft blockWidth (blocks e) ++ " " else ""
  if isLong then
    let links (e : Entry) : String := match e.node with
      | .dir => "2"
      | .file _ _ => "1"
    let width := (entries.map fun e => (size e).length).foldl max 0
    let owner := if o.has 'n' then "0" else "root"
    let owned (letter : Char) : String := if o.has letter then "" else owner ++ " "
    let owners := owned 'g' ++ owned 'o'
    entries.map fun e =>
      inFront e ++ modeText e.node ++ " " ++ links e ++ " " ++ owners ++
        padLeft width (size e) ++ " Jan  1 00:00 " ++ shownName o e
  else if o.has 'm' then
    if entries.isEmpty then [] else [Text.join ", " (entries.map (shownName o))]
  else if o.has 'C' || o.has 'x' then
    if entries.isEmpty then [] else [Text.join "  " (entries.map (shownName o))]
  else entries.map fun e => inFront e ++ shownName o e

def entriesOf (files : FileTree) (o : Options) (place : List String) : List Entry :=
  let isHidden (name : String) : Bool := name.startsWith "."
  let numbered := (List.range files.entries.length).zip files.entries
  let found := numbered.filterMap fun (rank, (path, node)) =>
    match place.isPrefixOf path, path.drop place.length with
    | true, [name] => some ⟨Octets.encode name, node, rank⟩
    | _, _ => none
  let visible := if o.has 'a' || o.has 'A' || o.has 'f' then found
    else found.filter fun e => !isHidden e.name
  if o.has 'a' || o.has 'f' then ⟨".", .dir, 0⟩ :: ⟨"..", .dir, 0⟩ :: visible else visible

def dirText (files : FileTree) (o : Options) (place : List String) : String :=
  let entries := sorted o (entriesOf files o place)
  let sum := total (entries.map fun e => blocksOf e.node)
  let isLong := o.has 'l' || o.has 'n' || o.has 'o' || o.has 'g' || o.has 's'
  String.join ((if isLong then ["total " ++ toString sum ++ "\n"] else []) ++
    (lines o entries).map (· ++ "\n"))

/-- A directory and those below it, each with the path it is told by. -/
def withBelow (files : FileTree) (o : Options) : Nat → String × List String →
    List (String × List String)
  | 0, here => [here]
  | fuel + 1, (path, place) =>
      let inside := (sorted o (entriesOf files o place)).filterMap fun e =>
        match e.node with
        | .dir =>
            if e.name = "." || e.name = ".." then none
            else some (path ++ (if path.endsWith "/" then "" else "/") ++ e.name,
              place ++ [Octets.decode e.name])
        | .file _ _ => none
      (path, place) :: inside.flatMap (withBelow files o fuel)

end FileListing

open FileListing in
/-- Write what directories hold. -/
def ls : Utility Nat := do
  let o ← options
    { letters := "aAbBcCdDfFgGhHiI:klLmnNopqQrRsStT:uUvw:xXZ1\x01::"
      names := [("all", 'a'), ("almost-all", 'A'), ("directory", 'd'), ("classify", 'F'),
        ("human-readable", 'h'), ("reverse", 'r'), ("recursive", 'R'), ("size", 's'),
        ("color", '\x01'), ("numeric-uid-gid", 'n'), ("quote-name", 'Q')] } 2
  let files ← Act.files
  let s ← get
  let found ← (if o.operands.isEmpty then ["."] else o.operands).mapM fun path => do
    match ← lookup path, locate files s path with
    | .ok node, .ok place =>
        let rank := files.entries.findIdx fun e => e.1 = place
        return some (⟨path, node, rank⟩, place)
    | .error e, _ | _, .error e => do
        complain ("cannot access " ++ quoted path ++ ": " ++ Fault.reasonOf e)
        return none
  let known : List (Entry × List String) := found.filterMap id
  let placeOf (name : String) : List String :=
    ((known.find? fun e => e.1.name = name).map (·.2)).getD []
  let isListed (e : Entry) : Bool := match e.node with
    | .dir => !o.has 'd'
    | .file _ _ => false
  let plain := sorted o ((known.map (·.1)).filter (!isListed ·))
  let dirs := sorted o ((known.map (·.1)).filter isListed)
  put (String.join ((lines o plain).map (· ++ "\n")))
  let dirs := dirs.map fun e => (e.name, placeOf e.name)
  let dirs := if o.has 'R' then dirs.flatMap (withBelow files o 64) else dirs
  let headed := o.has 'R' || 1 < o.operands.length
  let texts := dirs.map fun (path, place) =>
    (if headed then path ++ ":\n" else "") ++ dirText files o place
  put ((if plain.isEmpty || texts.isEmpty then "" else "\n") ++ Text.join "\n" texts)
  return if found.all Option.isSome then 0 else 2

/-- What a letter after a percent sign stands for in the format of `stat`. -/
def statField (path : String) (node : Node) (letter : Char) : String :=
  match letter with
  | 'n' => path
  | 'N' => quoted path
  | 's' => toString (FileListing.sizeOf node)
  | 'a' => FileListing.inBase 8 node.mode
  | 'A' => FileListing.modeText node
  | 'b' => toString (2 * FileListing.blocksOf node)
  | 'B' => "512"
  | 'o' => "4096"
  | 'F' => match node with
    | .dir => "directory"
    | .file bytes _ => if bytes.size = 0 then "regular empty file" else "regular file"
  | 'f' => FileListing.inBase 16 (match node with
    | .dir => 0o40000 + node.mode
    | .file _ mode => 0o100000 + mode)
  | 'h' => match node with
    | .dir => "2"
    | .file _ _ => "1"
  | 'u' | 'g' => "0"
  | 'U' | 'G' => "root"
  | '%' => "%"
  | 'X' | 'Y' | 'Z' | 'W' => "0"
  | 'x' | 'y' | 'z' | 'w' => "1970-01-01 00:00:00.000000000 +0000"
  | _ => "?"

/-- A format with its fields filled in. -/
def statText (path : String) (node : Node) : List Char → List Char
  | '%' :: c :: cs => (statField path node c).toList ++ statText path node cs
  | c :: cs => c :: statText path node cs
  | [] => []

/-- Write what is known about files. -/
def stat : Utility Nat := do
  let o ← options
    { letters := "c:Lft\x01:"
      names := [("format", 'c'), ("printf", '\x01'), ("terse", 't'), ("dereference", 'L')] }
  if o.operands.isEmpty then misuse "missing operand"
  return statusOf (← forAll o.operands fun path => do
    match ← lookup path with
    | .error e => do
        complain ("cannot statx " ++ quoted path ++ ": " ++ Fault.reasonOf e)
        return false
    | .ok node => do
        let usual := "  File: %n\n  Size: %s\t\tBlocks: %b\t\tIO Block: %o\t%F"
        match o.value? '\x01' with
        | some format =>
            put (Escape.expandAll Escape.ofFormat
              (String.ofList (statText path node format.toList))).1
        | none =>
            put (String.ofList (statText path node ((o.value? 'c').getD usual).toList) ++ "\n")
        return true)

def placePath (place : List String) : String := Octets.encode ("/" ++ Text.join "/" place)

/-- The place that a path leads to, where its last name, or all names, need not exist. -/
def canonical (files : FileTree) (s : Setting) (loose : Bool) (path : String) :
    Except OsError String := do
  if path = "" then throw .notFound
  let full := Octets.decode (s.resolve path)
  if loose then
    let place := (Text.split '/' full).foldl (fun place name =>
      if name = "" || name = "." then place
      else if name = ".." then place.dropLast
      else place ++ [name]) []
    return placePath place
  else
    let trimmed := String.ofList ((full.toList.reverse.dropWhile (· = '/')).reverse)
    return placePath (← files.locate (if trimmed = "" then "/" else trimmed))

/-- Write the places that paths lead to. -/
def realpath : Utility Nat := do
  let o ← options
    { letters := "eLmPqsz"
      names := [("canonicalize-existing", 'e'), ("canonicalize-missing", 'm'), ("quiet", 'q'),
        ("zero", 'z'), ("no-symlinks", 's')] }
  if o.operands.isEmpty then misuse "missing operand"
  let files ← Act.files
  let s ← get
  return statusOf (← forAll o.operands fun path => do
    let found := canonical files s (o.has 'm') path
    let found := if o.has 'e' then (do
      let place ← found
      let _ ← files.lookup (Octets.decode (s.resolve path))
      return place) else found
    match found with
    | .ok path => do
        put (path ++ (if o.has 'z' then "\x00" else "\n"))
        return true
    | .error e => do
        if !o.has 'q' then complain (path ++ ": " ++ Fault.reasonOf e)
        return false)

/-- Write the places that paths lead to, if so asked. There are no links, so that nothing is
written without being asked for. -/
def readlink : Utility Nat := do
  let o ← options
    { letters := "efmnqsvz"
      names := [("canonicalize", 'f'), ("canonicalize-existing", 'e'),
        ("canonicalize-missing", 'm'), ("no-newline", 'n'), ("zero", 'z')] }
  if o.operands.isEmpty then misuse "missing operand"
  let files ← Act.files
  let s ← get
  return statusOf (← forAll o.operands fun path => do
    if !(o.has 'f' || o.has 'e' || o.has 'm') then return false
    let isThere := (files.lookup (Octets.decode (s.resolve path))).toOption.isSome
    match canonical files s (o.has 'm') path with
    | .ok found =>
        if o.has 'e' && !isThere then return false
        put (found ++ (if o.has 'n' then "" else "\n"))
        return true
    | .error _ => return false)

end ScaffoldRunner.Utility
