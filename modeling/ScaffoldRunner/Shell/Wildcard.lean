import ScaffoldRunner.Text.Utf8
import ScaffoldRunner.Workspace.FileTree

/-!
# Wildcards

Patterns of `*`, `?` and sets in brackets. A pattern matches whole texts; matched name by name
against the files that there are, it stands for a list of paths. A field is a list of characters,
each with the mark whether it stands for itself.
-/

namespace ScaffoldRunner.Shell

/-- The characters of an expanded word; a marked character stands for itself. -/
abbrev Field := List (Char × Bool)

def Field.text (field : Field) : String := String.ofList (field.map (·.1))

inductive SetItem where
  | range (low high : Char)
  | named (test : Char → Bool)

/-- Whether an item of a set stands for a character. -/
def SetItem.admits : SetItem → Char → Bool
  | range low high, c => low ≤ c && c ≤ high
  | named test, c => test c

/-- One item of a pattern. -/
inductive Wildcard where
  | one (c : Char)
  | anyOne
  | anyMany
  /-- A character among the items, or among none of them. -/
  | set (inside : Bool) (items : List SetItem)

namespace Wildcard

/-- The sets of octets that have a name. -/
def named? (name : String) : Option (Char → Bool) :=
  let isPunct (c : Char) : Bool := '!' ≤ c && c ≤ '~' && !c.isAlphanum
  match name with
  | "alnum" => some Char.isAlphanum
  | "alpha" => some Char.isAlpha
  | "blank" => some fun c => c = ' ' || c = '\t'
  | "cntrl" => some fun c => c < ' ' || c = '\x7f'
  | "digit" => some Char.isDigit
  | "graph" => some fun c => '!' ≤ c && c ≤ '~'
  | "lower" => some Char.isLower
  | "print" => some fun c => ' ' ≤ c && c ≤ '~'
  | "punct" => some isPunct
  | "space" => some fun c => c = ' ' || ('\t' ≤ c && c ≤ '\r')
  | "upper" => some Char.isUpper
  | "xdigit" => some fun c => c.isDigit || ('a' ≤ c && c ≤ 'f') || ('A' ≤ c && c ≤ 'F')
  | _ => none

/-- A named set in its own brackets, of which the first was passed, and what follows it. -/
def namedItem? (field : Field) : Option (SetItem × Field) :=
  match field with
  | (':', false) :: rest =>
      let name := rest.takeWhile fun (c, marked) => c.isLower && !marked
      match rest.drop name.length with
      | (':', false) :: (']', false) :: rest =>
          (named? (String.ofList (name.map (·.1)))).map fun test => (.named test, rest)
      | _ => none
  | _ => none

/-- The character at the front of a set, where a backslash marks the one after it. -/
def setChar? : Field → Option (Char × Field)
  | [] => none
  | ('\\', false) :: (c, _) :: rest => some (c, rest)
  | (c, _) :: rest => some (c, rest)

/-- The items of a set and what follows its closing bracket, which does not close an empty set. -/
def setItems? : Nat → Bool → Field → Option (List SetItem × Field)
  | 0, _, _ => none
  | _, _, [] => none
  | fuel + 1, isFirst, field => do
      match isFirst, field with
      | false, (']', false) :: rest => return ([], rest)
      | _, field =>
          let item : Option (SetItem × Field) := match field with
            | ('[', false) :: rest => namedItem? rest
            | _ => none
          match item with
          | some (item, rest) => do
              let (items, rest) ← setItems? fuel false rest
              return (item :: items, rest)
          | none => do
              let (low, rest) ← setChar? field
              let isRange : Bool := match rest with
                | ('-', false) :: (']', false) :: _ => false
                | ('-', false) :: _ :: _ => true
                | _ => false
              if isRange then do
                let (high, rest) ← setChar? (rest.drop 1)
                let (items, rest) ← setItems? fuel false rest
                return (.range low high :: items, rest)
              else do
                let (items, rest) ← setItems? fuel false rest
                return (.range low low :: items, rest)

/-- The set whose opening bracket was passed, and what follows it. -/
def set? (field : Field) : Option (Wildcard × Field) :=
  let (inside, field) := match field with
    | ('!', false) :: rest => (false, rest)
    | field => (true, field)
  (setItems? (field.length + 1) true field).map fun (items, rest) => (.set inside items, rest)

/-- Read a pattern; a bracket that is not closed stands for itself. -/
def read : Nat → Field → List Wildcard
  | _, [] => []
  | 0, field => field.map fun (c, _) => .one c
  | fuel + 1, (c, marked) :: field =>
      if marked then .one c :: read fuel field
      else if c = '*' then .anyMany :: read fuel field
      else if c = '?' then .anyOne :: read fuel field
      else if c = '\\' then
        match field with
        | (d, _) :: rest => .one d :: read fuel rest
        | [] => [.one c]
      else if c = '[' then
        match set? field with
        | some (item, rest) => item :: read fuel rest
        | none => .one c :: read fuel field
      else .one c :: read fuel field

def ofField (field : Field) : List Wildcard := read field.length field

/-- Whether an item stands for a character. -/
def admits : Wildcard → Char → Bool
  | one d, c => c = d
  | anyOne, _ | anyMany, _ => true
  | set inside items, c => items.any (·.admits c) == inside

/-- Whether a pattern stands for a whole text. -/
def admitsAll : List Wildcard → List Char → Bool
  | [], cs => cs.isEmpty
  | .anyMany :: items, [] => admitsAll items []
  | .anyMany :: items, c :: cs => admitsAll items (c :: cs) || admitsAll (.anyMany :: items) cs
  | _ :: _, [] => false
  | item :: items, c :: cs => item.admits c && admitsAll items cs
termination_by items cs => items.length + cs.length

/-- Whether a pattern has an item that stands for more than one text. -/
def isOpen (items : List Wildcard) : Bool :=
  items.any fun
    | .one _ => false
    | _ => true

/-- Cut a text where a pattern matches its front: after the shortest or the longest match. The
text is whole when nothing matches. -/
def dropFront (longest : Bool) (items : List Wildcard) (cs : List Char) : List Char :=
  let cuts := (List.range (cs.length + 1)).filter fun n => admitsAll items (cs.take n)
  match if longest then cuts.getLast? else cuts.head? with
  | some n => cs.drop n
  | none => cs

/-- Cut a text where a pattern matches its end. -/
def dropBack (longest : Bool) (items : List Wildcard) (cs : List Char) : List Char :=
  let cuts := (List.range (cs.length + 1)).filter fun n => admitsAll items (cs.drop n)
  match if longest then cuts.head? else cuts.getLast? with
  | some n => cs.take n
  | none => cs

/-- The names in a directory as octets, in order, with those of the directory itself and of the
one above it. -/
def namesIn (files : FileTree) (place : List String) : List String :=
  let own := (files.below place).filterMap fun (names, _) =>
    match names with
    | [name] => some (Octets.encode name)
    | _ => none
  ("." :: ".." :: own).mergeSort (· ≤ ·)

/-- Cut a field at its separators. -/
def pathNames : Field → List Field
  | [] => [[]]
  | (c, marked) :: field =>
      if c = '/' then [] :: pathNames field
      else
        match pathNames field with
        | [] => [[(c, marked)]]
        | name :: names => ((c, marked) :: name) :: names

/-- The text of a part of a path without wildcards. -/
def plainText (items : List Wildcard) : String :=
  String.ofList (items.filterMap fun
    | .one c => some c
    | _ => none)

/-- The names of a directory that a part of a path stands for. A name that starts with a point is
meant only by a part that starts so, too. -/
def namesFor (files : FileTree) (place : List String) (part : Field) : List String :=
  let items := ofField part
  if isOpen items then
    let forPoint : Bool := match items with
      | .one '.' :: _ => true
      | _ => false
    (namesIn files place).filter fun name =>
      admitsAll items name.toList && (name.toList.head? ≠ some '.' || forPoint)
  else [plainText items]

/-- The paths below a place that the parts of a path stand for. The path so far is in front. -/
def pathsBelow (files : FileTree) : String → List String → List Field → List String
  | path, place, [] => if (files.get? place).isSome then [path] else []
  | path, place, part :: parts =>
      (namesFor files place part).flatMap fun name =>
        let next := if parts.isEmpty then path ++ name else path ++ name ++ "/"
        match files.walk place (if name = "" then [] else [Octets.decode name]) with
        | .ok inner =>
            let isDir := match files.get? inner with
              | some .dir => true
              | _ => false
            if parts.isEmpty || isDir then pathsBelow files next inner parts else []
        | .error _ => []

/-- The paths that a field stands for: itself, when it has no wildcard or nothing matches. -/
def paths (files : FileTree) (dir : List String) (field : Field) : List String :=
  if isOpen (ofField field) then
    let found := match pathNames field with
      | [] :: parts => pathsBelow files "/" [] parts
      | parts => pathsBelow files "" dir parts
    if found.isEmpty then [field.text] else found
  else [field.text]

end Wildcard

end ScaffoldRunner.Shell
