import ScaffoldRunner.Toml.Scalar
import ScaffoldRunner.Toml.Table
import ScaffoldRunner.Toml.Text

/-!
# Reading TOML

A document is a sequence of lines, each with a header, with a key and its value, or with nothing;
a value in brackets may go on over several lines. The result is an object. A date or time becomes
an object with its text as the only member, and a number that is not finite becomes `null`.
-/

namespace ScaffoldRunner.Toml

/-- The member that holds the text of a date or time. -/
def dateTimeKey : String := "$__toml_private_datetime"

/-- Split a path into the way and the last key. -/
def splitLast? (keys : List String) : Option (List String × String) :=
  keys.getLast?.map fun key => (keys.dropLast, key)

/-- Read what is no string and has no brackets. -/
def plainValue? (cs : List Char) : Option (Json × List Char) :=
  match cs with
  | 't' :: 'r' :: 'u' :: 'e' :: rest => some (.bool true, rest)
  | 'f' :: 'a' :: 'l' :: 's' :: 'e' :: rest => some (.bool false, rest)
  | cs =>
      match dateTime? cs with
      | some (text, rest) => some (.obj [(dateTimeKey, .str text)], rest)
      | none => number? cs

mutual

/-- Read a value, in which brackets may open the given number of levels. -/
def value? : Nat → Nat → List Char → Option (Json × List Char)
  | 0, _, _ => none
  | fuel + 1, levels, cs =>
      match cs with
      | '"' :: _ | '\'' :: _ => (string? cs).map fun (s, rest) => (.str s, rest)
      | '[' :: cs =>
          match levels with
          | 0 => none
          | levels + 1 => (items? fuel levels cs).map fun (items, rest) => (.arr items, rest)
      | '{' :: cs =>
          match levels with
          | 0 => none
          | levels + 1 =>
              match skipBlanks cs with
              | '}' :: rest => some (.obj [], rest)
              | _ =>
                  (pairs? fuel levels [] cs).map fun (table, rest) =>
                    (.obj (tableMembers table), rest)
      | cs => plainValue? cs

/-- Read the items of an array up to its closing bracket. -/
def items? : Nat → Nat → List Char → Option (List Json × List Char)
  | 0, _, _ => none
  | fuel + 1, levels, cs =>
      match skipVoid false cs with
      | ']' :: rest => some ([], rest)
      | cs => do
          let (item, cs) ← value? fuel levels cs
          match skipVoid false cs with
          | ',' :: cs => do
              let (items, rest) ← items? fuel levels cs
              return (item :: items, rest)
          | ']' :: rest => return ([item], rest)
          | _ => none

/-- Read the pairs of a table in braces up to its closing brace. -/
def pairs? : Nat → Nat → Table → List Char → Option (Table × List Char)
  | 0, _, _, _ => none
  | fuel + 1, levels, table, cs => do
      let (keys, cs) ← keyPath? maxLevels cs
      let (path, key) ← splitLast? keys
      let cs ← mark? '=' cs
      let (value, cs) ← value? fuel levels (skipBlanks cs)
      let table ← table.addValue path key value
      match skipBlanks cs with
      | ',' :: cs => pairs? fuel levels table cs
      | '}' :: rest => return (table, rest)
      | _ => none

end

/-- What was read of a document, and the path of the table that was opened last. -/
structure Draft where
  root : Table := []
  current : List String := []

namespace Draft

/-- Read a key and its value. -/
def readPair (draft : Draft) (cs : List Char) : Option (Draft × List Char) := do
  let (keys, cs) ← keyPath? maxLevels cs
  let (path, key) ← splitLast? keys
  let cs ← mark? '=' cs
  let cs := skipBlanks cs
  let (value, cs) ← value? (cs.length + 1) maxLevels cs
  let root ← draft.root.addCurrent draft.current path key value
  return ({ draft with root := root }, ← afterLine? cs)

/-- Read the header of a table after its opening bracket. -/
def readHeader (draft : Draft) (cs : List Char) : Option (Draft × List Char) := do
  let (keys, cs) ← keyPath? maxLevels cs
  let (path, key) ← splitLast? keys
  let cs ← mark? ']' cs
  return ({ root := ← draft.root.openTable path key, current := keys }, ← afterLine? cs)

/-- Read the header of a table in a list after its opening brackets. -/
def readListHeader (draft : Draft) (cs : List Char) : Option (Draft × List Char) := do
  let (keys, cs) ← keyPath? maxLevels cs
  let (path, key) ← splitLast? keys
  let cs ← mark? ']' (← mark? ']' cs)
  return ({ root := ← draft.root.openNext path key, current := keys }, ← afterLine? cs)

def readLine (draft : Draft) (cs : List Char) : Option (Draft × List Char) :=
  match cs with
  | '[' :: '[' :: cs => draft.readListHeader cs
  | '[' :: cs => draft.readHeader cs
  | '#' :: _ | '\n' :: _ | '\r' :: _ => (afterLine? cs).map fun rest => (draft, rest)
  | cs => draft.readPair cs

def readLines : Nat → Draft → List Char → Option Draft
  | 0, _, _ => none
  | fuel + 1, draft, cs =>
      match skipBlanks cs with
      | [] => some draft
      | cs =>
          match draft.readLine cs with
          | some (draft, rest) => readLines fuel draft rest
          | none => none

end Draft

/-- Pass over the mark of the byte order, if there is one. -/
def skipOrderMark : List Char → List Char
  | '\ufeff' :: cs => cs
  | cs => cs

/-- Read a document. -/
def parse? (text : String) : Option Json :=
  let cs := skipOrderMark text.toList
  (Draft.readLines (cs.length + 1) {} cs).map fun draft => .obj (tableMembers draft.root)

end ScaffoldRunner.Toml
