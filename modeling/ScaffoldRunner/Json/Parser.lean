import ScaffoldRunner.Json.Number

/-!
# Reading JSON

A text is read as one value with blanks around it. Arrays and objects nest at most 127 levels
deep. Of two members with one name the later one counts. Escapes that stand for half of a
surrogate pair are refused, and so are control characters inside strings.
-/

namespace ScaffoldRunner.Json

/-- The deepest nesting that is read. -/
def maxDepth : Nat := 127

/-- The blanks between the tokens of JSON. -/
def isSpace (c : Char) : Bool := c = ' ' || c = '\t' || c = '\n' || c = '\r'

/-- The text after leading blanks. -/
def skipSpace (cs : List Char) : List Char := cs.dropWhile isSpace

/-- The value of a hexadecimal digit. -/
def hexValue? (c : Char) : Option Nat :=
  if '0' ≤ c && c ≤ '9' then some (c.toNat - '0'.toNat)
  else if 'a' ≤ c && c ≤ 'f' then some (c.toNat - 'a'.toNat + 10)
  else if 'A' ≤ c && c ≤ 'F' then some (c.toNat - 'A'.toNat + 10)
  else none

/-- The number of four hexadecimal digits. -/
def hexFour? : List Char → Option (Nat × List Char)
  | a :: b :: c :: d :: rest => do
      let a ← hexValue? a
      let b ← hexValue? b
      let c ← hexValue? c
      let d ← hexValue? d
      return (((a * 16 + b) * 16 + c) * 16 + d, rest)
  | _ => none

/-- The character of an escape that gives its code: one unit, or a surrogate pair. -/
def codeEscape? (cs : List Char) : Option (Char × List Char) := do
  let (unit, cs) ← hexFour? cs
  if 0xD800 ≤ unit && unit ≤ 0xDBFF then
    match cs with
    | '\\' :: 'u' :: cs =>
        let (low, cs) ← hexFour? cs
        if 0xDC00 ≤ low && low ≤ 0xDFFF then
          return (Char.ofNat (0x10000 + (unit - 0xD800) * 0x400 + (low - 0xDC00)), cs)
        else none
    | _ => none
  else if 0xDC00 ≤ unit && unit ≤ 0xDFFF then none
  else return (Char.ofNat unit, cs)

/-- The character that a letter after a backslash stands for. -/
def letterEscape? : Char → Option Char
  | '"' => some '"'
  | '\\' => some '\\'
  | '/' => some '/'
  | 'b' => some '\x08'
  | 'f' => some '\x0c'
  | 'n' => some '\n'
  | 'r' => some '\r'
  | 't' => some '\t'
  | _ => none

/-- Read the inside of a string up to its closing quote. The characters read so far come first,
in reverse. -/
def stringBody : Nat → List Char → List Char → Option (String × List Char)
  | 0, _, _ => none
  | fuel + 1, acc, cs =>
      match cs with
      | [] => none
      | '"' :: cs => some (String.ofList acc.reverse, cs)
      | '\\' :: 'u' :: cs =>
          match codeEscape? cs with
          | some (c, cs) => stringBody fuel (c :: acc) cs
          | none => none
      | '\\' :: c :: cs =>
          match letterEscape? c with
          | some c => stringBody fuel (c :: acc) cs
          | none => none
      | ['\\'] => none
      | c :: cs => if c.toNat < 32 then none else stringBody fuel (c :: acc) cs

mutual

/-- Read a value, with room for `depth` levels of nesting. -/
def value : Nat → Nat → List Char → Option (Json × List Char)
  | 0, _, _ => none
  | fuel + 1, depth, cs =>
      match skipSpace cs with
      | 'n' :: 'u' :: 'l' :: 'l' :: cs => some (null, cs)
      | 't' :: 'r' :: 'u' :: 'e' :: cs => some (bool true, cs)
      | 'f' :: 'a' :: 'l' :: 's' :: 'e' :: cs => some (bool false, cs)
      | '"' :: cs => (stringBody fuel [] cs).map fun (s, cs) => (str s, cs)
      | '[' :: cs =>
          if depth = 0 then none
          else
            match skipSpace cs with
            | ']' :: cs => some (arr [], cs)
            | cs => (items fuel (depth - 1) cs).map fun (as, cs) => (arr as, cs)
      | '{' :: cs =>
          if depth = 0 then none
          else
            match skipSpace cs with
            | '}' :: cs => some (obj [], cs)
            | cs => (members fuel (depth - 1) cs).map fun (as, cs) => (obj (Dict.ofList as), cs)
      | cs =>
          match numberText? cs with
          | some (t, cs) => t.value?.map fun j => (j, cs)
          | none => none

/-- Read the items of an array, one at least, with the closing bracket. -/
def items : Nat → Nat → List Char → Option (List Json × List Char)
  | 0, _, _ => none
  | fuel + 1, depth, cs =>
      match value fuel depth cs with
      | none => none
      | some (a, cs) =>
          match skipSpace cs with
          | ']' :: cs => some ([a], cs)
          | ',' :: cs => (items fuel depth cs).map fun (as, cs) => (a :: as, cs)
          | _ => none

/-- Read the members of an object, one at least, with the closing brace. -/
def members : Nat → Nat → List Char → Option (List (String × Json) × List Char)
  | 0, _, _ => none
  | fuel + 1, depth, cs =>
      match skipSpace cs with
      | '"' :: cs =>
          match stringBody fuel [] cs with
          | none => none
          | some (k, cs) =>
              match skipSpace cs with
              | ':' :: cs =>
                  match value fuel depth cs with
                  | none => none
                  | some (a, cs) =>
                      match skipSpace cs with
                      | '}' :: cs => some ([(k, a)], cs)
                      | ',' :: cs =>
                          (members fuel depth cs).map fun (as, cs) => ((k, a) :: as, cs)
                      | _ => none
              | _ => none
      | _ => none

end

/-- Read a whole text as one value. -/
def parseChars? (cs : List Char) : Option Json :=
  match value (2 * cs.length + 2) maxDepth cs with
  | some (j, rest) => if (skipSpace rest).isEmpty then some j else none
  | none => none

/-- Read a whole text as one value. -/
def parse? (s : String) : Option Json := parseChars? s.toList

end ScaffoldRunner.Json
