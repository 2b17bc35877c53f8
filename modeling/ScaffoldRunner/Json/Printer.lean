import ScaffoldRunner.Json.Basic
import ScaffoldRunner.Json.Decimal

/-!
# Writing JSON

The compact form has no blanks. The pretty form puts each item and member on a line of its own,
indented by two per level, and keeps an empty array or object on one line.
-/

namespace ScaffoldRunner.Json

def hexDigit (n : Nat) : Char := "0123456789abcdef".toList.getD n '0'

/-- A character inside a quoted text. The quote, the backslash and the characters below the blank
are escaped. -/
def escapeChar (c : Char) : List Char :=
  if c = '"' then ['\\', '"']
  else if c = '\\' then ['\\', '\\']
  else if c = '\n' then ['\\', 'n']
  else if c = '\r' then ['\\', 'r']
  else if c = '\t' then ['\\', 't']
  else if c = '\x08' then ['\\', 'b']
  else if c = '\x0c' then ['\\', 'f']
  else if c.toNat < 32 then ['\\', 'u', '0', '0', hexDigit (c.toNat / 16), hexDigit (c.toNat % 16)]
  else [c]

/-- A text between quotes. -/
def quoteChars (cs : List Char) : List Char := '"' :: cs.flatMap escapeChar ++ ['"']

/-- The digits of an integer, with its sign. -/
def intChars (i : Int) : List Char :=
  if i < 0 then '-' :: Nat.toDigits 10 i.natAbs else Nat.toDigits 10 i.natAbs

mutual

/-- The compact form of a value, in front of `rest`. -/
def compactOnto : Json → List Char → List Char
  | null, rest => 'n' :: 'u' :: 'l' :: 'l' :: rest
  | bool true, rest => 't' :: 'r' :: 'u' :: 'e' :: rest
  | bool false, rest => 'f' :: 'a' :: 'l' :: 's' :: 'e' :: rest
  | int i, rest => intChars i ++ rest
  | float x, rest => Decimal.render x ++ rest
  | str s, rest => quoteChars s.toList ++ rest
  | arr [], rest => '[' :: ']' :: rest
  | arr (a :: as), rest => '[' :: compactOnto a (compactItemsOnto as rest)
  | obj [], rest => '{' :: '}' :: rest
  | obj ((k, a) :: as), rest =>
      '{' :: (quoteChars k.toList ++ ':' :: compactOnto a (compactMembersOnto as rest))

/-- The items after the first one, with the closing bracket. -/
def compactItemsOnto : List Json → List Char → List Char
  | [], rest => ']' :: rest
  | a :: as, rest => ',' :: compactOnto a (compactItemsOnto as rest)

/-- The members after the first one, with the closing brace. -/
def compactMembersOnto : List (String × Json) → List Char → List Char
  | [], rest => '}' :: rest
  | (k, a) :: as, rest =>
      ',' :: (quoteChars k.toList ++ ':' :: compactOnto a (compactMembersOnto as rest))

end

/-- The compact form of a value. -/
def compact (j : Json) : String := String.ofList (compactOnto j [])

/-- A line break and the indentation of a level. -/
def indent (level : Nat) : List Char := '\n' :: List.replicate (2 * level) ' '

mutual

/-- The pretty form of a value at a level, in front of `rest`. -/
def prettyOnto (level : Nat) : Json → List Char → List Char
  | null, rest => compactOnto null rest
  | bool b, rest => compactOnto (bool b) rest
  | int i, rest => compactOnto (int i) rest
  | float x, rest => compactOnto (float x) rest
  | str s, rest => compactOnto (str s) rest
  | arr [], rest => '[' :: ']' :: rest
  | arr (a :: as), rest =>
      '[' :: (indent (level + 1) ++ prettyOnto (level + 1) a (prettyItemsOnto level as rest))
  | obj [], rest => '{' :: '}' :: rest
  | obj ((k, a) :: as), rest =>
      '{' :: (indent (level + 1) ++ (quoteChars k.toList ++
        ':' :: ' ' :: prettyOnto (level + 1) a (prettyMembersOnto level as rest)))

/-- The items after the first one, with the closing bracket. -/
def prettyItemsOnto (level : Nat) : List Json → List Char → List Char
  | [], rest => indent level ++ ']' :: rest
  | a :: as, rest =>
      ',' :: (indent (level + 1) ++ prettyOnto (level + 1) a (prettyItemsOnto level as rest))

/-- The members after the first one, with the closing brace. -/
def prettyMembersOnto (level : Nat) : List (String × Json) → List Char → List Char
  | [], rest => indent level ++ '}' :: rest
  | (k, a) :: as, rest =>
      ',' :: (indent (level + 1) ++ (quoteChars k.toList ++
        ':' :: ' ' :: prettyOnto (level + 1) a (prettyMembersOnto level as rest)))

end

/-- The pretty form of a value. -/
def pretty (j : Json) : String := String.ofList (prettyOnto 0 j [])

end ScaffoldRunner.Json
