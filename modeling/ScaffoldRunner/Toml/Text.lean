import ScaffoldRunner.Json.Parser

/-!
# Texts in TOML

Blanks, line ends and comments, and the four kinds of strings: basic and literal ones, each on one
line or on several. Basic strings have escapes, literal ones have none.
-/

namespace ScaffoldRunner.Toml

/-- Whether a character may stand in a comment, and, apart from the marks of the string, in a
string: a tab, or anything that is no control character. -/
def isLineChar (c : Char) : Bool := c = '\t' || (' ' ≤ c && c ≠ '\x7f')

/-- Whether a character separates tokens on a line. -/
def isBlank (c : Char) : Bool := c = ' ' || c = '\t'

def skipBlanks (cs : List Char) : List Char := cs.dropWhile isBlank

/-- What follows a line break. -/
def afterBreak? : List Char → Option (List Char)
  | '\n' :: cs | '\r' :: '\n' :: cs => some cs
  | _ => none

/-- Pass over a comment, if there is one. -/
def skipComment : List Char → List Char
  | '#' :: cs => cs.dropWhile isLineChar
  | cs => cs

/-- What follows the end of a line, which may have blanks and a comment in front of it. -/
def afterLine? (cs : List Char) : Option (List Char) :=
  match skipComment (skipBlanks cs) with
  | [] => some []
  | cs => afterBreak? cs

/-- Pass over blanks, line breaks and comments, in the middle of a comment or not. -/
def skipVoid (inComment : Bool) : List Char → List Char
  | [] => []
  | c :: cs =>
      if inComment && isLineChar c then skipVoid true cs
      else if isBlank c || c = '\n' then skipVoid false cs
      else if c = '\r' then
        if cs.head? = some '\n' then skipVoid false cs else c :: cs
      else if c = '#' then skipVoid true cs
      else c :: cs

/-- Pass over blanks and line breaks. -/
def skipLines : List Char → List Char
  | [] => []
  | c :: cs =>
      if isBlank c || c = '\n' then skipLines cs
      else if c = '\r' then
        if cs.head? = some '\n' then skipLines cs else c :: cs
      else c :: cs

/-- Read a hexadecimal number of exactly the given number of digits. -/
def hexNumber? : Nat → Nat → List Char → Option (Nat × List Char)
  | 0, n, cs => some (n, cs)
  | digits + 1, n, c :: cs => (Json.hexValue? c).bind fun v => hexNumber? digits (n * 16 + v) cs
  | _ + 1, _, [] => none

/-- Read the number of a character. -/
def charNumber? (digits : Nat) (cs : List Char) : Option (Char × List Char) :=
  (hexNumber? digits 0 cs).bind fun (n, rest) =>
    if n.isValidChar then some (Char.ofNat n, rest) else none

/-- Read what follows the backslash of an escape. -/
def escape? : List Char → Option (Char × List Char)
  | 'b' :: cs => some ('\x08', cs)
  | 't' :: cs => some ('\t', cs)
  | 'n' :: cs => some ('\n', cs)
  | 'f' :: cs => some ('\x0c', cs)
  | 'r' :: cs => some ('\r', cs)
  | '"' :: cs => some ('"', cs)
  | '\\' :: cs => some ('\\', cs)
  | 'u' :: cs => charNumber? 4 cs
  | 'U' :: cs => charNumber? 8 cs
  | _ => none

/-- Read a basic string on one line after its opening quote. -/
def basicBody : Nat → List Char → Option (List Char × List Char)
  | 0, _ => none
  | _ + 1, '"' :: cs => some ([], cs)
  | fuel + 1, '\\' :: cs => do
      let (c, cs) ← escape? cs
      let (text, cs) ← basicBody fuel cs
      return (c :: text, cs)
  | fuel + 1, c :: cs =>
      if isLineChar c then (basicBody fuel cs).map fun (text, cs) => (c :: text, cs) else none
  | _ + 1, [] => none

/-- Read a literal string on one line after its opening quote. -/
def literalBody : List Char → Option (List Char × List Char)
  | [] => none
  | c :: cs =>
      if c = '\'' then some ([], cs)
      else if isLineChar c then (literalBody cs).map fun (text, cs) => (c :: text, cs)
      else none

/-- What a run of quotes in a string on several lines means. -/
inductive QuoteRun where
  | none
  /-- The quotes belong to the string, which goes on. -/
  | inside (count : Nat)
  /-- Some of the quotes belong to the string, the others close it. -/
  | closing (count : Nat)

/-- Look at the quotes at the front of a text: three of them close the string, and up to two more
in front of these belong to it. -/
def quoteRun (quote : Char) (cs : List Char) : QuoteRun :=
  let n := (cs.takeWhile (· = quote)).length
  if n = 0 then .none else if n < 3 then .inside n else .closing (min (n - 3) 2)

/-- Read a string on several lines after its opening quotes. A backslash at the end of a line joins
it to the next character that is no blank. -/
def linesBody (quote : Char) : Nat → List Char → Option (List Char × List Char)
  | 0, _ => none
  | fuel + 1, cs =>
      match quoteRun quote cs with
      | .closing n => some (List.replicate n quote, cs.drop (n + 3))
      | .inside n => do
          let (text, rest) ← linesBody quote fuel (cs.drop n)
          return (List.replicate n quote ++ text, rest)
      | .none =>
          match afterBreak? cs with
          | some cs => (linesBody quote fuel cs).map fun (text, cs) => ('\n' :: text, cs)
          | none =>
              match cs with
              | [] => none
              | c :: cs =>
                  if c = '\\' ∧ quote = '"' then
                    match afterBreak? (skipBlanks cs) with
                    | some cs => linesBody quote fuel (skipLines cs)
                    | none => do
                        let (c, cs) ← escape? cs
                        let (text, cs) ← linesBody quote fuel cs
                        return (c :: text, cs)
                  else if isLineChar c then
                    (linesBody quote fuel cs).map fun (text, cs) => (c :: text, cs)
                  else none

/-- Pass over a line break, if there is one. -/
def skipBreak (cs : List Char) : List Char := (afterBreak? cs).getD cs

def lineString? : List Char → Option (String × List Char)
  | '"' :: cs => (basicBody (cs.length + 1) cs).map fun (text, cs) => (String.ofList text, cs)
  | '\'' :: cs => (literalBody cs).map fun (text, cs) => (String.ofList text, cs)
  | _ => none

/-- Read a string of any kind. -/
def string? : List Char → Option (String × List Char)
  | '"' :: '"' :: '"' :: cs =>
      (linesBody '"' (cs.length + 1) (skipBreak cs)).map fun (text, cs) => (String.ofList text, cs)
  | '\'' :: '\'' :: '\'' :: cs =>
      (linesBody '\'' (cs.length + 1) (skipBreak cs)).map fun (text, cs) => (String.ofList text, cs)
  | cs => lineString? cs

/-- Whether a character may stand in a key without quotes. -/
def isBareChar (c : Char) : Bool := c.isAlphanum || c = '_' || c = '-'

/-- Read a key without points. -/
def simpleKey? (cs : List Char) : Option (String × List Char) :=
  match cs.takeWhile isBareChar with
  | [] => lineString? cs
  | key => some (String.ofList key, cs.dropWhile isBareChar)

/-- The number of levels that tables and values may nest. -/
def maxLevels : Nat := 79

/-- Read keys with points in between, and with blanks around each; at most the given number. -/
def keyPath? : Nat → List Char → Option (List String × List Char)
  | 0, _ => none
  | levels + 1, cs => do
      let (key, cs) ← simpleKey? (skipBlanks cs)
      match skipBlanks cs with
      | '.' :: cs => do
          let (keys, cs) ← keyPath? levels cs
          return (key :: keys, cs)
      | cs => return ([key], cs)

end ScaffoldRunner.Toml
