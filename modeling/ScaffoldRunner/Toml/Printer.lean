import ScaffoldRunner.Json.Decimal
import ScaffoldRunner.Json.Printer
import ScaffoldRunner.Toml.Text

/-!
# Writing TOML

An object is written as a document: first its plain values, then a section with a header for each
table and for each list of tables in it. A table without members has a header, and so has one with
plain values; one that holds nothing but tables has none. Lists of two or more items have a line
for each item. A document cannot hold `null`.
-/

namespace ScaffoldRunner.Toml

/-- What decides how a string can be written. -/
structure TextShape where
  /-- The longest run of single quotes. -/
  singles : Nat
  /-- The longest run of double quotes. -/
  doubles : Nat
  backslash : Bool
  lineBreak : Bool
  /-- Whether there is a control character that only an escape can stand for. -/
  control : Bool

/-- The longest run of a character, where a run of the given length is under way. -/
def longestRun (c : Char) (current : Nat) : List Char → Nat
  | [] => current
  | d :: cs => if d = c then longestRun c (current + 1) cs else max current (longestRun c 0 cs)

/-- Whether only an escape can stand for a character. -/
def isControl (c : Char) : Bool := (c < ' ' && c ≠ '\t' && c ≠ '\n') || c = '\x7f'

/-- What decides how a string can be written. -/
def TextShape.of (cs : List Char) : TextShape where
  singles := longestRun '\'' 0 cs
  doubles := longestRun '"' 0 cs
  backslash := cs.contains '\\'
  lineBreak := cs.contains '\n'
  control := cs.any isControl

/-- The escape of a character that needs one, in a string on one line or on several. -/
def escapeOf? (multiLine : Bool) (c : Char) : Option (List Char) :=
  if c = '\x08' then some ['\\', 'b']
  else if c = '\t' then some ['\\', 't']
  else if c = '\n' then if multiLine then none else some ['\\', 'n']
  else if c = '\x0c' then some ['\\', 'f']
  else if c = '\r' then some ['\\', 'r']
  else if c = '\\' then some ['\\', '\\']
  else if isControl c then
    some ['\\', 'u', '0', '0', (Json.hexDigit (c.toNat / 16)).toUpper,
      (Json.hexDigit (c.toNat % 16)).toUpper]
  else none

/-- The characters of a basic string; `run` quotes have just been written. A quote beyond the
longest run that may stand there is escaped. -/
def escapeChars (multiLine : Bool) (run : Nat) : List Char → List Char
  | [] => []
  | c :: cs =>
      if c = '"' then
        if (if multiLine then 2 else 0) < run + 1 then
          '\\' :: '"' :: escapeChars multiLine 0 cs
        else '"' :: escapeChars multiLine (run + 1) cs
      else (escapeOf? multiLine c).getD [c] ++ escapeChars multiLine 0 cs

/-- A string on one line. -/
def basicText (cs : List Char) : List Char := '"' :: escapeChars false 0 cs ++ ['"']

/-- A string on one line without escapes. -/
def literalText (cs : List Char) : List Char := '\'' :: cs ++ ['\'']

/-- Three quotes, and a line break when the string has one itself. -/
def opening (quote : Char) (cs : List Char) : List Char :=
  List.replicate 3 quote ++ if cs.contains '\n' then ['\n'] else []

/-- A string on several lines. -/
def multiBasicText (cs : List Char) : List Char :=
  opening '"' cs ++ escapeChars true 0 cs ++ List.replicate 3 '"'

/-- A string on several lines without escapes. -/
def multiLiteralText (cs : List Char) : List Char :=
  opening '\'' cs ++ cs ++ List.replicate 3 '\''

/-- A string, in the plainest of the four kinds in which it needs no escapes; if there is none,
with escapes. -/
def stringText (cs : List Char) : List Char :=
  let s := TextShape.of cs
  if !s.control && !s.backslash && s.doubles = 0 && !s.lineBreak then basicText cs
  else if !s.control && s.singles = 0 && !s.lineBreak then literalText cs
  else if !s.control && !s.backslash && s.doubles ≤ 2 then multiBasicText cs
  else if !s.control && s.singles ≤ 2 then multiLiteralText cs
  else if s.lineBreak then multiBasicText cs
  else basicText cs

/-- A key, without quotes where it can do without. -/
def keyText (key : String) : List Char :=
  let cs := key.toList
  let s := TextShape.of cs
  if !cs.isEmpty && cs.all isBareChar then cs
  else if !s.control && !s.backslash && s.doubles = 0 && !s.lineBreak then basicText cs
  else if !s.control && s.singles = 0 && !s.lineBreak then literalText cs
  else basicText cs

/-- A finite floating-point number, never with an exponent. -/
def floatText (x : Float) : List Char :=
  let body := Decimal.positional (Decimal.shortest x)
  if Decimal.isNegative x then '-' :: body else body

/-- What stands in front of the items of a list: each is on a line of its own. -/
def itemIndent : List Char := "\n    ".toList

mutual

/-- A value on the right of an equals sign. -/
def valueText? : Json → Option (List Char)
  | .null => none
  | .bool b => some (if b then "true".toList else "false".toList)
  | .int i => if fitsSigned 64 i then some (Json.intChars i) else none
  | .float x => some (floatText x)
  | .str s => some (stringText s.toList)
  | .arr [] => some ['[', ']']
  | .arr [a] => (valueText? a).map fun t => '[' :: t ++ [']']
  | .arr (a :: b :: rest) => do
      let first ← valueText? a
      let others ← itemTexts? (b :: rest)
      return '[' :: itemIndent ++ first ++ others
  | .obj [] => some ['{', '}']
  | .obj ((key, a) :: rest) => do
      let first ← valueText? a
      let others ← pairTexts? rest
      return '{' :: ' ' :: keyText key ++ " = ".toList ++ first ++ others

/-- The items after the first one, with the closing bracket. -/
def itemTexts? : List Json → Option (List Char)
  | [] => some [',', '\n', ']']
  | a :: rest => do
      let first ← valueText? a
      let others ← itemTexts? rest
      return ',' :: itemIndent ++ first ++ others

/-- The members after the first one, with the closing brace. -/
def pairTexts? : List (String × Json) → Option (List Char)
  | [] => some [' ', '}']
  | (key, a) :: rest => do
      let first ← valueText? a
      let others ← pairTexts? rest
      return ',' :: ' ' :: keyText key ++ " = ".toList ++ first ++ others

end

/-- Whether a value is an object. -/
def isTable : Json → Bool
  | .obj _ => true
  | _ => false

/-- Whether a member has a section of its own: a table, or a list of nothing but tables. -/
def hasSection : Json → Bool
  | .obj _ => true
  | .arr items => !items.isEmpty && items.all isTable
  | _ => false

/-- The lines of the members that have no section of their own. -/
def plainLines? : List (String × Json) → Option (List Char)
  | [] => some []
  | (key, j) :: rest =>
      if hasSection j then plainLines? rest
      else do
        let text ← valueText? j
        let others ← plainLines? rest
        return keyText key ++ " = ".toList ++ text ++ '\n' :: others

/-- The keys of a header with points in between. -/
def pathText (path : List String) : List Char := ['.'].intercalate (path.map keyText)

/-- What a section begins with. -/
inductive Header where
  | none
  | table
  | listed

def headerLine (header : Header) (path : List String) : List Char :=
  match header with
  | .none => []
  | .table => '\n' :: '[' :: pathText path ++ [']', '\n']
  | .listed => '\n' :: '[' :: '[' :: pathText path ++ [']', ']', '\n']

/-- The header of a table with the given members: one that holds nothing but sections needs
none. -/
def tableHeader (members : List (String × Json)) : Header :=
  if !members.isEmpty && members.all fun e => hasSection e.2 then .none else .table

mutual

/-- The section of a table: its header, its plain values, and the sections in it. -/
def section? (header : Header) (path : List String) : Json → Option (List Char)
  | .obj members => do
      let plain ← plainLines? members
      let inner ← sections? path members
      return headerLine header path ++ plain ++ inner
  | _ => some []

/-- The sections of the members that have one. -/
def sections? (path : List String) : List (String × Json) → Option (List Char)
  | [] => some []
  | (key, j) :: rest => do
      let first ← memberSection? path key j
      let others ← sections? path rest
      return first ++ others

def memberSection? (path : List String) (key : String) : Json → Option (List Char)
  | .obj members => do
      let plain ← plainLines? members
      let inner ← sections? (path ++ [key]) members
      return headerLine (tableHeader members) (path ++ [key]) ++ plain ++ inner
  | .arr items =>
      if !items.isEmpty && items.all isTable then listSections? (path ++ [key]) items else some []
  | _ => some []

def listSections? (path : List String) : List Json → Option (List Char)
  | [] => some []
  | item :: rest => do
      let first ← section? .listed path item
      let others ← listSections? path rest
      return first ++ others

end

/-- Drop the line break in front of the first section. -/
def dropFirstBreak : List Char → List Char
  | '\n' :: cs => cs
  | cs => cs

/-- Write an object as a document. -/
def render? (document : Json) : Option String :=
  (section? .none [] document).map fun cs => String.ofList (dropFirstBreak cs)

end ScaffoldRunner.Toml
