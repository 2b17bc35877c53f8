/-!
# Escapes in texts

What a backslash and the characters after it stand for, in texts that are put out. Which escapes
there are depends on who reads them.
-/

namespace ScaffoldRunner

namespace Escape

/-- The characters that letters after a backslash stand for. -/
def letters : List (Char × Nat) :=
  [('\\', 92), ('a', 7), ('b', 8), ('e', 27), ('f', 12), ('n', 10), ('r', 13), ('t', 9),
    ('v', 11)]

/-- The character of a letter after a backslash. -/
def letter? (c : Char) : Option Char := (letters.find? fun e => e.1 = c).map (Char.ofNat ·.2)

/-- Whether a character is an octal digit. -/
def isOctal (c : Char) : Bool := '0' ≤ c && c ≤ '7'

/-- Whether a character is a hexadecimal digit. -/
def isHex (c : Char) : Bool :=
  c.isDigit || ('a' ≤ c && c ≤ 'f') || ('A' ≤ c && c ≤ 'F')

def digitValue (c : Char) : Nat := if c.isDigit then c.toNat - 48 else c.toLower.toNat - 87

/-- The character of at most so many digits of a base, and what follows them. -/
def number (base most : Nat) (isDigit : Char → Bool) (cs : List Char) : Char × List Char :=
  let digits := (cs.take most).takeWhile isDigit
  let value := digits.foldl (fun n c => n * base + digitValue c) 0
  (Char.ofNat (value % 256), cs.drop digits.length)

/-- What follows a backslash: what it stands for, and what is left. -/
abbrev Reading := List Char → List Char × List Char

def ofFormat : Reading
  | [] => (['\\'], [])
  | c :: cs =>
      match letter? c with
      | some d => ([d], cs)
      | none =>
          if isOctal c then
            let (d, rest) := number 8 3 isOctal (c :: cs)
            ([d], rest)
          else (['\\'], c :: cs)

/-- The escapes of texts, where an octal number may have one more zero in front. -/
def ofText : Reading
  | '0' :: c :: cs => if isOctal c then ofFormat (c :: cs) else ofFormat ('0' :: c :: cs)
  | cs => ofFormat cs

/-- The escapes of texts where an octal number has a zero in front and there are hexadecimal
numbers. -/
def ofNumberedText : Reading
  | '0' :: cs =>
      let (d, rest) := number 8 3 isOctal cs
      ([d], rest)
  | 'x' :: c :: cs =>
      if isHex c then
        let (d, rest) := number 16 2 isHex (c :: cs)
        ([d], rest)
      else (['\\', 'x'], c :: cs)
  | c :: cs =>
      match letter? c with
      | some d => ([d], cs)
      | none => (['\\'], c :: cs)
  | [] => (['\\'], [])

/-- A text with its escapes replaced, and whether it goes on to the end: an escaped `c` stops all
output. -/
def expand (reading : Reading) : Nat → List Char → List Char → List Char × Bool
  | 0, done, cs => (cs.reverseAux done |>.reverse, true)
  | _, done, [] => (done.reverse, true)
  | _, done, '\\' :: 'c' :: _ => (done.reverse, false)
  | fuel + 1, done, '\\' :: cs =>
      let (found, rest) := reading cs
      expand reading fuel (found.reverseAux done) rest
  | fuel + 1, done, c :: cs => expand reading fuel (c :: done) cs

/-- A whole text with its escapes replaced. -/
def expandAll (reading : Reading) (text : String) : String × Bool :=
  let (cs, goesOn) := expand reading (text.length + 1) [] text.toList
  (String.ofList cs, goesOn)

end Escape

end ScaffoldRunner
