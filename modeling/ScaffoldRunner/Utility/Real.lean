import ScaffoldRunner.Json.Decimal

/-!
# Texts of real numbers

Numbers with a point and an exponent are read from the front of a text, and written with a fixed
number of places, with an exponent, or in the shorter of these ways. All rounding is exact.
-/

namespace ScaffoldRunner

namespace Real

/-- Not a number, and more than any number. -/
def notANumber : Float := 0.0 / 0.0

def infinity : Float := 1.0 / 0.0

def isBlank (c : Char) : Bool := c = ' ' || ('\t' ≤ c && c ≤ '\r')

/-- What was read at the front of a text. -/
structure Reading where
  value : Float
  rest : List Char
  /-- The number is too large, or too small, to be told apart from nothing. -/
  outOfRange : Bool := false

/-- Whether a text begins with a word, without regard to case. -/
def startsWith (word : String) (cs : List Char) : Bool :=
  (cs.take word.length).map Char.toLower = word.toList

/-- The exponent after a letter, if there is one, and what follows it. -/
def exponent (letter : Char) (cs : List Char) : Int × List Char :=
  match cs with
  | e :: rest =>
      if e.toLower ≠ letter then (0, cs)
      else
        let (negative, digits) : Bool × List Char := match rest with
          | '-' :: rest => (true, rest)
          | '+' :: rest => (false, rest)
          | rest => (false, rest)
        let number := digits.takeWhile Char.isDigit
        if number.isEmpty then (0, cs)
        else
          let n := (number.take 9).foldl (fun n c => n * 10 + (c.toNat - 48)) 0
          (if negative then -Int.ofNat n else n, digits.drop number.length)
  | [] => (0, [])

def ofDecimal (digits : Nat) (exponent : Int) : Float :=
  if digits = 0 then 0.0
  else
    let size := Int.ofNat (Nat.toDigits 10 digits).length + exponent
    if 400 < size then infinity
    else if size < -400 then 0.0
    else Float.ofScientific digits (exponent < 0) exponent.natAbs

/-- A number without a sign at the front of a text. -/
def unsigned? (cs : List Char) : Option Reading :=
  if startsWith "infinity" cs then some ⟨infinity, cs.drop 8, false⟩
  else if startsWith "inf" cs then some ⟨infinity, cs.drop 3, false⟩
  else if startsWith "nan" cs then some ⟨notANumber, cs.drop 3, false⟩
  else
    let isHex (c : Char) : Bool :=
      c.isDigit || ('a' ≤ c.toLower && c.toLower ≤ 'f')
    let value (c : Char) : Nat := if c.isDigit then c.toNat - 48 else c.toLower.toNat - 87
    let read (base : Nat) (isDigit : Char → Bool) (cs : List Char) :
        Option (Nat × Nat × List Char) :=
      let whole := cs.takeWhile isDigit
      let after := cs.drop whole.length
      let (part, rest) : List Char × List Char := match after with
        | '.' :: more => (more.takeWhile isDigit, more.dropWhile isDigit)
        | _ => ([], after)
      if whole.isEmpty && part.isEmpty then none
      else
        let n := (whole ++ part).foldl (fun n c => n * base + value c) 0
        some (n, part.length, rest)
    let hexadecimal : Option Reading := match cs with
      | '0' :: x :: digits =>
          if x.toLower ≠ 'x' then none
          else
            (read 16 isHex digits).map fun (n, places, rest) =>
              let (e, rest) := exponent 'p' rest
              let e := e - 4 * Int.ofNat places
              ⟨(Float.ofNat n).scaleB e, rest, false⟩
      | _ => none
    match hexadecimal with
    | some reading => some reading
    | none =>
        (read 10 Char.isDigit cs).map fun (n, places, rest) =>
          let (e, rest) := exponent 'e' rest
          let x := ofDecimal n (e - places)
          ⟨x, rest, n ≠ 0 && (x == 0.0 || x == infinity)⟩

/-- The number at the front of a text, after blanks; `none` if there is none. -/
def read? (cs : List Char) : Option Reading :=
  match cs.dropWhile isBlank with
  | '-' :: rest => (unsigned? rest).map fun r => { r with value := -r.value }
  | '+' :: rest => unsigned? rest
  | rest => unsigned? rest

/-- The digits and the exponent of the first of them, for so many digits. -/
def significant (count : Nat) (x : Float) : List Char × Int :=
  let (mantissa, exponent) := Decimal.binaryParts x
  if mantissa = 0 then (List.replicate count '0', 0)
  else
    let (num, den) := Decimal.binaryFraction mantissa exponent
    let lead := Decimal.leadingExponent num den 8 (Decimal.leadingEstimate num den)
    let (tn, td) := Decimal.powerOfTen (Int.ofNat count - 1 - lead)
    let digits := Decimal.roundDiv (num * tn) (den * td)
    if tenTo count ≤ digits then (Nat.toDigits 10 (digits / 10), lead + 1)
    else (Nat.toDigits 10 digits, lead)

/-- An exponent with a sign and at least two digits. -/
def exponentText (e : Int) : List Char :=
  let digits := Nat.toDigits 10 e.natAbs
  (if e < 0 then '-' else '+') :: (if digits.length < 2 then '0' :: digits else digits)

/-- A point with digits after it; without digits only if so asked. -/
def places (keepsPoint : Bool) (digits : List Char) : List Char :=
  if digits.isEmpty && !keepsPoint then [] else '.' :: digits

/-- A finite number without its sign, with so many digits after the point. -/
def fixed (keepsPoint : Bool) (count : Nat) (x : Float) : List Char :=
  let text := (Decimal.fixed count x).filter (· ≠ '-')
  if count = 0 && keepsPoint then text ++ ['.'] else text

/-- A finite number without its sign, with one digit in front of the point. -/
def scientific (keepsPoint : Bool) (count : Nat) (x : Float) : List Char :=
  let (digits, e) := significant (count + 1) x
  digits.take 1 ++ places keepsPoint (digits.drop 1) ++ 'e' :: exponentText e

/-- A text without zeros at its end. -/
def dropZeros (cs : List Char) : List Char := (cs.reverse.dropWhile (· = '0')).reverse

/-- A finite number without its sign, with so many digits, in the shorter way. Zeros at the end are
left out but if so asked. -/
def general (keepsZeros : Bool) (count : Nat) (x : Float) : List Char :=
  let count := max count 1
  let (digits, e) := significant count x
  if e < -4 || Int.ofNat count ≤ e then
    let part := if keepsZeros then digits.drop 1 else dropZeros (digits.drop 1)
    digits.take 1 ++ places keepsZeros part ++ 'e' :: exponentText e
  else
    let text := fixed keepsZeros (Int.ofNat count - 1 - e).toNat x
    if keepsZeros || !text.contains '.' then text
    else
      let text := dropZeros text
      if text.getLast? = some '.' then text.dropLast else text

/-- A finite number without its sign in the base sixteen. -/
def hexadecimal (keepsPoint : Bool) (count : Option Nat) (x : Float) : List Char :=
  let (mantissa, e) := Decimal.binaryParts x
  if mantissa = 0 then '0' :: 'x' :: '0' :: places keepsPoint (List.replicate (count.getD 0) '0') ++
    ['p', '+', '0']
  else
    let isSmall := mantissa < twoTo 52
    let (mantissa, shown) : Nat × Nat := match count with
      | some n =>
          if n < 13 then (Decimal.roundDiv mantissa (twoTo (4 * (13 - n))), n)
          else (mantissa * twoTo (4 * (n - 13)), n)
      | none => (mantissa, 13)
    let whole := mantissa / twoTo (4 * shown)
    let part := Nat.toDigits 16 (mantissa % twoTo (4 * shown))
    let part := if shown = 0 then []
      else List.replicate (shown - part.length) '0' ++ part
    let part := if count.isNone then dropZeros part else part
    let e := if isSmall then -1022 else e + 52
    let exponent := (if e < 0 then '-' else '+') :: Nat.toDigits 10 e.natAbs
    '0' :: 'x' :: Nat.toDigits 16 whole ++ places keepsPoint part ++ 'p' :: exponent

end Real

end ScaffoldRunner
