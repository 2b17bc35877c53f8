import ScaffoldRunner.Data.Power
import ScaffoldRunner.Utility.Format

/-!
# Values of records

A value is a number or a text. A text that comes from the input counts as a number when it looks
like one, and what was never set counts as both zero and nothing. This module says how values are
read as numbers and as texts, and how they are compared.
-/

namespace ScaffoldRunner.Awk

inductive Value where
  /-- What was never set. -/
  | unset
  | number (x : Float)
  | text (s : String)
  /-- A text that comes from the input. -/
  | input (s : String)

instance : Inhabited Value := ⟨.unset⟩

namespace Value

def ofBool (b : Bool) : Value := .number (if b then 1.0 else 0.0)

def ofNat (n : Nat) : Value := .number (Float.ofNat n)

/-- The number at the front of a text; a text without one is zero. -/
def numberOf (s : String) : Float :=
  match Real.read? s.toList with
  | some r => r.value
  | none => 0.0

/-- The number that a whole text shows, if it does: it begins with a digit, a sign or a point, and
ends with a digit or a point. -/
def shown? (s : String) : Option Float :=
  let isPlain (c : Char) : Bool := c = ' ' || c = '\t' || c = '\n'
  let cs := (s.toList.dropWhile isPlain).reverse.dropWhile isPlain |>.reverse
  let opens : Bool := match cs with
    | c :: _ => c.isDigit || c = '+' || c = '-' || c = '.'
    | [] => false
  let closes : Bool := match cs.getLast? with
    | some c => c.isDigit || c = '.'
    | none => false
  if opens && closes then
    match Real.read? cs with
    | some r => if r.rest.isEmpty then some r.value else none
    | none => none
  else none

def toNumber : Value → Float
  | unset => 0.0
  | number x => x
  | text s | input s => numberOf s

/-- Whether a number is a whole one that is written without a point. -/
def isWhole (x : Float) : Bool :=
  x.floor == x && -9223372036854775808.0 ≤ x && x ≤ 18446744073709551616.0

/-- A number cut to a whole one. -/
def cut (x : Float) : Float := if x < 0.0 then x.ceil else x.floor

/-- The whole number of a float that is one. -/
def exact (x : Float) : Int :=
  let (mantissa, exponent) := Decimal.binaryParts x
  let size := if exponent < 0 then mantissa / twoTo exponent.natAbs
    else mantissa * twoTo exponent.natAbs
  if x < 0.0 then -Int.ofNat size else size

/-- The largest whole number that is written as one. -/
def most : Int := Int.ofNat (twoTo 64) - 1

/-- A number as a whole one, as far as there is room. -/
def toInt (x : Float) : Int :=
  if x.isNaN then -Int.ofNat (twoTo 63)
  else if x.isInf then (if x < 0.0 then 1 - Int.ofNat (twoTo 63) else most)
  else max (1 - Int.ofNat (twoTo 63)) (min most (exact (cut x)))

/-- A number as a count, as far as there is room. -/
def toNat (x : Float) : Nat := (toInt x).toNat

def wholeText (x : Float) : String := toString (min most (exact x))

/-- A number under a conversion. One that is none has a sign. -/
def realText (letter : Char) (flags : List Char) (width : Nat) (precision : Option Nat)
    (x : Float) : List Char :=
  if x.isNaN then Format.pad (flags.contains '-') width "-nan".toList
  else Format.real letter flags width precision x

/-- The text of a number under a format with one conversion. -/
def formatted (format : String) (x : Float) : String :=
  let cs := format.toList
  let front := cs.takeWhile (· ≠ '%')
  match Format.readConversion ['h', 'l', 'L'] (cs.drop (front.length + 1)) with
  | (.conversion c, rest) =>
      let width := (c.width.bind fun w => w).getD 0
      let precision := c.precision.bind fun p => p
      let body := if c.letter = 'd' || c.letter = 'i' then
        Format.whole 'd' c.flags width precision (toInt x)
      else realText c.letter c.flags width precision x
      String.ofList (front ++ body ++ rest)
  | _ => format

/-- The text of a number that is not whole under a format. -/
def numberText (format : String) (x : Float) : String :=
  if isWhole x then wholeText x else formatted format x

def toText (format : String) : Value → String
  | unset => ""
  | number x => numberText format x
  | text s | input s => s

def compared? : Value → Option Float
  | unset => some 0.0
  | number x => some x
  | text _ => none
  | input s => shown? s

def isTrue : Value → Bool
  | unset => false
  | number x => x != 0.0
  | text s => s ≠ ""
  | input s =>
      match shown? s with
      | some x => x != 0.0
      | none => s ≠ ""

end Value

/-- The order of two values: as numbers when both are, else as texts. -/
def order (format : String) (a b : Value) : Ordering :=
  match a.compared?, b.compared? with
  | some x, some y => if x < y then .lt else if y < x then .gt else .eq
  | _, _ => compare (a.toText format) (b.toText format)

/-- What is left of a number after taking away another one as often as it goes in. -/
def remainder (x y : Float) : Float :=
  if x.isNaN || y.isNaN || x.isInf || y == 0.0 then Real.notANumber
  else if y.isInf then x
  else
    let (m, e) := Decimal.binaryParts x
    let (n, f) := Decimal.binaryParts y
    let least := min e f
    let left := m * twoTo (e - least).natAbs % (n * twoTo (f - least).natAbs)
    let size := (Float.ofNat left).scaleB least
    if x < 0.0 then -size else size

/-! ## Escapes -/

/-- What a backslash and the characters after it stand for in a text. A backslash that means
nothing is kept. -/
def escape : Escape.Reading
  | '"' :: cs => (['"'], cs)
  | 'x' :: c :: cs =>
      if Escape.isHex c then
        let (d, rest) := Escape.number 16 2 Escape.isHex (c :: cs)
        ([d], rest)
      else (['\\', 'x'], c :: cs)
  | 'e' :: cs => (['\\', 'e'], cs)
  | cs => Escape.ofFormat cs

/-- A text with its escapes replaced. -/
def unescaped (cs : List Char) : List Char :=
  let rec go : Nat → List Char → List Char → List Char
    | 0, _, done => done.reverse
    | _, [], done => done.reverse
    | fuel + 1, '\\' :: cs, done =>
        let (found, rest) := escape cs
        go fuel rest (found.reverseAux done)
    | fuel + 1, c :: cs, done => go fuel cs (c :: done)
  go (cs.length + 1) cs []

end ScaffoldRunner.Awk
