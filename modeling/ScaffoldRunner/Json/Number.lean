import ScaffoldRunner.Json.Basic

/-!
# Reading JSON numbers

A number without fraction and exponent is an integer when it fits 64 bits, with or without a sign;
`-0` and all larger integers are doubles. A double is read from a significand of at most 64 bits
and a power of ten: the digits that do not fit the significand only count as places, and the
significand is multiplied or divided by the power. A double that overflows is no number.
-/

namespace ScaffoldRunner.Json

def isDigit (c : Char) : Bool := '0' ≤ c && c ≤ '9'

def digitValue (c : Char) : Nat := c.toNat - '0'.toNat

/-- Append digits to a significand while it fits 64 bits; the rest comes back unread. -/
def extendSignificand : Nat → List Char → Nat × List Char
  | n, [] => (n, [])
  | n, d :: ds =>
      let n' := n * 10 + digitValue d
      if n' < twoTo 64 then extendSignificand n' ds else (n, d :: ds)

/-- The double `10 ^ n`, for `n` up to 308. -/
def floatTenTo (n : Nat) : Float := Float.ofScientific 1 false n

/-- Scale a double by a power of ten, in steps of at most 308 places; `none` on overflow. -/
def scale : Nat → Float → Int → Option Float
  | 0, x, _ => some x
  | fuel + 1, x, e =>
      if e.natAbs ≤ 308 then
        if 0 ≤ e then
          let y := x * floatTenTo e.natAbs
          if y.isInf then none else some y
        else some (x / floatTenTo e.natAbs)
      else if x == 0 then some x
      else if 0 ≤ e then none
      else scale fuel (x / floatTenTo 308) (e + 308)

/-- The double `± significand * 10 ^ exponent`. -/
def floatOfParts (negative : Bool) (significand : Nat) (exponent : Int) : Option Float := do
  let x ← scale 4 significand.toUInt64.toFloat exponent
  return if negative then -x else x

/-- The pieces of a number's text: sign, integer digits, fraction digits and exponent. -/
structure NumberText where
  negative : Bool
  whole : List Char
  fraction : Option (List Char)
  exponent : Option Int

def digitsValue (ds : List Char) : Nat := ds.foldl (fun n d => n * 10 + digitValue d) 0

/-- Split off the exponent of a number, if there is one; a mark without digits is refused. -/
def exponentPart : List Char → Option (Option Int × List Char)
  | c :: cs =>
      if c = 'e' ∨ c = 'E' then
        let (negative, cs) := match cs with
          | '+' :: r => (false, r)
          | '-' :: r => (true, r)
          | r => (false, r)
        let ds := cs.takeWhile isDigit
        if ds.isEmpty then none
        else
          let n := Int.ofNat (digitsValue ds)
          some (some (if negative then -n else n), cs.dropWhile isDigit)
      else some (none, c :: cs)
  | [] => some (none, [])

/-- Split off the fraction of a number, if there is one; a point without digits is refused. -/
def fractionPart : List Char → Option (Option (List Char) × List Char)
  | '.' :: cs =>
      let ds := cs.takeWhile isDigit
      if ds.isEmpty then none else some (some ds, cs.dropWhile isDigit)
  | cs => some (none, cs)

/-- Split off a number. The integer part is `0` or starts with another digit. -/
def numberText? (cs : List Char) : Option (NumberText × List Char) := do
  let (negative, cs) := match cs with
    | '-' :: r => (true, r)
    | r => (false, r)
  let whole := cs.takeWhile isDigit
  match whole with
  | [] => none
  | d :: ds => if d = '0' ∧ ds ≠ [] then none else pure ()
  let (fraction, cs) ← fractionPart (cs.dropWhile isDigit)
  let (exponent, cs) ← exponentPart cs
  return (⟨negative, whole, fraction, exponent⟩, cs)

def NumberText.value? (t : NumberText) : Option Json :=
  let (n, dropped) := extendSignificand 0 t.whole
  match dropped, t.fraction, t.exponent with
  | [], none, none =>
      if !t.negative then some (int n)
      else if 1 ≤ n ∧ n ≤ twoTo 63 then some (int (-n))
      else (floatOfParts true n 0).map float
  | _, fraction, exponent =>
      let places := fraction.getD []
      let (n, ignored) := extendSignificand n places
      let e := Int.ofNat dropped.length - Int.ofNat (places.length - ignored.length)
      (floatOfParts t.negative n (e + exponent.getD 0)).map float

end ScaffoldRunner.Json
