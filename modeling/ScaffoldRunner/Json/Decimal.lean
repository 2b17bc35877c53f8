import ScaffoldRunner.Data.Power

/-!
# Decimal texts of floating-point numbers

A finite double is written with the fewest digits that read back as the same double, the nearest
such digits where there is a choice. Positional notation is used for magnitudes from `1e-5` up to
below `1e16`, and exponent notation, with a sign on the exponent when it is positive, elsewhere.

A double is `mantissa * 2 ^ exponent`; all comparisons are made on exact fractions of natural
numbers.
-/

namespace ScaffoldRunner

/-- A decimal number without a sign: `digits * 10 ^ exponent`. -/
structure Decimal where
  digits : Nat
  exponent : Int
  deriving DecidableEq, Repr

namespace Decimal

/-- The parts of a finite double without its sign: mantissa and binary exponent. -/
def binaryParts (x : Float) : Nat × Int :=
  let bits := x.toBits.toNat
  let biased := bits / twoTo 52 % twoTo 11
  let fraction := bits % twoTo 52
  if biased = 0 then (fraction, -1074) else (fraction + twoTo 52, Int.ofNat biased - 1075)

/-- Whether the sign bit of a double is set. -/
def isNegative (x : Float) : Bool := x.toBits.toNat / twoTo 63 = 1

/-- The value `n * 2 ^ e` as a fraction. -/
def binaryFraction (n : Nat) (e : Int) : Nat × Nat :=
  if 0 ≤ e then (n * twoTo e.toNat, 1) else (n, twoTo (-e).toNat)

/-- The ends of the interval of numbers that round to a double, as fractions over one
denominator, and whether the ends belong to it: they do when the mantissa is even. -/
def roundingInterval (mantissa : Nat) (exponent : Int) : Nat × Nat × Nat × Bool :=
  -- Numbers are measured in quarters of the last binary place.
  let lowGap := if mantissa = twoTo 52 ∧ exponent ≠ -1074 then 1 else 2
  let (_, den) := binaryFraction 1 (exponent - 2)
  let (low, _) := binaryFraction (4 * mantissa - lowGap) (exponent - 2)
  let (high, _) := binaryFraction (4 * mantissa + 2) (exponent - 2)
  (low, high, den, mantissa % 2 = 0)

/-- The number `10 ^ e` as a fraction. -/
def powerOfTen (e : Int) : Nat × Nat :=
  if 0 ≤ e then (tenTo e.toNat, 1) else (1, tenTo (-e).toNat)

/-- Whether the decimal `digits * 10 ^ e` lies in the interval. -/
def inInterval (interval : Nat × Nat × Nat × Bool) (digits : Nat) (e : Int) : Bool :=
  let (low, high, den, closed) := interval
  let (tn, td) := powerOfTen e
  let lhs := digits * tn * den
  if closed then low * td ≤ lhs && lhs ≤ high * td else low * td < lhs && lhs < high * td

/-- A lower bound of the exponent of the leading decimal digit of `num / den`, at most a few
below it. -/
def leadingEstimate (num den : Nat) : Int :=
  (Int.ofNat num.log2 - Int.ofNat den.log2 - 1) * 30103 / 100000 - 1

/-- The exponent of the leading decimal digit of `num / den`, found upwards from `e`. -/
def leadingExponent (num den : Nat) : Nat → Int → Int
  | 0, e => e
  | fuel + 1, e =>
      let (tn, td) := powerOfTen (e + 1)
      if tn * den ≤ num * td then leadingExponent num den fuel (e + 1) else e

/-- Drop the zeros at the end of the digits, raising the exponent. -/
def dropZeros : Nat → Decimal → Decimal
  | 0, d => d
  | fuel + 1, d =>
      if d.digits ≠ 0 ∧ d.digits % 10 = 0 then dropZeros fuel ⟨d.digits / 10, d.exponent + 1⟩
      else d

/-- Look on the grid of `10 ^ e`, then on ever finer ones, for a decimal in the interval. The two
neighbours of the value are tried; of two that lie in the interval the nearer one is taken, and of
two at the same distance the even one. -/
def search (interval : Nat × Nat × Nat × Bool) (num den : Nat) : Nat → Int → Decimal
  | 0, e => ⟨num * (powerOfTen (-e)).1 / (den * (powerOfTen (-e)).2), e⟩
  | fuel + 1, e =>
      let (tn, td) := powerOfTen e
      let below := num * td / (den * tn)
      let rest := num * td % (den * tn)
      let lowIn := below ≠ 0 && inInterval interval below e
      let highIn := inInterval interval (below + 1) e
      let pickLow := 2 * rest < den * tn || (2 * rest = den * tn && below % 2 = 0)
      if lowIn && (!highIn || pickLow) then ⟨below, e⟩
      else if highIn then ⟨below + 1, e⟩
      else search interval num den fuel (e - 1)

/-- The shortest decimal that reads back as the finite double, without its sign. -/
def shortest (x : Float) : Decimal :=
  let (mantissa, exponent) := binaryParts x
  if mantissa = 0 then ⟨0, 0⟩
  else
    let (num, den) := binaryFraction mantissa exponent
    let lead := leadingExponent num den 8 (leadingEstimate num den)
    dropZeros 20 (search (roundingInterval mantissa exponent) num den 20 lead)

/-- The digits of a natural number. -/
def digitChars (n : Nat) : List Char := Nat.toDigits 10 n

/-- The decimal in positional notation, with at least one digit on each side of the point. -/
def positional (d : Decimal) : List Char :=
  let ds := digitChars d.digits
  if 0 ≤ d.exponent then ds ++ List.replicate d.exponent.toNat '0' ++ ['.', '0']
  else
    let places := (-d.exponent).toNat
    if places < ds.length then
      ds.take (ds.length - places) ++ '.' :: ds.drop (ds.length - places)
    else '0' :: '.' :: List.replicate (places - ds.length) '0' ++ ds

/-- The decimal in exponent notation, one digit in front of the point. -/
def scientific (d : Decimal) : List Char :=
  let ds := digitChars d.digits
  let e := d.exponent + Int.ofNat ds.length - 1
  let mantissa := match ds with
    | c :: c' :: cs => c :: '.' :: c' :: cs
    | ds => ds
  let sign := if 0 ≤ e then ['+'] else ['-']
  mantissa ++ 'e' :: sign ++ digitChars e.natAbs

/-- The text of a finite double. -/
def render (x : Float) : List Char :=
  let d := shortest x
  let lead := d.exponent + Int.ofNat (digitChars d.digits).length - 1
  let body :=
    if d.digits = 0 || (-5 ≤ lead && lead < 16) then positional d else scientific d
  if isNegative x then '-' :: body else body

/-- The quotient of two numbers, rounded to the nearest, a tie to the even neighbour. -/
def roundDiv (num den : Nat) : Nat :=
  let q := num / den
  let r := num % den
  if den < 2 * r || (2 * r = den && q % 2 = 1) then q + 1 else q

/-- A finite double with a fixed number of places behind the point. -/
def fixed (places : Nat) (x : Float) : List Char :=
  let (mantissa, exponent) := binaryParts x
  let (num, den) := binaryFraction mantissa exponent
  let scaled := roundDiv (num * tenTo places) den
  let ds := digitChars scaled
  let ds := List.replicate (places + 1 - ds.length) '0' ++ ds
  let body := ds.take (ds.length - places) ++
    (if places = 0 then [] else '.' :: ds.drop (ds.length - places))
  if isNegative x then '-' :: body else body

end Decimal

end ScaffoldRunner
