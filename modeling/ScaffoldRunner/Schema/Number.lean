import ScaffoldRunner.Json.Basic
import ScaffoldRunner.Json.Decimal

/-!
# Numbers in schemas

Schemas compare integers and doubles by their exact values, so both are taken as fractions. Only
constants and multiples are tested on doubles.
-/

namespace ScaffoldRunner.Schema

/-- The exact value of a number, as numerator and denominator. -/
def fraction? : Json → Option (Int × Nat)
  | .int i => some (i, 1)
  | .float x =>
      let (mantissa, exponent) := Decimal.binaryParts x
      let (num, den) := Decimal.binaryFraction mantissa exponent
      some (if Decimal.isNegative x then -Int.ofNat num else Int.ofNat num, den)
  | _ => none

def lessThan (a b : Json) : Bool :=
  match fraction? a, fraction? b with
  | some (m, d), some (n, e) => m * Int.ofNat e < n * Int.ofNat d
  | _, _ => false

/-- The double nearest to a number. -/
def toFloat : Json → Float
  | .int i =>
      if i < 0 then -(i.natAbs.toUInt64.toFloat) else i.natAbs.toUInt64.toFloat
  | .float x => x
  | _ => 0.0

/-- Whether a value is a number without a fraction. -/
def isWhole : Json → Bool
  | .int _ => true
  | .float x => x == x.floor
  | _ => false

def isNumber : Json → Bool
  | .int _ | .float _ => true
  | _ => false

def sameValue (a b : Json) : Bool := isNumber a && isNumber b && !lessThan a b && !lessThan b a

/-- Whether two numbers have the same value and are the same double; zero has two doubles. -/
def sameDouble (a b : Json) : Bool :=
  sameValue a b && (toFloat a).toBits == (toFloat b).toBits

mutual

/-- Whether two values are equal, when numbers are compared as given. -/
def equalBy (numbers : Json → Json → Bool) : Json → Json → Bool
  | .null, .null => true
  | .bool a, .bool b => a == b
  | .str a, .str b => a == b
  | .arr a, .arr b => equalItemsBy numbers a b
  | .obj a, .obj b => equalMembersBy numbers a b
  | a, b => numbers a b

/-- Whether two lists of values are equal, when numbers are compared as given. -/
def equalItemsBy (numbers : Json → Json → Bool) : List Json → List Json → Bool
  | [], [] => true
  | a :: as, b :: bs => equalBy numbers a b && equalItemsBy numbers as bs
  | _, _ => false

/-- Whether two lists of members are equal, when numbers are compared as given. -/
def equalMembersBy (numbers : Json → Json → Bool) :
    List (String × Json) → List (String × Json) → Bool
  | [], [] => true
  | (k, a) :: as, (l, b) :: bs => k == l && equalBy numbers a b && equalMembersBy numbers as bs
  | _, _ => false

end

/-- Whether two values are equal to a schema: numbers by their values, all else as it is. -/
def equal : Json → Json → Bool := equalBy sameValue

/-- The longest list whose items are compared by their values only; in longer ones the two zeros
of the doubles are told apart. -/
def shortList : Nat := 15

/-- Whether no two items of a list are equal under a comparison. -/
def distinctUnder (same : Json → Json → Bool) : List Json → Bool
  | [] => true
  | a :: as => !as.any (same a) && distinctUnder same as

/-- Whether no two items of a list are equal to a schema. -/
def allDistinct (items : List Json) : Bool :=
  distinctUnder (equalBy (if items.length ≤ shortList then sameValue else sameDouble)) items

/-- The distance below which a constant number counts as met. -/
def tolerance : Float := 2.220446049250313e-16

/-- Whether a value meets a constant; numbers may differ by less than the tolerance. -/
def meetsConstant (constant value : Json) : Bool :=
  if isNumber constant then
    isNumber value && (toFloat constant - toFloat value).abs < tolerance
  else equal constant value

/-- The remainder of a whole number divided by another, on their exact values. -/
def wholeRemainder (a b : Json) : Int :=
  match fraction? a, fraction? b with
  | some (m, d), some (n, e) =>
      let x := m / Int.ofNat d
      let y := n / Int.ofNat e
      Int.tmod x y
  | _, _ => 0

/-- A power of a double, by squaring: the factors are the squares that the bits of the exponent
choose. -/
def powerOf : Nat → Float → Nat → Float → Float
  | 0, _, _, product => product
  | fuel + 1, base, exponent, product =>
      let product := if exponent % 2 = 1 then product * base else product
      if exponent / 2 = 0 then product else powerOf fuel (base * base) (exponent / 2) product

/-- A double as a whole number over a power of ten, with the least exponent for which the product
has no fraction; `none` when there is none before the product overflows. -/
def decimalFraction? (x : Float) : Nat → Nat → Option (Int × Nat)
  | 0, _ => none
  | fuel + 1, places =>
      let y := x * powerOf 10 10.0 places 1.0
      if y.isInf then none
      else if y == y.floor then
        (fraction? (.float y)).map fun (num, den) => (num / Int.ofNat den, tenTo places)
      else decimalFraction? x fuel (places + 1)

/-- Whether one double is a multiple of another, on their decimal fractions. -/
def isExactMultiple (x divisor : Float) : Bool :=
  match decimalFraction? x 400 0, decimalFraction? divisor 400 0 with
  | some (m, d), some (n, e) => (m * Int.ofNat e) % (n * Int.ofNat d) = 0
  | _, _ => true

/-- Whether a value is a multiple of a number, or no number at all. A divisor with a fraction only
tests that the quotient has no fraction above zero; the exact quotient is taken when it is beyond
the doubles. -/
def isMultipleOf (divisor value : Json) : Bool :=
  if !isNumber value then true
  else if isWhole divisor then
    isWhole value && wholeRemainder (.float (toFloat value)) (.float (toFloat divisor)) == 0
  else
    let quotient := toFloat value / toFloat divisor
    if quotient.isInf then isExactMultiple (toFloat value) (toFloat divisor)
    else
      let whole := if quotient < 0.0 then quotient.ceil else quotient.floor
      quotient - whole < tolerance

/-- A double in positional notation, without a point when it has no fraction. -/
def plainText (x : Float) : String :=
  let d := Decimal.shortest x
  let body := Decimal.positional d
  let body := if 0 ≤ d.exponent then body.dropLast.dropLast else body
  String.ofList (if Decimal.isNegative x then '-' :: body else body)

/-- A limit on a size: a whole number that is not negative. -/
def size? : Json → Option Nat
  | .int i => if 0 ≤ i then some i.toNat else none
  | .float x => if x == x.floor && !(x < 0.0) then some x.toUInt64.toNat else none
  | _ => none

end ScaffoldRunner.Schema
