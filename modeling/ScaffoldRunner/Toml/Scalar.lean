import ScaffoldRunner.Instant
import ScaffoldRunner.Json.Number

/-!
# Numbers, dates and times in TOML

Integers have 64 bits with a sign; they are written in base ten with an optional sign, or in base
16, 8 or 2 without one. Digits may be grouped by single underscores. A floating-point number is
the double nearest to what is written; one too large to be a double is refused.

There are dates, times of day, or both with an optional offset. They are checked against the
calendar and written in one form: with a `T` between date and time, and without zeros at the end
of a fraction.
-/

namespace ScaffoldRunner.Toml

/-! ## Numbers -/

/-- Read the digits after the first one, with single underscores in between. -/
def moreDigits (isDigit : Char → Bool) : List Char → Option (List Char × List Char)
  | [] => some ([], [])
  | [c] => if isDigit c then some ([c], []) else if c = '_' then none else some ([], [c])
  | c :: d :: cs =>
      if isDigit c then (moreDigits isDigit (d :: cs)).map fun (ds, rest) => (c :: ds, rest)
      else if c = '_' then
        if isDigit d then (moreDigits isDigit cs).map fun (ds, rest) => (d :: ds, rest) else none
      else some ([], c :: d :: cs)

/-- Read at least one digit, with single underscores in between. -/
def digits? (isDigit : Char → Bool) : List Char → Option (List Char × List Char)
  | c :: cs =>
      if isDigit c then (moreDigits isDigit cs).map fun (ds, rest) => (c :: ds, rest) else none
  | [] => none

/-- Read a sign, if there is one; the answer is whether it is negative. -/
def sign : List Char → Bool × List Char
  | '-' :: cs => (true, cs)
  | '+' :: cs => (false, cs)
  | cs => (false, cs)

/-- Read the digits of a decimal integer; only the number zero starts with a zero. -/
def decimalDigits? : List Char → Option (List Char × List Char)
  | '0' :: cs => some (['0'], cs)
  | cs => digits? Char.isDigit cs

/-- The number that is written by digits of a base. -/
def valueIn (base : Nat) (ds : List Char) : Nat :=
  ds.foldl (fun n d => n * base + (if d.isDigit then d.toNat - '0'.toNat
    else d.toLower.toNat - 'a'.toNat + 10)) 0

/-- Whether a character is a digit of base 16. -/
def isHexDigit (c : Char) : Bool := c.isDigit || ('a' ≤ c && c ≤ 'f') || ('A' ≤ c && c ≤ 'F')

/-- An integer, unless it has more than 64 bits. -/
def int64? (i : Int) : Option Int := if fitsSigned 64 i then some i else none

/-- Read an integer of a base that is not ten. -/
def based? (base : Nat) (isDigit : Char → Bool) (cs : List Char) : Option (Int × List Char) := do
  let (ds, cs) ← digits? isDigit cs
  return (← int64? (Int.ofNat (valueIn base ds)), cs)

def integer? : List Char → Option (Int × List Char)
  | '0' :: 'x' :: cs => based? 16 isHexDigit cs
  | '0' :: 'o' :: cs => based? 8 (fun c => '0' ≤ c && c ≤ '7') cs
  | '0' :: 'b' :: cs => based? 2 (fun c => c = '0' || c = '1') cs
  | cs => do
      let (negative, cs) := sign cs
      let (ds, cs) ← decimalDigits? cs
      let n := Int.ofNat (valueIn 10 ds)
      return (← int64? (if negative then -n else n), cs)

/-- The double nearest to `digits * 10 ^ exponent`. Far beyond the range of doubles it is infinite
or zero, without computing the power. -/
def nearestFloat (digits : List Char) (exponent : Int) : Float :=
  let n := valueIn 10 digits
  let magnitude := exponent + Int.ofNat digits.length
  if n = 0 ∨ magnitude < -400 then 0.0
  else if 400 + Int.ofNat digits.length < magnitude then 1.0 / 0.0
  else Float.ofScientific n (exponent < 0) exponent.natAbs

/-- Read the digits behind the point, if there is one. -/
def fractionDigits? : List Char → Option (Option (List Char) × List Char)
  | '.' :: cs => (digits? Char.isDigit cs).map fun (ds, cs) => (some ds, cs)
  | cs => some (none, cs)

def exponent? : List Char → Option (Option Int × List Char)
  | c :: cs =>
      if c = 'e' ∨ c = 'E' then do
        let (negative, cs) := sign cs
        let (ds, cs) ← digits? Char.isDigit cs
        let n := Int.ofNat (valueIn 10 ds)
        return (some (if negative then -n else n), cs)
      else some (none, c :: cs)
  | [] => some (none, [])

/-- Read a finite floating-point number: it has a fraction or an exponent. -/
def finite? (cs : List Char) : Option (Float × List Char) := do
  let (negative, cs) := sign cs
  let (whole, cs) ← decimalDigits? cs
  let (fraction, cs) ← fractionDigits? cs
  let (exponent, cs) ← exponent? cs
  if fraction.isNone ∧ exponent.isNone then none
  else
    let behind := fraction.getD []
    let x := nearestFloat (whole ++ behind) (exponent.getD 0 - Int.ofNat behind.length)
    if !negative ∧ x.isInf then none else return (if negative then -x else x, cs)

/-- Pass over the name of a number that is not finite. -/
def special? (cs : List Char) : Option (List Char) :=
  match (sign cs).2 with
  | 'i' :: 'n' :: 'f' :: cs | 'n' :: 'a' :: 'n' :: cs => some cs
  | _ => none

/-- Read a number. What is not finite has no value. -/
def number? (cs : List Char) : Option (Json × List Char) :=
  match finite? cs with
  | some (x, cs) => some (if x.isFinite then .float x else .null, cs)
  | none =>
      match special? cs with
      | some cs => some (.null, cs)
      | none => (integer? cs).map fun (i, cs) => (.int i, cs)

/-! ## Dates and times -/

/-- Read a number of exactly the given number of digits that lies between two bounds. -/
def field? (width low high : Nat) (cs : List Char) : Option (Nat × List Char) :=
  let digits := cs.take width
  if digits.length = width ∧ digits.all Char.isDigit then
    let n := digits.foldl (fun n d => n * 10 + (d.toNat - '0'.toNat)) 0
    if low ≤ n ∧ n ≤ high then some (n, cs.drop width) else none
  else none

def mark? (c : Char) : List Char → Option (List Char)
  | d :: cs => if c = d then some cs else none
  | [] => none

/-- Read a date; the answer is its text. -/
def date? (cs : List Char) : Option (String × List Char) := do
  let (year, cs) ← field? 4 0 9999 cs
  let cs ← mark? '-' cs
  let (month, cs) ← field? 2 1 12 cs
  let cs ← mark? '-' cs
  let (day, cs) ← field? 2 1 31 cs
  if Instant.monthLength year month < day then none
  else
    return (Instant.padded 4 year ++ "-" ++ Instant.padded 2 month ++ "-" ++
      Instant.padded 2 day, cs)

/-- The text of a fraction of a second: nine places at most, without zeros at the end. -/
def fractionText (digits : List Char) : String :=
  match ((digits.take 9).reverse.dropWhile (· = '0')).reverse with
  | [] => ""
  | kept => String.ofList ('.' :: kept)

/-- Read a fraction of a second, if there is one. -/
def fraction? : List Char → Option (String × List Char)
  | '.' :: cs =>
      match cs.takeWhile Char.isDigit with
      | [] => none
      | digits => some (fractionText digits, cs.dropWhile Char.isDigit)
  | cs => some ("", cs)

/-- Read a time of day; the answer is its text. -/
def time? (cs : List Char) : Option (String × List Char) := do
  let (hour, cs) ← field? 2 0 23 cs
  let cs ← mark? ':' cs
  let (minute, cs) ← field? 2 0 59 cs
  let cs ← mark? ':' cs
  let (second, cs) ← field? 2 0 60 cs
  let (fraction, cs) ← fraction? cs
  return (Instant.padded 2 hour ++ ":" ++ Instant.padded 2 minute ++ ":" ++
    Instant.padded 2 second ++ fraction, cs)

/-- Read an offset, if there is one. A zero offset has no negative sign. -/
def offset? : List Char → Option (String × List Char)
  | 'Z' :: cs | 'z' :: cs => some ("Z", cs)
  | c :: cs =>
      if c = '+' ∨ c = '-' then do
        let (hour, cs) ← field? 2 0 23 cs
        let cs ← mark? ':' cs
        let (minute, cs) ← field? 2 0 59 cs
        let sign := if c = '-' ∧ hour + minute ≠ 0 then "-" else "+"
        return (sign ++ Instant.padded 2 hour ++ ":" ++ Instant.padded 2 minute, cs)
      else some ("", c :: cs)
  | [] => some ("", [])

/-- Whether a character stands between date and time. -/
def isMiddle (c : Char) : Bool := c = 'T' || c = 't' || c = ' '

/-- Read a date with a time of day and an offset, as far as they are there, or a time of day. -/
def dateTime? (cs : List Char) : Option (String × List Char) :=
  match date? cs with
  | none => time? cs
  | some (date, rest) =>
      match rest with
      | c :: after =>
          if isMiddle c then
            match time? after with
            | some (time, after) => do
                let (offset, after) ← offset? after
                return (date ++ "T" ++ time ++ offset, after)
            | none => some (date, rest)
          else some (date, rest)
      | [] => some (date, [])

end ScaffoldRunner.Toml
