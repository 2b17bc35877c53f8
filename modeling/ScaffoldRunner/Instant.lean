import ScaffoldRunner.Text.Basic

/-!
# Points in time

A point in time is a number of seconds since the start of 1970, in UTC, and a number of
nanoseconds. It is written as a date and a time of day, and read from such a text with an offset
from UTC, in the relaxed form that allows blanks around the numbers and a blank in place of `T`.
-/

namespace ScaffoldRunner

/-- A point in time. -/
structure Instant where
  seconds : Int
  nanos : Nat
  deriving DecidableEq, Inhabited

namespace Instant

/-- The number of days from the start of 1970 to a date of the Gregorian calendar. -/
def dayNumber (year month day : Int) : Int :=
  -- Years start in March, so that the leap day is the last one.
  let y := if month ≤ 2 then year - 1 else year
  let m := if month ≤ 2 then month + 9 else month - 3
  let era := Int.fdiv y 400
  let yearOfEra := y - era * 400
  let dayOfYear := (153 * m + 2) / 5 + day - 1
  let dayOfEra := yearOfEra * 365 + yearOfEra / 4 - yearOfEra / 100 + dayOfYear
  era * 146097 + dayOfEra - 719468

/-- The date of a day: year, month and day. -/
def dateOf (days : Int) : Int × Int × Int :=
  let z := days + 719468
  let era := Int.fdiv z 146097
  let dayOfEra := z - era * 146097
  let yearOfEra := (dayOfEra - dayOfEra / 1460 + dayOfEra / 36524 - dayOfEra / 146096) / 365
  let dayOfYear := dayOfEra - (365 * yearOfEra + yearOfEra / 4 - yearOfEra / 100)
  let m := (5 * dayOfYear + 2) / 153
  let day := dayOfYear - (153 * m + 2) / 5 + 1
  let month := if m < 10 then m + 3 else m - 9
  let year := yearOfEra + era * 400 + (if month ≤ 2 then 1 else 0)
  (year, month, day)

/-- A number with zeros in front of it up to a width. -/
def padded (width : Nat) (n : Nat) : String :=
  let ds := Nat.toDigits 10 n
  String.ofList (List.replicate (width - ds.length) '0' ++ ds)

/-- The year of a date, with a sign when it has not four digits. -/
def yearText (year : Int) : String :=
  if 0 ≤ year ∧ year ≤ 9999 then padded 4 year.toNat
  else (if year < 0 then "-" else "+") ++ padded 4 year.natAbs

/-- The parts of a point in time: date, hour, minute and second. A leap second is the sixtieth. -/
def parts (t : Instant) : (Int × Int × Int) × Nat × Nat × Nat :=
  let days := Int.fdiv t.seconds 86400
  let s := (t.seconds - days * 86400).toNat
  (dateOf days, s / 3600, s / 60 % 60, s % 60 + t.nanos / 1000000000)

def render (dateMark middle timeMark : String) (t : Instant) : String :=
  let ((year, month, day), hour, minute, second) := t.parts
  yearText year ++ dateMark ++ padded 2 month.toNat ++ dateMark ++ padded 2 day.toNat ++ middle ++
    padded 2 hour ++ timeMark ++ padded 2 minute ++ timeMark ++ padded 2 second

/-- The fraction of the second, with three, six or nine places, or none when it is zero. -/
def fractionText (t : Instant) : String :=
  let n := t.nanos % 1000000000
  if n = 0 then ""
  else if n % 1000000 = 0 then "." ++ padded 3 (n / 1000000)
  else if n % 1000 = 0 then "." ++ padded 6 (n / 1000)
  else "." ++ padded 9 n

/-- The text of a point in time in documents. -/
def iso (t : Instant) : String := render "-" "T" ":" t ++ t.fractionText ++ "Z"

/-- The text of a point in time with its offset from UTC in numbers. -/
def isoOffset (t : Instant) : String := render "-" "T" ":" t ++ t.fractionText ++ "+00:00"

/-- The text of a point in time in file names. -/
def fileStamp (t : Instant) : String := render "" "_" "" t

/-- The text of a point in time for readers. -/
def clockText (t : Instant) : String := render "-" " " ":" t

/-- The microseconds from one point in time to another. -/
def microsSince (t start : Instant) : Nat :=
  ((t.seconds - start.seconds) * 1000000 +
    (Int.ofNat (t.nanos / 1000) - Int.ofNat (start.nanos / 1000))).toNat

/-- The point in time some milliseconds later. -/
def addMillis (t : Instant) (millis : Nat) : Instant :=
  let nanos := t.nanos + millis * 1000000
  { seconds := t.seconds + nanos / 1000000000, nanos := nanos % 1000000000 }

/-- Read up to `width` digits as a number. -/
def digits? (width : Nat) (cs : List Char) : Option (Nat × List Char) :=
  let ds := (cs.takeWhile Char.isDigit).take width
  if ds.isEmpty then none
  else some (ds.foldl (fun n d => n * 10 + (d.toNat - '0'.toNat)) 0, cs.drop ds.length)

/-- Read up to `width` digits as a number, after blanks. -/
def number? (width : Nat) (cs : List Char) : Option (Nat × List Char) :=
  digits? width (Text.trimStart cs)

/-- Read a year, which may have a sign; no blank stands behind a sign. -/
def year? (cs : List Char) : Option (Int × List Char) :=
  match Text.trimStart cs with
  | '-' :: cs => (digits? cs.length cs).map fun (n, cs) => (-Int.ofNat n, cs)
  | '+' :: cs => (digits? cs.length cs).map fun (n, cs) => (Int.ofNat n, cs)
  | cs => (number? 4 cs).map fun (n, cs) => (Int.ofNat n, cs)

/-- Pass over a mark, after blanks. -/
def mark? (c : Char) (cs : List Char) : Option (List Char) :=
  match Text.trimStart cs with
  | d :: cs => if c = d then some cs else none
  | [] => none

/-- Read the fraction of a second as nanoseconds; what goes beyond nine places is dropped. -/
def nanos? : List Char → Option (Nat × List Char)
  | '.' :: cs =>
      let ds := cs.takeWhile Char.isDigit
      if ds.isEmpty then none
      else
        let kept := (ds ++ List.replicate 9 '0').take 9
        some (kept.foldl (fun n d => n * 10 + (d.toNat - '0'.toNat)) 0, cs.drop ds.length)
  | cs => some (0, cs)

/-- Read an offset from UTC in seconds. -/
def offset? (cs : List Char) : Option (Int × List Char) :=
  match cs with
  | 'Z' :: cs | 'z' :: cs => some (0, cs)
  | u :: t :: c :: rest =>
      if u.toLower = 'u' ∧ t.toLower = 't' ∧ c.toLower = 'c' then some (0, rest)
      else
        let sign? : Option Int :=
          if u = '+' then some 1 else if u = '-' ∨ u = '\u2212' then some (-1) else none
        match sign? with
        | none => none
        | some sign =>
            if t.isDigit ∧ c.isDigit then
              let rest := rest.dropWhile fun c => c = ':' || Text.isBlank c
              match rest with
              | a :: b :: rest =>
                  if a.isDigit ∧ b.isDigit ∧ a < '6' then
                    let value (x y : Char) : Int :=
                      Int.ofNat ((x.toNat - '0'.toNat) * 10 + (y.toNat - '0'.toNat))
                    let seconds := value t c * 3600 + value a b * 60
                    if seconds < 86400 then some (sign * seconds, rest) else none
                  else none
              | _ => none
            else none
  | _ => none

/-- The number of days of a month. -/
def monthLength (year : Int) (month : Nat) : Nat :=
  let leap := year % 4 = 0 ∧ (year % 100 ≠ 0 ∨ year % 400 = 0)
  if month = 2 then (if leap then 29 else 28)
  else if month = 4 ∨ month = 6 ∨ month = 9 ∨ month = 11 then 30
  else 31

def firstDay : Int := dayNumber (-262143) 1 1

def lastDay : Int := dayNumber 262142 12 31

def isDay (days : Int) : Bool := firstDay ≤ days && days ≤ lastDay

/-- Read a point in time from a date, a time of day and an offset. -/
def parseChars? (cs : List Char) : Option Instant := do
  let (year, cs) ← year? cs
  let cs ← mark? '-' cs
  let (month, cs) ← number? 2 cs
  let cs ← mark? '-' cs
  let (day, cs) ← number? 2 cs
  let cs ← match cs with
    | c :: cs => if c = 'T' ∨ c = 't' ∨ c = ' ' then some cs else none
    | [] => none
  let (hour, cs) ← number? 2 cs
  let cs ← mark? ':' cs
  let (minute, cs) ← number? 2 cs
  let cs ← mark? ':' cs
  let (second, cs) ← number? 2 cs
  let (nanos, cs) ← nanos? cs
  let (offset, cs) ← offset? (Text.trimStart cs)
  if !(Text.trimStart cs).isEmpty then none
  else if month = 0 ∨ 12 < month ∨ day = 0 ∨ monthLength year month < day then none
  else if 23 < hour ∨ 59 < minute ∨ 60 < second then none
  else
    let leap := second / 60
    let days := dayNumber year month day
    let s := days * 86400 + Int.ofNat (hour * 3600 + minute * 60 + (second - leap)) - offset
    if !isDay days || !isDay (Int.fdiv s 86400) then none
    else return ⟨s, nanos + leap * 1000000000⟩

/-- Read a point in time. -/
def parse? (text : String) : Option Instant := parseChars? text.toList

end Instant

end ScaffoldRunner
