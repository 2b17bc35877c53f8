import ScaffoldRunner.Instant
import ScaffoldRunner.Utility.Basic

/-!
# Dates

A date is told in a form that a format gives, and read from a text that tells it in one of many
ways: as a day of the calendar, as a day of the week, as a time of day, or by how far it is from
now. All times are in UTC.
-/

namespace ScaffoldRunner.Utility

namespace Calendar

/-- The names of the days of the week. -/
def dayNames : List String :=
  ["Sunday", "Monday", "Tuesday", "Wednesday", "Thursday", "Friday", "Saturday"]

def monthNames : List String :=
  ["January", "February", "March", "April", "May", "June", "July", "August", "September", "October",
    "November", "December"]

/-- The moment that the clock begins with: the year 2025. -/
def clockStart : Nat := 1735689600

/-! ## Telling dates -/

/-- What is told about a moment. -/
inductive Field where
  /-- A number, how many digits it has at least, and what is put in front of it. -/
  | number (value : Int) (width : Nat) (pad : Char)
  | text (text : String)
  /-- What another format tells. -/
  | form (format : String)

/-- The day of the week of a day; Sunday is none. -/
def weekday (days : Int) : Nat := ((days + 4) % 7).toNat

/-- The year and the week of a day, where a week belongs to the year of its Thursday. -/
def weekOf (days : Int) : Int × Int :=
  let thursday := days + 3 - Int.ofNat ((weekday days + 6) % 7)
  let (year, _, _) := Instant.dateOf thursday
  (year, (thursday - Instant.dayNumber year 1 1) / 7 + 1)

/-- The field of a letter after a percent sign. -/
def field? (seconds : Int) (letter : Char) : Option Field :=
  let days := seconds / 86400
  let (year, month, day) := Instant.dateOf days
  let rest := (seconds % 86400).toNat
  let hour := rest / 3600
  let half := if hour % 12 = 0 then 12 else hour % 12
  let inYear := days - Instant.dayNumber year 1 1
  let dayName := dayNames.getD (weekday days) ""
  let monthName := monthNames.getD (month.toNat - 1) ""
  let short (text : String) : Field := .text (text.take 3).toString
  let two (n : Nat) : Field := .number (Int.ofNat n) 2 '0'
  match letter with
  | 'Y' => some (.number year 4 '0')
  | 'y' => some (.number (year % 100) 2 '0')
  | 'C' => some (.number (year / 100) 2 '0')
  | 'G' => some (.number (weekOf days).1 4 '0')
  | 'g' => some (.number ((weekOf days).1 % 100) 2 '0')
  | 'V' => some (.number (weekOf days).2 2 '0')
  | 'U' => some (.number ((inYear + 7 - Int.ofNat (weekday days)) / 7) 2 '0')
  | 'W' => some (.number ((inYear + 7 - Int.ofNat ((weekday days + 6) % 7)) / 7) 2 '0')
  | 'm' => some (.number month 2 '0')
  | 'q' => some (.number ((month + 2) / 3) 1 '0')
  | 'd' => some (.number day 2 '0')
  | 'e' => some (.number day 2 ' ')
  | 'H' => some (two hour)
  | 'k' => some (.number (Int.ofNat hour) 2 ' ')
  | 'I' => some (two half)
  | 'l' => some (.number (Int.ofNat half) 2 ' ')
  | 'M' => some (two (rest / 60 % 60))
  | 'S' => some (two (rest % 60))
  | 's' => some (.number seconds 1 '0')
  | 'j' => some (.number (inYear + 1) 3 '0')
  | 'u' => some (.number (if weekday days = 0 then 7 else Int.ofNat (weekday days)) 1 '0')
  | 'w' => some (.number (Int.ofNat (weekday days)) 1 '0')
  | 'a' => some (short dayName)
  | 'A' => some (.text dayName)
  | 'b' | 'h' => some (short monthName)
  | 'B' => some (.text monthName)
  | 'p' => some (.text (if hour < 12 then "AM" else "PM"))
  | 'P' => some (.text (if hour < 12 then "am" else "pm"))
  | 'Z' => some (.text "UTC")
  | 'z' => some (.text "+0000")
  | 'n' => some (.text "\n")
  | 't' => some (.text "\t")
  | '%' => some (.text "%")
  | 'c' => some (.form "%a %b %e %T %Y")
  | 'D' | 'x' => some (.form "%m/%d/%y")
  | 'F' => some (.form "%Y-%m-%d")
  | 'T' | 'X' => some (.form "%H:%M:%S")
  | 'R' => some (.form "%H:%M")
  | 'r' => some (.form "%I:%M:%S %p")
  | _ => none

/-- A text with characters in front of it up to a width. -/
def widened (width : Nat) (pad : Char) (cs : List Char) : List Char :=
  List.replicate (width - cs.length) pad ++ cs

/-- A number with its sign, padded as a flag asks for. -/
def numberText (flags : List Char) (asked : Option Nat) (value : Int) (width : Nat) (pad : Char) :
    List Char :=
  let pad := match flags.getLast? with
    | some '_' => some ' '
    | some '0' | some '+' => some '0'
    | some '-' => none
    | _ => some pad
  let digits := (toString value.natAbs).toList
  let sign := if value < 0 then ['-'] else []
  match pad with
  | none => sign ++ digits
  | some '0' => sign ++ widened (asked.getD width - sign.length) '0' digits
  | some c => widened (asked.getD width) c (sign ++ digits)

/-- A text with its letters changed and padded as flags ask for. -/
def flagged (letter : Char) (flags : List Char) (asked : Option Nat) (cs : List Char) : List Char :=
  let cs :=
    if flags.contains '#' then
      (if letter = 'p' || letter = 'Z' then cs.map Char.toLower else cs.map Char.toUpper)
    else if flags.contains '^' then cs.map Char.toUpper
    else cs
  let pads := flags.filter fun c => c = '_' || c = '0' || c = '-' || c = '+'
  match pads.getLast? with
  | some '-' => cs
  | some '0' | some '+' => widened (asked.getD 0) '0' cs
  | _ => widened (asked.getD 0) ' ' cs

/-- An offset of zero with the given number of colons. -/
def offsetText (colons : Nat) : String :=
  match colons with
  | 1 => "+00:00"
  | 2 => "+00:00:00"
  | 3 => "+00"
  | _ => "+0000"

/-- A format with its fields filled in. -/
def render (seconds : Int) : Nat → List Char → List Char
  | 0, _ => []
  | _ + 1, [] => []
  | fuel + 1, '%' :: cs =>
      let isFlag (c : Char) : Bool := "_-0+^#".toList.contains c
      let flags := cs.takeWhile isFlag
      let afterFlags := cs.dropWhile isFlag
      let digits := afterFlags.takeWhile Char.isDigit
      let afterWidth := afterFlags.drop digits.length
      let colons := (afterWidth.takeWhile (· = ':')).length
      let asked := (String.ofList digits).toNat?
      let afterColons := afterWidth.drop colons
      let (form, afterForm) : Option Char × List Char := match afterColons with
        | 'E' :: cs => (some 'E', cs)
        | 'O' :: cs => (some 'O', cs)
        | cs => (none, cs)
      /- What has no meaning stands for itself, up to the rest. -/
      let asIs (rest : List Char) : List Char :=
        flagged '%' flags asked ('%' :: cs.take (cs.length - rest.length)) ++
          render seconds fuel rest
      let tell (letter : Char) (rest : List Char) : List Char :=
        let told : Option (List Char) :=
          if colons ≠ 0 then
            (if letter = 'z' && colons ≤ 3 then
              some (flagged letter flags asked (offsetText colons).toList)
            else none)
          else if letter = 'N' then some (List.replicate (asked.getD 9) '0')
          else
            (field? seconds letter).map fun
              | .number value width pad =>
                  let padding := flags.filter fun c => c ≠ '^' && c ≠ '#'
                  numberText padding asked value width pad
              | .text text => flagged letter flags asked text.toList
              | .form format => flagged letter flags asked (render seconds fuel format.toList)
        match told with
        | some text => text ++ render seconds fuel rest
        | none => asIs rest
      let takesForm (letter : Char) : Bool := match form with
        | some 'E' => "cCxXyY".toList.contains letter
        | some _ => "deHIklmMSuUVwWy".toList.contains letter
        | none => true
      match afterForm with
      | [] => asIs []
      | '%' :: rest =>
          if afterForm.length = cs.length then '%' :: render seconds fuel rest else asIs afterForm
      | letter :: rest => if takesForm letter then tell letter rest else asIs rest
  | fuel + 1, c :: cs => c :: render seconds fuel cs

/-- What a format tells about a moment. -/
def tell (seconds : Int) (format : String) : String :=
  String.ofList (render seconds (format.length + 12) format.toList)

/-! ## Reading dates -/

/-- What times are counted in. -/
inductive TimeUnit where
  | months (count : Int)
  | days (count : Int)
  | seconds (count : Int)

inductive Token where
  /-- A number with its digits counted; a sign stands in front of it if it is one. -/
  | number (sign : Option Bool) (value digits : Nat)
  /-- A number of seconds with a fraction, which is not kept. -/
  | fraction (sign : Option Bool) (whole : Nat)
  | month (number : Nat)
  | day (weekday : Nat)
  /-- A zone by its minutes east. -/
  | zone (minutes : Int)
  /-- The mark between a date and a time of day, which is a zone by itself. -/
  | timeMark
  | half (isLater : Bool)
  | unit (unit : TimeUnit)
  | ordinal (count : Int)
  | dayShift (count : Int)
  | ago
  /-- Clocks are an hour ahead. -/
  | summer
  | sign (c : Char)

def meaning? {α : Type} (names : List (String × α)) (word : String) : Option α :=
  (names.find? fun e => e.1 = word).map (·.2)

/-- The number of a name in a list, by the whole name or its first three letters. -/
def named? (names : List String) (word : String) : Option Nat :=
  let plain := if word.length = 4 && word.endsWith "." then (word.take 3).toString else word
  names.findIdx? fun name =>
    let name := name.toLower
    word = name || plain = (name.take 3).toString

def units : List (String × TimeUnit) :=
  [("year", .months 12), ("month", .months 1), ("fortnight", .days 14), ("week", .days 7),
    ("day", .days 1), ("hour", .seconds 3600), ("minute", .seconds 60), ("min", .seconds 60),
    ("second", .seconds 1), ("sec", .seconds 1)]

/-- The names of zones, by their hours east. -/
def zones : List (String × Int) :=
  [("gmt", 0), ("ut", 0), ("utc", 0), ("wet", 0), ("west", 1), ("bst", 1), ("cet", 1), ("met", 1),
    ("cest", 2), ("mest", 2), ("eet", 2), ("eest", 3), ("msk", 3), ("msd", 4), ("ist", 5),
    ("jst", 9), ("est", -5), ("edt", -4), ("cst", -6), ("cdt", -5), ("mst", -7), ("mdt", -6),
    ("pst", -8), ("pdt", -7), ("z", 0)]

/-- The words that count. -/
def ordinals : List (String × Int) :=
  [("last", -1), ("this", 0), ("next", 1), ("first", 1), ("third", 3), ("fourth", 4), ("fifth", 5),
    ("sixth", 6), ("seventh", 7), ("eighth", 8), ("ninth", 9), ("tenth", 10), ("eleventh", 11),
    ("twelfth", 12)]

def letterZone? (word : String) : Option Token :=
  match word.toList with
  | ['t'] => some .timeMark
  | [c] =>
      let n : Int := c.toNat - 'a'.toNat
      if c < 'a' || 'z' < c then none
      else if c = 'j' then some (.zone 0)
      else if c < 'j' then some (.zone ((n + 1) * 60))
      else if c < 'n' then some (.zone (n * 60))
      else if c < 'z' then some (.zone (-(n - 12) * 60))
      else some (.zone 0)
  | _ => none

def word? (word : String) : Option Token :=
  let word := word.toLower
  let single := if word.endsWith "s" then (word.dropEnd 1).toString else word
  let bare := String.ofList (word.toList.filter (· ≠ '.'))
  if ["am", "a.m."].contains word then some (.half false)
  else if ["pm", "p.m."].contains word then some (.half true)
  else
    ((named? monthNames word).map fun n => .month (n + 1))
    <|> (if word = "sept" then some (.month 9) else none)
    <|> ((named? dayNames word).map .day)
    <|> (meaning? [("tues", 2), ("wednes", 3), ("thur", 4), ("thurs", 4)] word).map .day
    <|> (meaning? zones word).map (fun hours =>
      .zone (hours * 60 + (if word = "ist" then 30 else 0)))
    <|> (meaning? units word <|> meaning? units single).map .unit
    <|> (meaning? [("tomorrow", (1 : Int)), ("yesterday", -1), ("today", 0), ("now", 0)] word).map
      .dayShift
    <|> (meaning? ordinals word).map .ordinal
    <|> meaning? [("ago", .ago), ("dst", .summer)] word
    <|> letterZone? word
    <|> (meaning? zones bare).map fun hours => .zone (hours * 60)

/-- What follows a comment between parentheses, which may hold others. -/
def afterComment : Nat → List Char → List Char
  | _, [] => []
  | depth, '(' :: cs => afterComment (depth + 1) cs
  | depth, ')' :: cs => if depth ≤ 1 then cs else afterComment (depth - 1) cs
  | depth, _ :: cs => afterComment depth cs

/-- The tokens of a text, unless it has a word without a meaning. -/
def tokens? : Nat → List Char → Option (List Token)
  | 0, _ => none
  | fuel + 1, cs =>
      match cs.dropWhile Text.isBlank with
      | [] => some []
      | c :: rest =>
          let sign : Option Bool :=
            if c = '-' then some true else if c = '+' then some false else none
          let number := if sign.isSome then rest.dropWhile Text.isBlank else c :: rest
          let digits := number.takeWhile Char.isDigit
          if !digits.isEmpty then
            match (String.ofList digits).toNat?, number.drop digits.length with
            | some value, '.' :: d :: cs | some value, ',' :: d :: cs =>
                if d.isDigit then
                  (.fraction sign value :: ·) <$> tokens? fuel (cs.dropWhile Char.isDigit)
                else
                  (.number sign value digits.length :: ·) <$>
                    tokens? fuel (number.drop digits.length)
            | some value, cs => (.number sign value digits.length :: ·) <$> tokens? fuel cs
            | none, _ => none
          else if sign.isSome then tokens? fuel number
          else if c.isAlpha then
            let isPart (c : Char) : Bool := c.isAlpha || c = '.'
            match word? (String.ofList ((c :: rest).takeWhile isPart)) with
            | some token => (token :: ·) <$> tokens? fuel (rest.dropWhile isPart)
            | none => none
          else if c = '(' then tokens? fuel (afterComment 1 rest)
          else (.sign c :: ·) <$> tokens? fuel rest

/-- What a text tells about a moment. -/
structure Told where
  year : Option (Int × Nat) := none
  month : Option Nat := none
  day : Option Nat := none
  /-- Hour, minute and second, and the half of the day. -/
  time : Option (Nat × Nat × Nat × Option Bool) := none
  weekday : Option (Int × Nat) := none
  zone : Option Int := none
  /-- How often a date, a time, a day of the week and a zone are told. -/
  dates : Nat := 0
  times : Nat := 0
  weekdays : Nat := 0
  zones : Nat := 0
  /-- Whether it is told how far the moment is, and how far it is. -/
  isShifted : Bool := false
  months : Int := 0
  days : Int := 0
  seconds : Int := 0

namespace Told

def date (t : Told) (year : Option (Int × Nat)) (month day : Nat) : Told :=
  { t with
    year := year <|> t.year
    month := some month
    day := some day
    dates := t.dates + 1 }

def timeOfDay (t : Told) (hour minute second : Nat) (half : Option Bool) : Told :=
  { t with time := some (hour, minute, second, half), times := t.times + 1 }

def inZone (t : Told) (minutes : Int) : Told :=
  { t with zone := some minutes, zones := t.zones + 1 }

def onDay (t : Told) (ordinal : Int) (day : Nat) : Told :=
  { t with weekday := some (ordinal, day), weekdays := t.weekdays + 1 }

/-- The moment is a number of units later. -/
def shifted (t : Told) (count : Int) : TimeUnit → Told
  | .months n => { t with isShifted := true, months := t.months + count * n }
  | .days n => { t with isShifted := true, days := t.days + count * n }
  | .seconds n => { t with isShifted := true, seconds := t.seconds + count * n }

/-- A number by itself: a year, a date or a time of day, by what is told already. -/
def plainNumber (t : Told) (value digits : Nat) : Told :=
  let lacksYear := t.dates ≠ 0 && (t.year.all fun y => y.2 = 0)
  if lacksYear && !t.isShifted && (t.times ≠ 0 || 2 < digits) then
    { t with year := some (Int.ofNat value, digits) }
  else if 4 < digits then
    t.date (some (Int.ofNat (value / 10000), digits - 4)) (value / 100 % 100) (value % 100)
  else if digits ≤ 2 then t.timeOfDay value 0 0 none
  else t.timeOfDay (value / 100) (value % 100) 0 none

end Told

def signed (negative : Bool) (value : Nat) : Int :=
  if negative then -Int.ofNat value else Int.ofNat value

/-- The minutes of an offset that is written as hours, or as hours and minutes. -/
def offset? (negative : Bool) (value digits : Nat) (minutes : Option Nat) : Option Int :=
  let size := match minutes with
    | some m => value * 60 + m
    | none => if digits ≤ 2 then value * 60 else value / 100 * 60 + value % 100
  if 24 * 60 < size then none else some (signed negative size)

/-- Read an offset if one comes next. -/
def zoneOffset? (t : Told) : List Token → Option (Told × List Token)
  | .number (some s) v d :: .sign ':' :: .number none m _ :: rest =>
      (offset? s v d (some m)).map fun minutes => (t.inZone minutes, rest)
  | .number (some s) v d :: rest =>
      (offset? s v d none).map fun minutes => (t.inZone minutes, rest)
  | rest => some (t, rest)

/-- Read the half of the day or an offset after a time of day. -/
def afterTime? (t : Told) (hour minute second : Nat) : List Token → Option (Told × List Token)
  | .half isLater :: rest => some (t.timeOfDay hour minute second (some isLater), rest)
  | rest => zoneOffset? (t.timeOfDay hour minute second none) rest

/-- Count units, in the other direction if that is said. -/
def counted (t : Told) (count : Int) (unit : TimeUnit) : List Token → Told × List Token
  | .ago :: rest => (t.shifted (-count) unit, rest)
  | rest => (t.shifted count unit, rest)

/-- Read a zone and what belongs to it. -/
def zoned? (t : Told) (minutes : Int) : List Token → Option (Told × List Token)
  | .number (some s) v _ :: .unit u :: rest => some (counted (t.inZone minutes) (signed s v) u rest)
  | .number (some s) v d :: .sign ':' :: .number none m _ :: rest =>
      (offset? s v d (some m)).map fun more => (t.inZone (minutes + more), rest)
  | .number (some s) v d :: rest =>
      (offset? s v d none).map fun more => (t.inZone (minutes + more), rest)
  | .summer :: rest => some (t.inZone (minutes + 60), rest)
  | rest => some (t.inZone minutes, rest)

/-- Read one item of a date. -/
def item? (t : Told) : List Token → Option (Told × List Token)
  | .number none h _ :: .sign ':' :: .number none m _ :: .sign ':' :: .number none s _ :: rest
  | .number none h _ :: .sign ':' :: .number none m _ :: .sign ':' :: .fraction none s :: rest =>
      afterTime? t h m s rest
  | .number none h _ :: .sign ':' :: .number none m _ :: rest => afterTime? t h m 0 rest
  | .number none h _ :: .half isLater :: rest => some (t.timeOfDay h 0 0 (some isLater), rest)
  | .number none a d :: .sign '/' :: .number none b _ :: .sign '/' :: .number none c e :: rest =>
      some (if 4 ≤ d then t.date (some (Int.ofNat a, d)) b c
        else t.date (some (Int.ofNat c, e)) a b, rest)
  | .number none a _ :: .sign '/' :: .number none b _ :: rest => some (t.date none a b, rest)
  | .number none d _ :: .month m :: .number (some true) y n :: rest
  | .number none d _ :: .month m :: .number none y n :: rest =>
      some (t.date (some (Int.ofNat y, n)) m d, rest)
  | .number none d _ :: .month m :: rest => some (t.date none m d, rest)
  | .month m :: .number (some true) d _ :: .number (some true) y n :: rest
  | .month m :: .number none d _ :: .sign ',' :: .number none y n :: rest =>
      some (t.date (some (Int.ofNat y, n)) m d, rest)
  | .month m :: .number none d _ :: rest => some (t.date none m d, rest)
  | .number none y n :: .number (some true) m _ :: .number (some true) d _ :: rest =>
      let t := t.date (some (Int.ofNat y, n)) m d
      match rest with
      | .timeMark :: .number none h _ :: .sign ':' :: .number none m _ :: .sign ':' ::
          .number none s _ :: rest
      | .timeMark :: .number none h _ :: .sign ':' :: .number none m _ :: .sign ':' ::
          .fraction none s :: rest => zoneOffset? (t.timeOfDay h m s none) rest
      | .timeMark :: .number none h _ :: .sign ':' :: .number none m _ :: rest =>
          zoneOffset? (t.timeOfDay h m 0 none) rest
      | .timeMark :: .number none h _ :: .number (some s) v d :: rest =>
          zoneOffset? (t.timeOfDay h 0 0 none) (.number (some s) v d :: rest)
      | .timeMark :: _ => none
      | rest => some (t, rest)
  | .number none n _ :: .day d :: rest => some (t.onDay (Int.ofNat n) d, rest)
  | .number none n _ :: .unit u :: rest => some (counted t (Int.ofNat n) u rest)
  | .number none n d :: .number (some s) v _ :: .unit u :: rest =>
      some (counted (t.plainNumber n d) (signed s v) u rest)
  | .number none h _ :: .number (some s) v d :: rest =>
      zoneOffset? (t.timeOfDay h 0 0 none) (.number (some s) v d :: rest)
  | .number none n d :: rest => some (t.plainNumber n d, rest)
  | .day d :: .sign ',' :: rest | .day d :: rest => some (t.onDay 0 d, rest)
  | .ordinal n :: .day d :: rest => some (t.onDay n d, rest)
  | .ordinal n :: .unit u :: rest => some (counted t n u rest)
  | .number (some s) v _ :: .unit u :: rest => some (counted t (signed s v) u rest)
  | .unit u :: rest => some (counted t 1 u rest)
  | .dayShift n :: rest => some (t.shifted n (.days 1), rest)
  | .zone minutes :: rest => zoned? t minutes rest
  | .timeMark :: rest => zoned? t (-420) rest
  | _ => none

/-- Read all items of a date. -/
def items? : Nat → Told → List Token → Option Told
  | _, t, [] => some t
  | 0, _, _ :: _ => none
  | fuel + 1, t, tokens => do
      let (t, rest) ← item? t tokens
      items? fuel t rest

/-- The hour of a day from an hour and a half of the day. -/
def hour? (hour : Nat) : Option Bool → Option Nat
  | none => if hour < 24 then some hour else none
  | some isLater =>
      if hour = 0 || 12 < hour then none
      else some (hour % 12 + (if isLater then 12 else 0))

/-- The moment that is told, seen from a present moment. -/
def moment? (now : Int) (t : Told) : Option Int := do
  if 1 < t.dates || 1 < t.times || 1 < t.weekdays || 1 < t.zones then none
  let today := now / 86400
  let (thisYear, thisMonth, thisDay) := Instant.dateOf today
  let year := match t.year with
    | some (y, digits) => if digits = 2 then (if y < 69 then y + 2000 else y + 1900) else y
    | none => thisYear
  let month := t.month.getD thisMonth.toNat
  let day := t.day.getD thisDay.toNat
  if month = 0 || 12 < month || day = 0 || Instant.monthLength year month < day then none
  let ofDay ← match t.time with
    | some (h, m, s, half) => do
        let h ← hour? h half
        if 59 < m || 59 < s then none
        pure (Int.ofNat (h * 3600 + m * 60 + s))
    | none =>
        pure (if t.isShifted && t.dates = 0 && t.weekdays = 0 then now % 86400 else 0)
  let days := Instant.dayNumber year (Int.ofNat month) (Int.ofNat day)
  let days := match t.weekday with
    | some (ordinal, wanted) =>
        if t.dates ≠ 0 then days
        else
          let here := weekday days
          let next := Int.ofNat ((wanted + 7 - here) % 7)
          days + next + 7 * (ordinal - (if 0 < ordinal && here ≠ wanted then 1 else 0))
    | none => days
  let (y, m, d) := Instant.dateOf days
  let months := y * 12 + (m - 1) + t.months
  let days := Instant.dayNumber (months / 12) (months % 12 + 1) 1 + (d - 1) + t.days
  return days * 86400 + ofDay + t.seconds - (t.zone.getD 0) * 60

/-- Read a date, seen from a present moment. -/
def read? (now : Int) (text : String) : Option Int := do
  match text.toList.dropWhile Text.isBlank with
  | '@' :: cs =>
      match ← tokens? (text.length + 1) cs with
      | [.number sign value _] => return signed (sign.getD false) value
      | [.fraction sign value] =>
          return signed (sign.getD false) value - (if sign = some true then 1 else 0)
      | _ => none
  | cs =>
      let tokens ← tokens? (text.length + 1) cs
      moment? now (← items? (tokens.length + 1) {} tokens)

end Calendar

/-- The form of a time that is told up to some part. -/
def partForm? (middle offset part : String) : Option String :=
  let parts := ["date", "hours", "minutes", "seconds", "ns"]
  let time := middle ++ "%H:%M:%S"
  match parts.filter fun name => part.toList.isPrefixOf name.toList with
  | ["date"] => some "%F"
  | ["hours"] => some ("%F" ++ middle ++ "%H" ++ offset)
  | ["minutes"] => some ("%F" ++ middle ++ "%H:%M" ++ offset)
  | ["seconds"] => some ("%F" ++ time ++ offset)
  | ["ns"] =>
      some ("%F" ++ time ++ (if middle = "T" then "," else ".") ++ "%N" ++ offset)
  | _ => none

/-- Write the time. -/
def date : Utility Nat := do
  let o ← options
    { letters := "d:r:s:uRI::\x01:"
      names := [("date", 'd'), ("reference", 'r'), ("set", 's'), ("utc", 'u'), ("universal", 'u'),
        ("rfc-email", 'R'), ("iso-8601", 'I'), ("rfc-3339", '\x01')] }
  let clock : Nat ← Act.ask .clock
  let now : Int := Int.ofNat (Calendar.clockStart + clock / 1000000)
  let invalid {α : Type} (text : String) : Utility α := do
    complain ("invalid date " ++ quoted text)
    leave 1
  let form ← match o.operands with
    | [] => pure none
    | text :: extra :: _ =>
        let _ := text
        misuse ("extra operand " ++ quoted extra)
    | [text] =>
        match text.toList with
        | '+' :: format => pure (some (String.ofList format))
        | _ =>
            if o.has 'd' || o.has 'r' || o.has 's' then
              misuse ("the argument " ++ quoted text ++ " lacks a leading '+';\n" ++
                "when using an option to specify date(s), any non-option\n" ++
                "argument must be a format string beginning with '+'")
            else invalid text
  let seconds ← match o.value? 'd' <|> o.value? 's', o.value? 'r' with
    | some text, _ =>
        match Calendar.read? now text with
        | some seconds => pure seconds
        | none => invalid text
    | none, some path => do
        let s ← get
        match (← Act.files).lookup (Octets.decode (s.resolve path)) with
        | .ok _ => pure now
        | .error e => do
            complain (path ++ ": " ++ Fault.reasonOf e)
            leave 1
    | none, none => pure now
  let usual := "%a %b %e %H:%M:%S %Z %Y"
  let format := match form with
    | some format => format
    | none =>
        if o.has 'R' then "%a, %d %b %Y %H:%M:%S %z"
        else
          match o.value? 'I', o.value? '\x01' with
          | some part, _ =>
              (partForm? "T" "%:z" (if part = "" then "date" else part)).getD usual
          | none, some part => (partForm? " " "%:z" part).getD usual
          | none, none => usual
  put (Calendar.tell seconds format ++ "\n")
  return 0

end ScaffoldRunner.Utility
