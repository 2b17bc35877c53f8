import ScaffoldRunner.Utility.Basic
import ScaffoldRunner.Utility.Condition
import ScaffoldRunner.Utility.Format

/-!
# Utilities on their arguments

Utilities that look at nothing but their arguments: they write them, count with them, or answer a
condition.
-/

namespace ScaffoldRunner.Utility

def constant (status : Nat) : Utility Nat := return status

/-! ## Writing arguments -/

/-- The options in front of the arguments of `echo`: whether a line end is written, whether escapes
are replaced, and the arguments. -/
def echoOptions : List String → Bool → Bool → Bool × Bool × List String
  | [], ends, expands => (ends, expands, [])
  | arg :: args, ends, expands =>
      match arg.toList with
      | '-' :: c :: cs =>
          if (c :: cs).all "neE".toList.contains then
            let expands := (c :: cs).foldl (fun e c =>
              if c = 'e' then true else if c = 'E' then false else e) expands
            echoOptions args (ends && !(c :: cs).contains 'n') expands
          else (ends, expands, arg :: args)
      | _ => (ends, expands, arg :: args)

/-- Write the arguments. -/
def echo : Utility Nat := do
  let (ends, expands, args) := echoOptions (← get).args true false
  let text := Text.join " " args
  let (text, goesOn) := if expands then Escape.expandAll Escape.ofNumberedText text
    else (text, true)
  put (if ends && goesOn then text ++ "\n" else text)
  return 0

/-- The escapes of formats where there are hexadecimal numbers and quotes, too. -/
def formatEscape : Escape.Reading
  | 'x' :: c :: cs =>
      if Escape.isHex c then
        let (d, rest) := Escape.number 16 2 Escape.isHex (c :: cs)
        ([d], rest)
      else (['\\', 'x'], c :: cs)
  | '"' :: cs => (['"'], cs)
  | cs => Escape.ofFormat cs

def printfDialect : FormatDialect where
  formatEscape := formatEscape
  textEscape cs := match cs with
    | '0' :: _ | 'x' :: _ => Escape.ofNumberedText cs
    | cs => formatEscape cs
  stopsInFormat := true
  sizes := "hlLqjzt".toList
  notNumeric arg := quoted arg ++ ": expected a numeric value"
  notAllNumeric arg := quoted arg ++ ": value not completely converted"
  outOfRange arg := quoted arg ++ ": Numerical result out of range"
  invalid text := text ++ ": invalid conversion specification"
  missingLetter text := text ++ ": invalid conversion specification"

/-- Write the arguments under a format. -/
def printf : Utility Nat := do
  let args := (← get).args
  match if args.head? = some "--" then args.drop 1 else args with
  | [] => misuse "missing operand"
  | format :: args => do
      let out := Format.output printfDialect format args
      put out.text
      out.complaints.reverse.forM complain
      if let some text := out.fault then
        complain text
        return 1
      if !out.args.isEmpty && !out.stopped then
        complain ("warning: ignoring excess arguments, starting with " ++
          quoted (out.args.headD ""))
      return statusOf out.complaints.isEmpty

/-- Write a text again and again, until it cannot be written any more. -/
def putForever (text : String) : Nat → Utility Nat
  | 0 => return 0
  | fuel + 1 => do
      put text
      putForever text fuel

/-- Write a line again and again. -/
def yes : Utility Nat := do
  let args := (← get).args
  let line := (if args.isEmpty then "y" else Text.join " " args) ++ "\n"
  putForever (String.join (List.replicate (4096 / line.length + 1) line)) Act.rounds

/-! ## Conditions -/

def conditionMessage : ConditionError → String
  | .notANumber text => "invalid integer " ++ quoted text
  | .unexpected text => "extra argument " ++ quoted text
  | .missingArgument op => "missing argument after " ++ quoted op
  | .missingClose => "')' expected"

/-- Answer a condition; between brackets if so asked. -/
def condition (bracketed : Bool) : Utility Nat := do
  let s ← get
  if bracketed && s.args.getLast? ≠ some "]" then
    complain "missing ']'"
    return 2
  let args := if bracketed then s.args.dropLast else s.args
  let tree ← Act.files
  let streams ← [0, 1, 2].mapM fun n => Act.ask (.kind n)
  match Condition.holds { tree := tree, resolve := s.resolve, streams := streams } args with
  | .ok holds => return statusOf holds
  | .error e => do
      complain (conditionMessage e)
      return 2

/-! ## Paths -/

/-- The last name of a path, without a separator at its end. -/
def lastName (path : String) : String :=
  let back := path.toList.reverse
  let trimmed := back.dropWhile (· = '/')
  if trimmed.isEmpty then (if back.isEmpty then "" else "/")
  else String.ofList (trimmed.takeWhile (· ≠ '/')).reverse

/-- A path without its last name. -/
def dirOf (path : String) : String :=
  let back := path.toList.reverse
  let trimmed := back.dropWhile (· = '/')
  let rest := trimmed.dropWhile (· ≠ '/')
  if trimmed.isEmpty then (if back.isEmpty then "." else "/")
  else if rest.isEmpty then "."
  else
    let rest := rest.dropWhile (· = '/')
    if rest.isEmpty then "/" else String.ofList rest.reverse

/-- A text without a suffix, unless nothing would be left. -/
def withoutSuffix (suffix text : String) : String :=
  if suffix ≠ "" && suffix ≠ text && text.endsWith suffix then
    (text.dropEnd suffix.length).toString
  else text

/-- Complain about an argument that is too much, and leave. -/
def extraOperand {α : Type} (arg : String) (status : Nat := 1) : Utility α :=
  misuse ("extra operand " ++ quoted arg) status

/-- Write the last names of paths. -/
def basename : Utility Nat := do
  let o ← options
    { letters := "as:z", names := [("multiple", 'a'), ("suffix", 's'), ("zero", 'z')]
      inFront := true }
  let ending := if o.has 'z' then "\x00" else "\n"
  match o.operands with
  | [] => misuse "missing operand"
  | paths =>
      if o.has 'a' || o.has 's' then
        let suffix := (o.value? 's').getD ""
        put (String.join (paths.map fun path => withoutSuffix suffix (lastName path) ++ ending))
        return 0
      else
        match paths with
        | _ :: _ :: extra :: _ => extraOperand extra
        | path :: rest => do
            put (withoutSuffix (rest.headD "") (lastName path) ++ ending)
            return 0
        | [] => return 0

/-- Write the directories of paths. -/
def dirname : Utility Nat := do
  let o ← options { letters := "z", names := [("zero", 'z')] }
  if o.operands.isEmpty then misuse "missing operand"
  let ending := if o.has 'z' then "\x00" else "\n"
  put (String.join (o.operands.map fun path => dirOf path ++ ending))
  return 0

/-! ## Sequences of numbers -/

/-- A decimal number: digits, and how many of them stand behind the point. -/
structure Decimals where
  value : Int
  places : Nat

namespace Decimals

def ofText? (text : String) : Option Decimals :=
  let cs := text.toList.dropWhile Real.isBlank
  let (negative, cs) : Bool × List Char := match cs with
    | '-' :: rest => (true, rest)
    | '+' :: rest => (false, rest)
    | cs => (false, cs)
  let whole := cs.takeWhile Char.isDigit
  let (part, rest) : List Char × List Char := match cs.drop whole.length with
    | '.' :: more => (more.takeWhile Char.isDigit, more.dropWhile Char.isDigit)
    | rest => ([], rest)
  let (e, rest) := Real.exponent 'e' rest
  if (whole.isEmpty && part.isEmpty) || !rest.isEmpty then none
  else
    let size := (whole ++ part).foldl (fun n c => n * 10 + (c.toNat - 48)) 0
    let value : Int := if negative then -Int.ofNat size else size
    let places := Int.ofNat part.length - e
    if places < 0 then some ⟨value * Int.ofNat (tenTo places.natAbs), 0⟩
    else some ⟨value, places.toNat⟩

/-- The digits of a number with more places. -/
def scaled (d : Decimals) (places : Nat) : Int := d.value * Int.ofNat (tenTo (places - d.places))

/-- A number of so many places as a text. -/
def text (value : Int) (places : Nat) : String :=
  let digits := Nat.toDigits 10 value.natAbs
  let digits := List.replicate (places + 1 - digits.length) '0' ++ digits
  let whole := digits.take (digits.length - places)
  let part := digits.drop (digits.length - places)
  (if value < 0 then "-" else "") ++ String.ofList whole ++
    (if places = 0 then "" else "." ++ String.ofList part)

end Decimals

/-- Write numbers from one on as long as they do not go past another one. -/
def putNumbers (shown : Int → String) (separator : String) (step last : Int) :
    Nat → Int → List String → Nat → Utility Unit
  | 0, _, _, _ => return
  | fuel + 1, n, held, count => do
      let isOver := if 0 < step then last < n else n < last
      if isOver then put (String.join held.reverse)
      else if 500 < count then do
        put (String.join held.reverse)
        putNumbers shown separator step last fuel (n + step) [separator ++ shown n] 1
      else
        putNumbers shown separator step last fuel (n + step) ((separator ++ shown n) :: held)
          (count + 1)

/-- Arguments with a mark in front of the first number below zero, which is no option. -/
def markNegatives : List String → List String
  | [] => []
  | arg :: args =>
      match arg.toList with
      | '-' :: c :: _ =>
          if c.isDigit || c = '.' then "--" :: arg :: args
          else if arg = "-s" || arg = "-f" then arg :: args.take 1 ++ markNegatives (args.drop 1)
          else arg :: markNegatives args
      | _ => "--" :: arg :: args
termination_by args => args.length
decreasing_by all_goals simp; try omega

/-- Write a sequence of numbers. -/
def seq : Utility Nat := do
  modify fun s => { s with args := markNegatives s.args }
  let o ← options
    { letters := "f:s:w", names := [("format", 'f'), ("separator", 's'), ("equal-width", 'w')]
      inFront := true }
  let number (text : String) : Utility Decimals := do
    match Decimals.ofText? text with
    | some d => return d
    | none => misuse ("invalid floating point argument: " ++ quoted text)
  let (first, step, last) ← match o.operands with
    | [] => misuse "missing operand"
    | [last] => pure (⟨1, 0⟩, ⟨1, 0⟩, ← number last)
    | [first, last] => pure (← number first, ⟨1, 0⟩, ← number last)
    | [first, step, last] => pure (← number first, ← number step, ← number last)
    | _ :: _ :: _ :: extra :: _ => extraOperand extra
  if step.value = 0 then
    misuse ("invalid Zero increment value: " ++ quoted (o.operands.getD 1 ""))
  let places := max (max first.places step.places) last.places
  let shownPlaces := max first.places step.places
  let text (n : Int) : String :=
    Decimals.text (n / Int.ofNat (tenTo (places - shownPlaces))) shownPlaces
  let low := first.scaled places
  let high := last.scaled places
  let width := max (text low).length (text (high / Int.ofNat (tenTo (places - shownPlaces)) *
    Int.ofNat (tenTo (places - shownPlaces)))).length
  let shown (n : Int) : String :=
    match o.value? 'f' with
    | some format =>
        (Format.output printfDialect format [Decimals.text n places]).text
    | none =>
        let plain := text n
        if o.has 'w' then
          let zeros := String.ofList (List.replicate (width - plain.length) '0')
          if n < 0 then "-" ++ zeros ++ (plain.drop 1).toString else zeros ++ plain
        else plain
  let separator := (o.value? 's').getD "\n"
  let step := step.scaled places
  let isEmpty := if 0 < step then high < low else low < high
  if isEmpty then return 0
  put (shown low)
  putNumbers shown separator step high Act.rounds (low + step) [] 0
  put "\n"
  return 0

end ScaffoldRunner.Utility
