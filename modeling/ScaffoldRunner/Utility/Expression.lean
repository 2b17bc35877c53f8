import ScaffoldRunner.Pattern.PosixSyntax
import ScaffoldRunner.Utility.Basic

/-!
# Expressions

`expr` works out an expression whose parts are its arguments: on whole numbers, on texts, and with
patterns.
-/

namespace ScaffoldRunner.Utility

namespace Expression

/-- Why an expression has no value, with the status for it. -/
structure Failure where
  text : String
  status : Nat := 2

/-- A step of reading: the arguments that are left. -/
abbrev Read := EStateM Failure (List String)

def number? (text : String) : Option Int :=
  let digits := match text.toList with
    | '-' :: rest => rest
    | cs => cs
  if !digits.isEmpty && digits.all Char.isDigit then text.toInt? else none

/-- Whether a value counts as false: it is empty, or zero. -/
def isNull (text : String) : Bool := text = "" || number? text = some 0

/-- Take an argument if it is one of some operators. -/
def operator? (ops : List String) : Read (Option String) := fun args =>
  match args with
  | op :: rest => if ops.contains op then .ok (some op) rest else .ok none args
  | [] => .ok none []

/-- What is said when an argument is missing; `used` are those in front of it. -/
def missing (all left : List String) : Failure :=
  let used := all.take (all.length - left.length)
  ⟨"syntax error: missing argument after " ++ quoted (used.getLast?.getD ""), 2⟩

/-- A whole number, or a complaint. -/
def number (text : String) : Read Int :=
  match number? text with
  | some n => pure n
  | none => throw ⟨"non-integer argument", 2⟩

/-- Match a text with a pattern from its front on: the text of the first group, or how many
characters have matched. -/
def matched (text pattern : String) : Read String := do
  match Pattern.Posix.read { extended := false } pattern.toList with
  | .error e => throw ⟨e, 2⟩
  | .ok r =>
      let cs := text.toList.toArray
      let found := Pattern.longestAt? cs (r.groups + 1) r.pattern 0
      if r.groups = 0 then return toString ((found.map Pattern.Match.stop).getD 0)
      else
        return match found with
          | none => ""
          | some m => String.ofList ((Pattern.groupText? cs m.place.slots 1).getD [])

/-- Compare two values: as numbers, if both are. -/
def compared (op a b : String) : String :=
  let answer {α : Type} [LT α] [DecidableRel (α := α) (· < ·)] (x y : α) : Bool :=
    match op with
    | "<" => x < y
    | "<=" => !(y < x)
    | "=" | "==" => !(x < y) && !(y < x)
    | "!=" => x < y || y < x
    | ">=" => !(x < y)
    | _ => y < x
  let isTrue := match number? a, number? b with
    | some x, some y => answer x y
    | _, _ => answer a b
  if isTrue then "1" else "0"

/-- The part of a text of some length from some place on. -/
def part (text : String) (start size : Int) : String :=
  if start ≤ 0 || size ≤ 0 then ""
  else String.ofList ((text.toList.drop (start.toNat - 1)).take size.toNat)

variable (all : List String)

mutual

/-- Alternatives: the first value that is not null. -/
def readAny : Nat → Read String
  | 0 => throw ⟨"syntax error", 2⟩
  | fuel + 1 => do
      let mut value ← readBoth fuel
      for _ in all do
        if (← operator? ["|"]).isSome then
          let other ← readBoth fuel
          if isNull value then value := if isNull other then "0" else other
      return value

/-- The first value, if neither is null. -/
def readBoth : Nat → Read String
  | 0 => throw ⟨"syntax error", 2⟩
  | fuel + 1 => do
      let mut value ← readComparison fuel
      for _ in all do
        if (← operator? ["&"]).isSome then
          let other ← readComparison fuel
          if isNull value || isNull other then value := "0"
      return value

def readComparison : Nat → Read String
  | 0 => throw ⟨"syntax error", 2⟩
  | fuel + 1 => do
      let mut value ← readSum fuel
      for _ in all do
        if let some op ← operator? ["<", "<=", "=", "==", "!=", ">=", ">"] then
          value := compared op value (← readSum fuel)
      return value

def readSum : Nat → Read String
  | 0 => throw ⟨"syntax error", 2⟩
  | fuel + 1 => do
      let mut value ← readProduct fuel
      for _ in all do
        if let some op ← operator? ["+", "-"] then
          let other ← readProduct fuel
          let a ← number value
          let b ← number other
          value := toString (if op = "+" then a + b else a - b)
      return value

/-- Products, quotients and remainders. -/
def readProduct : Nat → Read String
  | 0 => throw ⟨"syntax error", 2⟩
  | fuel + 1 => do
      let mut value ← readMatch fuel
      for _ in all do
        if let some op ← operator? ["*", "/", "%"] then
          let other ← readMatch fuel
          let a ← number value
          let b ← number other
          if op ≠ "*" && b = 0 then throw ⟨"division by zero", 2⟩
          value := toString (if op = "*" then a * b else if op = "/" then a.tdiv b else a.tmod b)
      return value

/-- Matches of a text with a pattern. -/
def readMatch : Nat → Read String
  | 0 => throw ⟨"syntax error", 2⟩
  | fuel + 1 => do
      let mut value ← readCall fuel
      for _ in all do
        if (← operator? [":"]).isSome then value ← matched value (← readCall fuel)
      return value

/-- Functions with their arguments. -/
def readCall : Nat → Read String
  | 0 => throw ⟨"syntax error", 2⟩
  | fuel + 1 => do
      match ← operator? ["+", "length", "match", "index", "substr"] with
      | none => readValue fuel
      | some "+" =>
          match ← get with
          | [] => throw (missing all [])
          | arg :: rest => do
              set rest
              return arg
      | some "length" => return toString (← readCall fuel).length
      | some "match" => do
          let text ← readCall fuel
          matched text (← readCall fuel)
      | some "index" => do
          let text ← readCall fuel
          let chars := (← readCall fuel).toList
          return toString (((text.toList.findIdx? chars.contains).map (· + 1)).getD 0)
      | some _ => do
          let text ← readCall fuel
          let start ← readCall fuel
          let size ← readCall fuel
          return match number? start, number? size with
            | some start, some size => part text start size
            | _, _ => ""

/-- An argument, or an expression between parentheses. -/
def readValue : Nat → Read String
  | 0 => throw ⟨"syntax error", 2⟩
  | fuel + 1 => do
      match ← get with
      | [] => throw (missing all [])
      | "(" :: rest => do
          set rest
          let value ← readAny fuel
          match ← get with
          | ")" :: rest => do
              set rest
              return value
          | [] =>
              throw ⟨"syntax error: expecting ')' after " ++ quoted (all.getLast?.getD ""), 2⟩
          | arg :: _ => throw ⟨"syntax error: expecting ')' instead of " ++ quoted arg, 2⟩
      | ")" :: _ => throw ⟨"syntax error: unexpected ')'", 2⟩
      | arg :: rest => do
          set rest
          return arg

end

def value (args : List String) : Except Failure String :=
  match readAny args (8 * args.length + 8) args with
  | .ok value [] => .ok value
  | .ok _ (arg :: _) => .error ⟨"syntax error: unexpected argument " ++ quoted arg, 2⟩
  | .error e _ => .error e

end Expression

/-- Write the value of an expression; the status tells whether it is null. -/
def expr : Utility Nat := do
  let args := (← get).args
  let args := if args.head? = some "--" then args.drop 1 else args
  if args.isEmpty then misuse "missing operand" 2
  match Expression.value args with
  | .error e => do
      complain e.text
      return e.status
  | .ok value => do
      put (value ++ "\n")
      return if Expression.isNull value then 1 else 0

end ScaffoldRunner.Utility
