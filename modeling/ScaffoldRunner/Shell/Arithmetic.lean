import ScaffoldRunner.Data.Power
import ScaffoldRunner.Shell.Syntax

/-!
# Arithmetic of the shell

Whole numbers of 64 bits with the operators and precedences that `$((…))` knows. An expression is
evaluated while it is read; where its value is not asked for, variables are neither looked up nor
assigned.
-/

namespace ScaffoldRunner.Shell

namespace Arithmetic

/-- The value of a number of 64 bits with a sign. -/
def wrap (n : Int) : Int := n.bmod (twoTo 64)

/-- The largest and the least number. -/
def largest : Int := 9223372036854775807

def least : Int := -9223372036854775808

/-- The value of a digit, which may be a letter. -/
def digitValue (c : Char) : Nat :=
  if c.isDigit then c.toNat - 48 else c.toLower.toNat - 87

/-- Whether a character is a digit of a base. -/
def isDigitOf (base : Nat) (c : Char) : Bool := c.isAlphanum && digitValue c < base

/-- A constant at the front of a text, hexadecimal, octal or decimal, and what follows it. -/
def constant (cs : List Char) : Nat × List Char :=
  let read (base : Nat) (cs : List Char) : Nat × List Char :=
    let digits := cs.takeWhile (isDigitOf base)
    (digits.foldl (fun n c => n * base + digitValue c) 0, cs.drop digits.length)
  match cs with
  | '0' :: x :: c :: rest =>
      if (x = 'x' || x = 'X') && isDigitOf 16 c then read 16 (c :: rest) else read 8 cs
  | '0' :: _ => read 8 cs
  | cs => read 10 cs

/-- Whether a character is a blank in a number. -/
def isBlank (c : Char) : Bool := c = ' ' || ('\t' ≤ c && c ≤ '\r')

/-- The number in a text, which is zero if there is none; `none` for what is no number. -/
def ofText? (text : String) : Option Int :=
  let cs := text.toList.dropWhile isBlank
  let (negative, digits) : Bool × List Char := match cs with
    | '-' :: rest => (true, rest)
    | '+' :: rest => (false, rest)
    | cs => (false, cs)
  if digits.head?.any Char.isDigit then
    let (n, rest) := constant digits
    let value : Int := if negative then -Int.ofNat n else n
    if rest.all isBlank && least ≤ value && value ≤ largest then some value else none
  else if text.toList.all isBlank then some 0
  else none

/-- A token of an expression. -/
inductive Sign where
  | number (n : Int)
  | name (name : String)
  | operator (text : String)
  | bad
  | ending
  deriving DecidableEq

/-- The operators that have more than one character, longer ones first. -/
def longOperators : List String :=
  ["<<=", ">>=", "<<", ">>", "<=", ">=", "==", "!=", "&&", "||", "*=", "/=", "%=", "+=", "-=",
    "&=", "^=", "|="]

/-- The token at the front of an expression, and what follows it. -/
def sign (cs : List Char) : Sign × List Char :=
  match cs.dropWhile fun c => c = ' ' || c = '\t' || c = '\n' with
  | [] => (.ending, [])
  | c :: rest =>
      let cs := c :: rest
      if c.isDigit then
        let (n, rest) := constant cs
        (.number (min (Int.ofNat n) largest), rest)
      else if isNameStart c then
        let name := cs.takeWhile isNameChar
        (.name (String.ofList name), cs.drop name.length)
      else
        match longOperators.find? fun op => op.toList.isPrefixOf cs with
        | some op => (.operator op, cs.drop op.length)
        | none =>
            if "=<>|&!()*/%+-^~?:".toList.contains c then (.operator (String.singleton c), rest)
            else (.bad, cs)

/-- Why an expression has no value. -/
inductive Fault where
  | malformed (reason : String)
  | illegal (text : String)

/-- The state of evaluation: the token looked at, what follows it, and the variables that were
assigned, the last one first. -/
structure State where
  current : Sign
  rest : List Char
  assigned : List (String × Int) := []

/-- A step of evaluation. -/
abbrev Eval := EStateM Fault State

/-- Go on to the next token. -/
def advance : Eval Unit := modify fun s =>
  let (current, rest) := sign s.rest
  { s with current := current, rest := rest }

/-- Complain about an expression. -/
def malformed {α : Type} (reason : String) : Eval α := throw (.malformed reason)

/-- Pass over an operator that has to come next. -/
def expect (text : String) (reason : String) : Eval Unit := do
  if (← get).current = .operator text then advance else malformed reason

/-- The precedence of an operator with two sides; a lower one binds more. -/
def precedence? (text : String) : Option Nat :=
  match text with
  | "*" | "/" | "%" => some 0
  | "+" | "-" => some 1
  | "<<" | ">>" => some 2
  | "<" | "<=" | ">" | ">=" => some 3
  | "==" | "!=" => some 4
  | "&" => some 5
  | "^" => some 6
  | "|" => some 7
  | _ => none

/-- The operator with two sides that is looked at, with its precedence. -/
def binary? (sign : Sign) : Option (String × Nat) :=
  match sign with
  | .operator text => (precedence? text).map fun level => (text, level)
  | _ => none

/-- One for what holds and zero for what does not. -/
def ofBool (b : Bool) : Int := if b then 1 else 0

/-- The value of an operator that uses both sides. -/
def combine (op : String) (a b : Int) : Eval Int :=
  let shift := twoTo (b % 64).toNat
  match op with
  | "*" => return wrap (a * b)
  | "/" => if b = 0 then malformed "division by zero" else return wrap (a.tdiv b)
  | "%" => if b = 0 then malformed "division by zero" else return wrap (a.tmod b)
  | "+" => return wrap (a + b)
  | "-" => return wrap (a - b)
  | "<<" => return wrap (a * Int.ofNat shift)
  | ">>" => return a / Int.ofNat shift
  | "<" => return ofBool (a < b)
  | "<=" => return ofBool (a ≤ b)
  | ">" => return ofBool (a > b)
  | ">=" => return ofBool (a ≥ b)
  | "==" => return ofBool (a = b)
  | "!=" => return ofBool (a ≠ b)
  | "&" => return (Int64.ofInt a &&& Int64.ofInt b).toInt
  | "^" => return (Int64.ofInt a ^^^ Int64.ofInt b).toInt
  | _ => return (Int64.ofInt a ||| Int64.ofInt b).toInt

/-- The operator within an assignment, which may be none; `none` for what is no assignment. -/
def assignment? (text : String) : Option (Option String) :=
  match text with
  | "=" => some none
  | "==" | "<=" | ">=" | "!=" => none
  | text =>
      match text.toList.reverse with
      | '=' :: op => some (some (String.ofList op.reverse))
      | _ => none

/-- The number that a variable holds. -/
def lookup (var? : String → Option String) (name : String) : Eval Int := do
  match (← get).assigned.find? fun e => e.1 = name with
  | some (_, n) => return n
  | none =>
      let text := (var? name).getD ""
      match ofText? text with
      | some n => return n
      | none => throw (.illegal text)

/-- Give a variable a value. -/
def assign (name : String) (n : Int) : Eval Unit :=
  modify fun s => { s with assigned := (name, n) :: s.assigned }

mutual

/-- An assignment or a choice. -/
def full (var? : String → Option String) : Nat → Bool → Eval Int
  | 0, _ => malformed "expecting primary"
  | fuel + 1, wanted => do
      let s ← get
      match s.current, sign s.rest with
      | .name name, (.operator op, rest) =>
          match assignment? op with
          | none => choice var? fuel wanted
          | some inner => do
              set { s with current := .operator op, rest := rest }
              advance
              let n ← full var? fuel wanted
              if !wanted then return n
              let n ← match inner with
                | none => pure n
                | some op => do combine op (← lookup var? name) n
              assign name n
              return n
      | _, _ => choice var? fuel wanted

def choice (var? : String → Option String) : Nat → Bool → Eval Int
  | 0, _ => malformed "expecting primary"
  | fuel + 1, wanted => do
      let condition ← either var? fuel wanted
      if (← get).current = .operator "?" then
        advance
        let first ← full var? fuel (wanted && condition ≠ 0)
        expect ":" "expecting ':'"
        let second ← choice var? fuel (wanted && condition = 0)
        return if condition ≠ 0 then first else second
      else return condition

/-- Conditions of which one has to hold. -/
def either (var? : String → Option String) : Nat → Bool → Eval Int
  | 0, _ => malformed "expecting primary"
  | fuel + 1, wanted => do
      let first ← both var? fuel wanted
      if (← get).current = .operator "||" then
        advance
        let second ← either var? fuel (wanted && first = 0)
        return ofBool (first ≠ 0 || second ≠ 0)
      else return first

/-- Conditions that all have to hold. -/
def both (var? : String → Option String) : Nat → Bool → Eval Int
  | 0, _ => malformed "expecting primary"
  | fuel + 1, wanted => do
      let first ← operand var? fuel wanted
      let first ← match binary? (← get).current with
        | some (op, level) => operators var? fuel wanted first op level 8
        | none => pure first
      if (← get).current = .operator "&&" then
        advance
        let second ← both var? fuel (wanted && first ≠ 0)
        return ofBool (first ≠ 0 && second ≠ 0)
      else return first

/-- Operators with two sides, as long as they bind more than a limit. -/
def operators (var? : String → Option String) :
    Nat → Bool → Int → String → Nat → Nat → Eval Int
  | 0, _, _, _, _, _ => malformed "expecting primary"
  | fuel + 1, wanted, first, op, level, limit => do
      advance
      let second ← operand var? fuel wanted
      let second ← match binary? (← get).current with
        | some (next, nextLevel) =>
            if nextLevel < level then operators var? fuel wanted second next nextLevel level
            else pure second
        | none => pure second
      let value ← if wanted then combine op first second else pure second
      match binary? (← get).current with
      | some (next, nextLevel) =>
          if limit ≤ nextLevel then return value
          else operators var? fuel wanted value next nextLevel limit
      | none => return value

/-- A number, a variable, or an expression in parentheses, with the signs in front of it. -/
def operand (var? : String → Option String) : Nat → Bool → Eval Int
  | 0, _ => malformed "expecting primary"
  | fuel + 1, wanted => do
      match (← get).current with
      | .number n => do
          advance
          return n
      | .name name => do
          let n ← if wanted then lookup var? name else pure 0
          advance
          return n
      | .operator "(" => do
          advance
          let n ← full var? fuel wanted
          expect ")" "expecting ')'"
          return n
      | .operator "+" => do
          advance
          operand var? fuel wanted
      | .operator "-" => do
          advance
          return wrap (-(← operand var? fuel wanted))
      | .operator "!" => do
          advance
          return ofBool ((← operand var? fuel wanted) = 0)
      | .operator "~" => do
          advance
          return -(← operand var? fuel wanted) - 1
      | _ => malformed "expecting primary"

end

/-- The value of an expression, and the variables that were assigned, in order; or what is wrong
with it. -/
def evaluate (var? : String → Option String) (text : String) :
    Except String (Int × List (String × Int)) :=
  let (current, rest) := sign text.toList
  let act : Eval Int := do
    let n ← full var? (16 * text.length + 32) true
    if (← get).current ≠ .ending then malformed "expecting EOF"
    return n
  match act { current := current, rest := rest } with
  | .ok n s => .ok (n, s.assigned.reverse)
  | .error (.malformed reason) _ =>
      .error ("arithmetic expression: " ++ reason ++ ": \"" ++ text ++ "\"")
  | .error (.illegal text) _ => .error ("Illegal number: " ++ text)

end Arithmetic

end ScaffoldRunner.Shell
