import ScaffoldRunner.Pattern.Basic

/-!
# Sets between brackets

The grammar of character sets between brackets. A set lists characters, ranges, sets of their own
and named sets in inner brackets and colons; it is combined with other ones by `&&` for what is in
both, `--` for what is in the first only, and `~~` for what is in one only. The signs come already
split: a sign is a character that may have a meaning, a character without one, or a set.
-/

namespace ScaffoldRunner.Pattern

inductive ClassSign where
  /-- A character that may have a meaning. -/
  | plain (c : Char)
  /-- A character that stands for itself. -/
  | literal (c : Char)
  | set (s : CharSet)

namespace ClassSign

def char? : ClassSign → Option Char
  | plain c | literal c => some c
  | set _ => none

/-- Whether a sign is a character with a possible meaning. -/
def is (c : Char) : ClassSign → Bool
  | plain d => c = d
  | _ => false

def toSet : ClassSign → CharSet
  | plain c | literal c => .one c
  | set s => s

end ClassSign

/-- How two sets are combined. -/
inductive ClassOperator where
  | both
  | firstOnly
  | oneOnly

def ClassOperator.apply : ClassOperator → CharSet → CharSet → CharSet
  | both, s, t => .inter s t
  | firstOnly, s, t => .diff s t
  | oneOnly, s, t => .symmDiff s t

def classOperator? : List ClassSign → Option (ClassOperator × List ClassSign)
  | .plain '&' :: .plain '&' :: rest => some (.both, rest)
  | .plain '-' :: .plain '-' :: rest => some (.firstOnly, rest)
  | .plain '~' :: .plain '~' :: rest => some (.oneOnly, rest)
  | _ => none

/-- A named set, after its opening bracket. -/
def namedClass? (fold : Bool) (signs : List ClassSign) : Option (CharSet × List ClassSign) := do
  let .plain ':' :: signs := signs | none
  let (negated, signs) := match signs with
    | .plain '^' :: signs => (true, signs)
    | signs => (false, signs)
  let name := signs.takeWhile fun sign => !sign.is ':'
  let .plain ':' :: .plain ']' :: rest := signs.drop name.length | none
  let s ← CharSet.named? (String.ofList (name.filterMap ClassSign.char?))
  return (.complIf negated (.foldedIf fold s), rest)

/-- A character or a range of characters. A hyphen makes a range unless it is the last sign or
starts an operator. -/
def classRange? : List ClassSign → Option (CharSet × List ClassSign)
  | [] => none
  | first :: .plain '-' :: second :: rest =>
      if second.is ']' || second.is '-' then some (first.toSet, .plain '-' :: second :: rest)
      else
        match first.char?, second.char? with
        | some low, some high => if low ≤ high then some (.range low high, rest) else none
        | _, _ => none
  | first :: rest => some (first.toSet, rest)

/-- What stands in front of a set: the mark of a complement, and signs that stand for themselves,
which are hyphens, or a closing bracket if there is no hyphen. -/
def classFront (signs : List ClassSign) : Bool × CharSet × List ClassSign :=
  let (negated, signs) := match signs with
    | .plain '^' :: signs => (true, signs)
    | signs => (false, signs)
  let hyphens := signs.takeWhile fun sign => sign.is '-'
  match hyphens, signs.drop hyphens.length with
  | [], .plain ']' :: rest => (negated, .one ']', rest)
  | [], rest => (negated, .empty, rest)
  | _, rest => (negated, .one '-', rest)

/-- What has been read of a set: what stands before the last operator, with it, and what stands
behind it. -/
structure ClassReading where
  before : Option (CharSet × ClassOperator) := none
  current : CharSet

namespace ClassReading

def finish (fold : Bool) (r : ClassReading) : CharSet :=
  match r.before with
  | some (s, op) => op.apply s (.foldedIf fold r.current)
  | none => .foldedIf fold r.current

end ClassReading

/-- Read a set up to its closing bracket. -/
def classBody? (fold : Bool) :
    Nat → ClassReading → List ClassSign → Option (CharSet × List ClassSign)
  | 0, _, _ => none
  | fuel + 1, r, signs =>
      let add (s : CharSet) (rest : List ClassSign) : Option (CharSet × List ClassSign) :=
        classBody? fold fuel { r with current := .union r.current s } rest
      match signs with
      | [] => none
      | .plain ']' :: rest => some (r.finish fold, rest)
      | .plain '[' :: rest =>
          match namedClass? fold rest with
          | some (s, rest) => add s rest
          | none =>
              let (negated, front, rest) := classFront rest
              match classBody? fold fuel { current := front } rest with
              | some (s, rest) => add (.complIf negated s) rest
              | none => none
      | _ =>
          match classOperator? signs with
          | some (op, rest) =>
              classBody? fold fuel { before := some (r.finish fold, op), current := .empty } rest
          | none =>
              match classRange? signs with
              | some (s, rest) => add s rest
              | none => none

/-- The set that the signs between two brackets list. -/
def classOf? (fold : Bool) (signs : List ClassSign) : Option CharSet :=
  let (negated, front, rest) := classFront signs
  match classBody? fold (signs.length + 2) { current := front } (rest ++ [.plain ']']) with
  | some (s, []) => some (.complIf negated s)
  | _ => none

end ScaffoldRunner.Pattern
