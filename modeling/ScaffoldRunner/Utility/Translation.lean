import ScaffoldRunner.Pattern.Basic
import ScaffoldRunner.Utility.Copying

/-!
# Translating characters

`tr` puts other characters in the place of some, leaves some out, or writes each run of one
character once.
-/

namespace ScaffoldRunner.Utility

namespace Translation

/-- A part of a list of characters. -/
inductive Item where
  | chars (cs : List Char)
  /-- The members of a named set. -/
  | named (name : String)
  /-- A character as often as said; zero stands for as often as needed. -/
  | many (c : Char) (count : Nat)

def octets : List Char := (List.range 256).map Char.ofNat

/-- The members of a named set in their order. -/
def members (name : String) : List Char :=
  match CharSet.named? name with
  | some s => octets.filter s.has
  | none => []

def setNames : List String :=
  ["alnum", "alpha", "blank", "cntrl", "digit", "graph", "lower", "print", "punct", "space",
    "upper", "xdigit"]

/-- A character, and whether it was written with a backslash; and what follows it. -/
def char? : List Char → Option (Char × Bool × List Char)
  | [] => none
  | ['\\'] => some ('\\', false, [])
  | '\\' :: c :: cs =>
      if '0' ≤ c && c ≤ '7' then
        let value (ds : List Char) : Nat := ds.foldl (fun n c => n * 8 + (c.toNat - 48)) 0
        let digits := ((c :: cs).take 3).takeWhile fun c => '0' ≤ c && c ≤ '7'
        let digits := if 255 < value digits then digits.take 2 else digits
        some (Char.ofNat (value digits), true, (c :: cs).drop digits.length)
      else
        let d := match c with
          | 'a' => '\x07'
          | 'b' => '\x08'
          | 'f' => '\x0c'
          | 'n' => '\n'
          | 'r' => '\r'
          | 't' => '\t'
          | 'v' => '\x0b'
          | c => c
        some (d, true, cs)
  | c :: cs => some (c, false, cs)

/-- A character as it is told in a complaint. -/
def shown (c : Char) : String :=
  if ' ' ≤ c && c ≤ '~' then String.singleton c
  else "\\" ++ String.ofList [Nat.digitChar (c.toNat / 64), Nat.digitChar (c.toNat / 8 % 8),
    Nat.digitChar (c.toNat % 8)]

/-- An item between brackets, and what follows it. -/
def bracketed? (cs : List Char) : Except String (Option (Item × List Char)) := do
  match cs with
  | '[' :: ':' :: rest =>
      let name := rest.takeWhile (· ≠ ':')
      match rest.drop name.length with
      | ':' :: ']' :: rest =>
          let name := String.ofList name
          if setNames.contains name then return some (.named name, rest)
          else throw ("invalid character class " ++ quoted name)
      | _ => return none
  | '[' :: '=' :: c :: '=' :: ']' :: rest => return some (.chars [c], rest)
  | '[' :: rest =>
      match char? rest with
      | some (c, _, '*' :: rest) =>
          let digits := rest.takeWhile Char.isDigit
          match rest.drop digits.length with
          | ']' :: rest =>
              let base := if digits.head? = some '0' then 8 else 10
              return some (.many c (digits.foldl (fun n c => n * base + (c.toNat - 48)) 0), rest)
          | _ => return none
      | _ => return none
  | _ => return none

def items : Nat → List Char → List Item → Except String (List Item)
  | 0, _, found => return found.reverse
  | _, [], found => return found.reverse
  | fuel + 1, cs, found => do
      match ← bracketed? cs with
      | some (item, rest) => items fuel rest (item :: found)
      | none =>
          match char? cs with
          | none => return found.reverse
          | some (low, _, rest) =>
              match rest with
              | '-' :: next =>
                  match char? next with
                  | none => items fuel rest (.chars [low] :: found)
                  | some (high, _, rest) =>
                      if high < low then
                        throw ("range-endpoints of " ++
                          quoted (shown low ++ "-" ++ shown high) ++
                          " are in reverse collating sequence order")
                      else
                        let all := (List.range (high.toNat - low.toNat + 1)).map fun i =>
                          Char.ofNat (low.toNat + i)
                        items fuel rest (.chars all :: found)
              | rest => items fuel rest (.chars [low] :: found)

/-- The characters of some items. An item that is repeated as often as needed fills up to some
size. -/
def expandItems (found : List Item) (size : Nat) : List Char :=
  let fixed := total (found.map fun item => match item with
    | .chars cs => cs.length
    | .named name => (members name).length
    | .many _ count => count)
  found.flatMap fun item => match item with
    | .chars cs => cs
    | .named name => members name
    | .many c 0 => List.replicate (size - fixed) c
    | .many c count => List.replicate count c

/-- Pairs of characters with what is written in their place, from lists of the same form. -/
def pairs (source target : List Item) (first second : List Char) : List (Char × Char) :=
  /- Letters of one case that stand against letters of the other one. -/
  let casePairs : List (Char × Char) := ((source.zip target).flatMap fun e => match e with
    | (.named "lower", .named "upper") => (members "lower").map fun c => (c, c.toUpper)
    | (.named "upper", .named "lower") => (members "upper").map fun c => (c, c.toLower)
    | _ => [])
  let hasCase := !casePairs.isEmpty
  let plain (found : List Item) (size : Nat) : List Char :=
    expandItems (found.filter fun item => match item with
      | .named name => name ≠ "lower" && name ≠ "upper"
      | _ => true) size
  let first := if hasCase then plain source 0 else first
  let second := if hasCase then plain target first.length else second
  let second := match second.getLast? with
    | some c => second ++ List.replicate (first.length - second.length) c
    | none => []
  casePairs ++ first.zip second

/-- A table with an entry for each octet. -/
def table {α : Type} (f : Char → α) : Array α := (octets.map f).toArray

/-- How characters are worked on, one after the other: a character that is left out, one that is
written in its place, and whether a run of it is written once. -/
structure Rule where
  drops : Array Bool
  writes : Array Char
  squeezes : Array Bool

/-- Work on a block; the state is the character that was written last. -/
def step (r : Rule) (last : Option Char) (block : String) : Option Char × String :=
  let (last, out) := block.foldl (fun (last, out) c =>
    let i := c.toNat
    if r.drops.getD i false then (last, out)
    else
      let d := r.writes.getD i c
      if last = some d && r.squeezes.getD d.toNat false then (last, out)
      else (some d, d :: out)) (last, ([] : List Char))
  (last, String.ofList out.reverse)

end Translation

open Translation in
/-- Translate, leave out or squeeze the characters of the input. -/
def tr : Utility Nat := do
  let o ← options
    { letters := "cCdst"
      names := [("complement", 'c'), ("delete", 'd'), ("squeeze-repeats", 's'),
        ("truncate-set1", 't')]
      inFront := true }
  let deletes := o.has 'd'
  let squeezes := o.has 's'
  let advise (text more : String) : Utility Unit := do
    complain text
    Act.put 2 more
    adviseHelp
    leave 1
  let needsTwo := deletes = squeezes
  match o.operands with
  | [] => misuse "missing operand"
  | [one] =>
      if needsTwo then
        advise ("missing operand after " ++ quoted one)
          (if deletes then
            "Two strings must be given when both deleting and squeezing repeats.\n"
          else "Two strings must be given when translating.\n")
  | [_, two] =>
      if deletes && !squeezes then
        advise ("extra operand " ++ quoted two)
          "Only one string may be given when deleting without squeezing repeats.\n"
  | _ :: _ :: extra :: _ => misuse ("extra operand " ++ quoted extra)
  let read (text : String) : Utility (List Item) := do
    match items (text.length + 1) text.toList [] with
    | .ok found => return found
    | .error e => do
        complain e
        leave 1
  let source ← read (o.operands.getD 0 "")
  let target ← read (o.operands.getD 1 "")
  let isComplement := o.has 'c' || o.has 'C'
  let listed := expandItems source 0
  let first := if isComplement then octets.filter (!listed.contains ·) else listed
  let second := expandItems target first.length
  let inFirst := table first.contains
  let never := table fun _ => false
  let same := table id
  let rule ← do
    if deletes then
      pure { drops := inFirst, writes := same,
             squeezes := if squeezes then table second.contains else never : Rule }
    else if o.operands.length = 1 then
      pure { drops := never, writes := same, squeezes := inFirst }
    else
      let isWrong := target.any fun item => match item with
        | .named name => name ≠ "lower" && name ≠ "upper"
        | _ => false
      if isWrong then
        complain ("when translating, the only character classes that may appear in\n" ++
          "string2 are 'upper' and 'lower'")
        leave 1
      if second.isEmpty && !o.has 't' then
        complain "when not truncating set1, string2 must be non-empty"
        leave 1
      let first := if o.has 't' then first.take second.length else first
      let found :=
        if isComplement then pairs [] [] first second else pairs source target first second
      let writes := found.foldl (fun (t : Array Char) (c, d) => t.setIfInBounds c.toNat d) same
      pure { drops := never, writes := writes,
             squeezes := if squeezes then table second.contains else never }
  let _ ← copyBlocks 0 (step rule) Act.rounds none
  return 0

end ScaffoldRunner.Utility
