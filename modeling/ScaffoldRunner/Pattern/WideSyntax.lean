import ScaffoldRunner.Pattern.ClassSyntax
import ScaffoldRunner.Pattern.PlainSyntax
import ScaffoldRunner.Text.Search

/-!
# The wide grammar of patterns

The wide grammar looks around, refers back and keeps groups whole. It is lenient: braces that hold
no bounds stand for themselves, and most escapes do too. Flags change what follows them, up to the
end of a group that sets them for itself, else up to the end of the pattern.

A pattern is looked at by the plain grammar first and then read by the wide one. Patterns that
would take too much room are refused.
-/

namespace ScaffoldRunner.Pattern.Wide

structure Flags where
  /-- Letter case does not matter. -/
  fold : Bool := false
  /-- Lines have their own starts and ends. -/
  lines : Bool := false
  /-- A point is any character, also the end of a line. -/
  dotAll : Bool := false
  /-- Repetitions try fewer turns first. -/
  swapped : Bool := false
  /-- Blanks and comments do not count. -/
  spaced : Bool := false

/-- What is known while a pattern is read. -/
structure Reading where
  flags : Flags := {}
  /-- The number of groups so far. -/
  groups : Nat := 0
  names : List (List Char × Nat) := []
  /-- Whether a group has been referred to by its number. -/
  numbered : Bool := false
  /-- The number of bytes of the whole pattern. -/
  size : Nat

/-- A part of a pattern, and what may be done with it. -/
inductive Piece where
  | empty
  /-- It stands at a position and cannot be repeated. -/
  | fixed (p : Pattern)
  | free (p : Pattern)

namespace Piece

def pattern : Piece → Pattern
  | empty => .nothing
  | fixed p | free p => p

end Piece

/-- What a reader returns: what was read, what is known then, and what follows. -/
abbrev Read := Option (Piece × Reading × List Char)

/-- Drop a comment in parentheses up to its end. -/
def dropComment? : List Char → Option (List Char)
  | [] => none
  | ')' :: rest => some rest
  | '\\' :: _ :: rest => dropComment? rest
  | _ :: rest => dropComment? rest

/-- Drop comments, and blanks where they do not count. -/
def skipSpace? (spaced : Bool) : Nat → List Char → Option (List Char)
  | 0, cs => some cs
  | fuel + 1, cs =>
      match cs with
      | '(' :: '?' :: '#' :: rest => (dropComment? rest).bind (skipSpace? spaced fuel)
      | '#' :: rest =>
          if spaced then skipSpace? spaced fuel ((rest.dropWhile (· ≠ '\n')).drop 1) else some cs
      | c :: rest =>
          if spaced && (c = ' ' || c = '\r' || c = '\n' || c = '\t') then
            skipSpace? spaced fuel rest
          else some cs
      | [] => some []

/-- Drop comments, and blanks where they do not count. -/
def skip? (r : Reading) (cs : List Char) : Option (List Char) :=
  skipSpace? r.flags.spaced (cs.length + 1) cs

def charPattern (flags : Flags) (c : Char) : Pattern := .chars (.foldedIf flags.fold (.one c))

/-- Bounds of repetitions after their opening brace. -/
def bounds? (r : Reading) (cs : List Char) : Option (Nat × Option Nat × List Char) := do
  let number? (cs : List Char) : Option (Nat × List Char) :=
    let ds := cs.takeWhile Char.isDigit
    if ds.isEmpty then none
    else some (ds.foldl (fun n d => n * 10 + (d.toNat - '0'.toNat)) 0, cs.drop ds.length)
  let cs ← skip? r cs
  let (least, cs) ← if cs.head? = some ',' then some (0, cs) else number? cs
  let cs ← skip? r cs
  let (most, cs) ← match cs with
    | ',' :: cs => do
        let cs ← skip? r cs
        match number? cs with
        | some (n, cs) => some (some n, cs)
        | none => some (none, cs)
    | cs => some (some least, cs)
  match ← skip? r cs with
  | '}' :: rest => some (least, most, rest)
  | _ => none

def name? (opening closing : List Char) (cs : List Char) : Option (List Char × List Char) := do
  let cs ← Text.afterPrefix? opening cs
  let name := cs.takeWhile fun c => c = '_' || c = '-' || Unicode.Property.alphanumeric.has c
  let rest ← Text.afterPrefix? closing (cs.drop name.length)
  if name.isEmpty then none else some (name, rest)

/-- The number of a group that has been named or numbered, counting back from the last one if the
number is negative. -/
def groupOf? (r : Reading) (name : List Char) : Option Nat :=
  match r.names.find? fun e => e.1 = name with
  | some (_, n) => some n
  | none =>
      match (String.ofList name).toInt? with
      | some i => if 0 ≤ i then some i.toNat else
          let n := Int.ofNat r.groups + i + 1
          if 0 ≤ n then some n.toNat else none
      | none => none

/-- A reference to a group that has been opened. -/
def reference? (r : Reading) (n : Nat) (rest : List Char) : Read :=
  if n ≤ r.groups then some (.free (.same n), r, rest) else none

/-- The set that an escaped letter stands for, outside and between brackets. -/
def classLetter? (c : Char) : Option CharSet :=
  let s? : Option CharSet := match c.toLower with
    | 'd' => some (.such .digit)
    | 's' => some (.such .blank)
    | 'w' => some (.such .word)
    | 'h' => some (.union .digits (.union (.range 'a' 'f') (.range 'A' 'F')))
    | _ => none
  s?.map (.complIf c.isUpper)

/-- The set of a property behind `\p` or `\P`. -/
def property? (negated fold : Bool) (cs : List Char) : Option (CharSet × List Char) := do
  let (name, rest) ← match cs with
    | '{' :: cs =>
        let name := cs.takeWhile (· ≠ '}')
        match cs.drop name.length with
        | _ :: rest => some (name, rest)
        | [] => none
    | c :: rest => some ([c], rest)
    | [] => none
  let kind := name.takeWhile fun c => c ≠ '=' && c ≠ ':'
  let unequal := kind.getLast? = some '!' && kind.length < name.length
  let property ← if kind.length = name.length then Unicode.Property.ofName? (String.ofList name)
    else
      Unicode.Property.ofValue? (String.ofList (if unequal then kind.dropLast else kind))
        (String.ofList (name.drop (kind.length + 1)))
  return (.complIf (negated != unequal) (.foldedIf fold (.such property)), rest)

/-- The character that an escape stands for, outside and between brackets. -/
def charEscape? (inClass : Bool) (cs : List Char) : Option (Char × List Char) :=
  match cs with
  | [] => none
  | c :: rest =>
      match c with
      | 'x' => Plain.hexEscape? 2 rest
      | 'u' => Plain.hexEscape? 4 rest
      | 'U' => Plain.hexEscape? 8 rest
      | 'a' => some ('\x07', rest)
      | 'f' => some ('\x0c', rest)
      | 'n' => some ('\n', rest)
      | 'r' => some ('\r', rest)
      | 't' => some ('\t', rest)
      | 'v' => some ('\x0b', rest)
      | 'e' => some ('\x1b', rest)
      | 'b' => if inClass then some ('\x08', rest) else none
      | c => if c.isAlphanum then none else some (c, rest)

/-- The condition that an escaped character stands for. -/
def edge? : Char → Option Edge
  | 'A' => some .textStart
  | 'G' => some .textStart
  | 'z' => some .textEnd
  | 'b' => some (.wordEdge (.such .word))
  | 'B' => some (.noWordEdge (.such .word))
  | '<' => some (.wordStart (.such .word))
  | '>' => some (.wordEnd (.such .word))
  | _ => none

/-- Read an escape outside of brackets, behind its backslash. -/
def escape? (r : Reading) (cs : List Char) : Option (Piece × Reading × List Char) := do
  let c :: rest := cs | none
  if c.isDigit then
    let ds := cs.takeWhile Char.isDigit
    let n := ds.foldl (fun n d => n * 10 + (d.toNat - '0'.toNat)) 0
    if n < r.size / 2 then reference? { r with numbered := true } n (cs.drop ds.length) else none
  else if c = 'k' then
    let marks := if rest.head? = some '\'' then (['\''], ['\'']) else (['<'], ['>'])
    let (name, rest) ← name? marks.1 marks.2 rest
    reference? r (← groupOf? r name) rest
  else if c = 'K' then some (.free .nothing, r, rest)
  else if c = 'Z' then
    some (.fixed (.look none true (.seq (.repeated (char '\n') 0 (some 1) true) (.edge .textEnd))),
      r, rest)
  else
    match edge? c with
    | some e =>
        if (c = 'b' ∨ c = 'B') ∧ rest.head? = some '{' then none
        else some (.fixed (.edge e), r, rest)
    | none =>
        match classLetter? c with
        | some s => some (.free (.chars s), r, rest)
        | none =>
            if c = 'p' ∨ c = 'P' then
              (property? (c = 'P') r.flags.fold rest).map fun (s, rest) =>
                (.free (.chars s), r, rest)
            else
              (charEscape? false cs).map fun (c, rest) => (.free (charPattern r.flags c), r, rest)

/-- Split what stands between brackets into signs, up to the closing bracket; `depth` brackets are
open. -/
def classSigns? (fold : Bool) :
    Nat → Nat → List ClassSign → List Char → Option (List ClassSign × List Char)
  | 0, _, _, _ => none
  | fuel + 1, depth, found, cs =>
      match cs with
      | [] => none
      | '\\' :: cs =>
          let classy? : Option (CharSet × List Char) := match cs with
            | [] => none
            | c :: rest =>
                if c = 'p' ∨ c = 'P' then property? (c = 'P') fold rest
                else (classLetter? c).map fun s => (s, rest)
          match classy? with
          | some (s, rest) => classSigns? fold fuel depth (.set s :: found) rest
          | none =>
              match charEscape? true cs with
              | some (c, rest) => classSigns? fold fuel depth (.literal c :: found) rest
              | none => none
      | '[' :: rest => classSigns? fold fuel (depth + 1) (.plain '[' :: found) rest
      | ']' :: rest =>
          if depth ≤ 1 then some (found.reverse, rest)
          else classSigns? fold fuel (depth - 1) (.plain ']' :: found) rest
      | c :: rest => classSigns? fold fuel depth (.plain c :: found) rest

/-- Read a set after its opening bracket. -/
def class? (r : Reading) (cs : List Char) : Option (Piece × Reading × List Char) := do
  let (front, cs) : List ClassSign × List Char := match cs with
    | '^' :: ']' :: cs => ([.literal ']', .plain '^'], cs)
    | '^' :: cs => ([.plain '^'], cs)
    | ']' :: cs => ([.literal ']'], cs)
    | cs => ([], cs)
  let (signs, rest) ← classSigns? r.flags.fold (cs.length + 1) 1 front cs
  let s ← classOf? r.flags.fold signs
  return (.free (.chars s), r, rest)

/-- A pattern that looks behind: its width is fixed, or that of each of its alternatives. -/
def behind? (wanted : Bool) (p : Pattern) : Option Pattern :=
  match p, p.width? with
  | p, some n => some (.look (some n) wanted p)
  | .alt p q, none => do
      let p ← behind? wanted p
      let q ← behind? wanted q
      return if wanted then .alt p q else .seq p q
  | _, none => none

/-- The flags in front of a colon or a parenthesis. -/
def flags? : Nat → Reading → Bool → Bool → List Char → Option (Reading × List Char)
  | 0, _, _, _, _ => none
  | fuel + 1, r, negated, first, cs => do
      let c :: rest ← skip? r cs | none
      let set (flags : Flags) : Option (Reading × List Char) :=
        flags? fuel { r with flags := flags } negated false rest
      match c with
      | 'i' => set { r.flags with fold := !negated }
      | 'm' => set { r.flags with lines := !negated }
      | 's' => set { r.flags with dotAll := !negated }
      | 'U' => set { r.flags with swapped := !negated }
      | 'x' => set { r.flags with spaced := !negated }
      | 'u' => if negated then none else set r.flags
      | '-' => if negated then none else flags? fuel r true first rest
      | ')' => if first then none else some (r, c :: rest)
      | ':' => if first && negated then none else some (r, c :: rest)
      | _ => none

/-- The parts of a sequence as one part. -/
def sequence : List Piece → Piece
  | [] => .empty
  | [p] => p
  | p :: ps => .free (ps.foldl (fun q p => .seq q p.pattern) p.pattern)

inductive GroupKind where
  | look (ahead wanted : Bool)
  | atomic
  | capture

/-- The start of a group, after its parenthesis; `none` when only flags can follow. -/
def groupKind? (r : Reading) (cs : List Char) : Option (Option (GroupKind × Reading) × List Char) :=
  let number := r.groups + 1
  let named (name? : Option (List Char × List Char)) :
      Option (Option (GroupKind × Reading) × List Char) :=
    name?.bind fun (name, rest) =>
      if name.contains '-' then none
      else
        some (some (.capture, { r with
          groups := number
          names := (name, number) :: r.names }), rest)
  match cs with
  | '?' :: '=' :: rest => some (some (.look true true, r), rest)
  | '?' :: '!' :: rest => some (some (.look true false, r), rest)
  | '?' :: '<' :: '=' :: rest => some (some (.look false true, r), rest)
  | '?' :: '<' :: '!' :: rest => some (some (.look false false, r), rest)
  | '?' :: '<' :: _ => named (name? ['<'] ['>'] (cs.drop 1))
  | '?' :: '\'' :: _ => named (name? ['\''] ['\''] (cs.drop 1))
  | '?' :: 'P' :: '<' :: _ => named (name? ['<'] ['>'] (cs.drop 2))
  | '?' :: '>' :: rest => some (some (.atomic, r), rest)
  | '?' :: rest => some (none, rest)
  | cs => some (some (.capture, { r with groups := number }), cs)

/-- The deepest nesting of groups. -/
def maxDepth : Nat := 63

/-- A repetition of a part, as its marks say. -/
def repeatedPiece (r : Reading) (p : Pattern) (least : Nat) (most : Option Nat) (cs : List Char) :
    Option (Piece × Reading × List Char) := do
  if most.any fun most => most < least then none
  else
    let (lazyMark, cs) := match ← skip? r cs with
      | '?' :: cs => (true, cs)
      | cs => (false, cs)
    let greedy := if lazyMark then false else !r.flags.swapped
    let p : Pattern := .repeated p least most greedy
    match cs with
    | '+' :: cs => some (.free (.atomic p), r, cs)
    | cs => some (.free p, r, cs)

mutual

/-- Read alternatives. Groups must not be both named and referred to by number, unless there are
several alternatives. -/
def alternatives? : Nat → Nat → Reading → List Char → Read
  | 0, _, _, _ => none
  | fuel + 1, depth, r, cs =>
      match branch? fuel depth r [] cs with
      | none => none
      | some (first, r, cs) =>
          match skip? r cs with
          | some ('|' :: rest) => others? fuel depth r first.pattern rest
          | some cs => if r.numbered && !r.names.isEmpty then none else some (first, r, cs)
          | none => none

/-- Read the alternatives behind a bar. -/
def others? : Nat → Nat → Reading → Pattern → List Char → Read
  | 0, _, _, _, _ => none
  | fuel + 1, depth, r, before, cs =>
      match branch? fuel depth r [] cs with
      | none => none
      | some (next, r, cs) =>
          match skip? r cs with
          | some ('|' :: rest) => others? fuel depth r (.alt before next.pattern) rest
          | some cs => some (.free (.alt before next.pattern), r, cs)
          | none => none

def branch? : Nat → Nat → Reading → List Piece → List Char → Read
  | 0, _, _, _, _ => none
  | fuel + 1, depth, r, found, cs =>
      match piece? fuel depth r cs with
      | none => none
      | some (p, r, rest) =>
          if cs.length ≤ rest.length then some (sequence found.reverse, r, cs)
          else
            match p with
            | .empty => branch? fuel depth r found rest
            | p => branch? fuel depth r (p :: found) rest

/-- Read a part with its marks of repetition. -/
def piece? : Nat → Nat → Reading → List Char → Read
  | 0, _, _, _ => none
  | fuel + 1, depth, r, cs =>
      match atom? fuel depth r cs with
      | none => none
      | some (p, r, rest) =>
          let marked (least : Nat) (most : Option Nat) (rest : List Char) : Read :=
            match p with
            | .free p => repeatedPiece r p least most rest
            | _ => none
          match skip? r rest with
          | none => none
          | some ('?' :: rest) => marked 0 (some 1) rest
          | some ('*' :: rest) => marked 0 none rest
          | some ('+' :: rest) => marked 1 none rest
          | some ('{' :: after) =>
              match bounds? r after with
              | some (least, most, rest) => marked least most rest
              | none => some (p, r, '{' :: after)
          | some rest => some (p, r, rest)

/-- Read a part without marks. -/
def atom? : Nat → Nat → Reading → List Char → Read
  | 0, _, _, _ => none
  | fuel + 1, depth, r, cs =>
      match skip? r cs with
      | none => none
      | some [] => some (.empty, r, [])
      | some (c :: rest) =>
          let edge (e : Edge) : Read := some (.fixed (.edge e), r, rest)
          match c with
          | '.' =>
              let s := if r.flags.dotAll then .all else .compl (.one '\n')
              some (.free (.chars s), r, rest)
          | '^' => edge (if r.flags.lines then .lineStart else .textStart)
          | '$' => edge (if r.flags.lines then .lineEnd else .textEnd)
          | '(' => group? fuel (depth + 1) r rest
          | '\\' => escape? r rest
          | '[' => class? r rest
          | '+' | '*' | '?' | '|' | ')' => some (.empty, r, c :: rest)
          | c => some (.free (charPattern r.flags c), r, rest)

/-- Read a group after its opening parenthesis. -/
def group? : Nat → Nat → Reading → List Char → Read
  | 0, _, _, _ => none
  | fuel + 1, depth, r, cs =>
      if maxDepth < depth then none
      else
        match (skip? r cs).bind (groupKind? r) with
        | none => none
        | some (some (kind, r), cs) =>
            let number := r.groups
            match alternatives? fuel depth r cs, kind with
            | some (p, r, ')' :: rest), .look true wanted =>
                some (.fixed (.look none wanted p.pattern), r, rest)
            | some (p, r, ')' :: rest), .look false wanted =>
                (behind? wanted p.pattern).map fun p => (.fixed p, r, rest)
            | some (p, r, ')' :: rest), .atomic => some (.free (.atomic p.pattern), r, rest)
            | some (p, r, ')' :: rest), .capture =>
                some (.free (.group number p.pattern), r, rest)
            | _, _ => none
        | some (none, cs) =>
            let outer := r.flags
            match flags? (cs.length + 1) r false true cs with
            | some (r, ':' :: rest) =>
                match alternatives? fuel depth r rest with
                | some (p, r, ')' :: rest) => some (p, { r with flags := outer }, rest)
                | _ => none
            | some (r, ')' :: rest) => some (.empty, r, rest)
            | _ => none

end

def read? (text : List Char) : Option Pattern :=
  let r : Reading := { size := (String.ofList text).utf8ByteSize }
  match alternatives? (6 * text.length + 6) 0 r text with
  | some (p, _, []) => some p.pattern
  | _ => none

end ScaffoldRunner.Pattern.Wide

namespace ScaffoldRunner.Pattern

/-- The number of states that a pattern takes, about. -/
def stateCount : Pattern → Nat
  | nothing | same _ => 1
  | chars (.range low high) => if low = high then low.utf8Size else 1
  | chars (.compl _) => 8
  | chars _ => 2
  | edge _ => 1
  | seq p q | alt p q => p.stateCount + q.stateCount
  | repeated p least most _ =>
      let turns := max 1 (most.getD (least + 1))
      turns * (p.stateCount + (if most = some least then 0 else 1))
  | group _ p => p.stateCount + 2
  | look _ _ p | atomic p => p.stateCount

/-- The largest number of states. -/
def maxStates : Nat := 327680

def parse? (text : String) : Option Pattern := do
  let cs := text.toList
  let p ← match Plain.rewrite cs with
    | .ok cs => Wide.read? cs
    | .error .beyond => Wide.read? cs
    | .error .unreadable => none
  if p.stateCount ≤ maxStates then some p else none

end ScaffoldRunner.Pattern
