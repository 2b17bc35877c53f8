import ScaffoldRunner.Pattern.Basic

/-!
# Where a pattern matches

The ways in which a pattern matches from a place are listed in order of preference: `places` gives
the place that each of them ends at. Two ways to the same place count once, as the first of them,
since all that follows is the same for both.
-/

namespace ScaffoldRunner.Pattern

/-- A place that has been reached in a text: the position, and for each group where it has started
and where it has ended last. -/
structure Place where
  position : Nat
  slots : Array (Option Nat) := #[]
  deriving DecidableEq, Inhabited

/-- The places that have been seen, by position, each with the number of repetitions left. -/
abbrev Seen := Array (List (Option Nat × Array (Option Nat)))

namespace Seen

/-- Nothing has been seen in a text of some size. -/
def nothing (size : Nat) : Seen := Array.replicate (size + 1) []

def has (seen : Seen) (left : Option Nat) (p : Place) : Bool :=
  (seen.getD p.position []).contains (left, p.slots)

def add (seen : Seen) (left : Option Nat) (p : Place) : Seen :=
  seen.modify p.position fun known => (left, p.slots) :: known

end Seen

/-- The places without those that have come before. -/
def distinctPlaces (size : Nat) (places : List Place) : List Place :=
  let (_, found) := places.foldl (fun (seen, found) p =>
    if seen.has none p then (seen, found) else (seen.add none p, p :: found))
    (Seen.nothing size, [])
  found.reverse

def goOn (size : Nat) (step : Place → List Place) : List Place → List Place
  | [] => []
  | [p] => step p
  | places => distinctPlaces size (places.flatMap step)

def exactly (size : Nat) (step : Place → List Place) : Nat → List Place → List Place
  | _, [] => []
  | 0, places => places
  | n + 1, places => exactly size step n (goOn size step places)

/-- The places after any number of steps, at most `left` if that is given, in reverse order of
preference. Steps without a limit have to go on in the text. -/
def onward (step : Place → List Place) (greedy : Bool) :
    Nat → Option Nat → Seen × List Place → Place → Seen × List Place
  | 0, _, (seen, found), p => (seen, p :: found)
  | fuel + 1, left, (seen, found), p =>
      if seen.has left p then (seen, found)
      else
        let seen := seen.add left p
        if left = some 0 then (seen, p :: found)
        else
          let next := (step p).filter fun q => left.isSome || p.position < q.position
          let left := left.map (· - 1)
          if greedy then
            let (seen, found) := next.foldl (onward step greedy fuel left) (seen, found)
            (seen, p :: found)
          else next.foldl (onward step greedy fuel left) (seen, p :: found)

/-- Whether a condition holds at a position. -/
def holdsAt (text : Array Char) (e : Edge) (i : Nat) : Bool :=
  let before (s : CharSet) : Bool := if i = 0 then false else (text[i - 1]?).any s.has
  let after (s : CharSet) : Bool := (text[i]?).any s.has
  match e with
  | .textStart => i = 0
  | .textEnd => i = text.size
  | .lineStart => i = 0 || before (.one '\n')
  | .lineEnd => i = text.size || after (.one '\n')
  | .wordEdge word => before word != after word
  | .noWordEdge word => before word == after word
  | .wordStart word => !before word && after word
  | .wordEnd word => before word && !after word

def groupText? (text : Array Char) (slots : Array (Option Nat)) (number : Nat) :
    Option (List Char) :=
  match slots.getD (2 * number) none, slots.getD (2 * number + 1) none with
  | some start, some stop =>
      if start ≤ stop then some (text.extract start stop).toList else none
  | _, _ => none

/-- The places where a match from a place can end, in order of preference. -/
def places (text : Array Char) : Pattern → Place → List Place
  | nothing, p => [p]
  | chars s, p =>
      if (text[p.position]?).any s.has then [{ p with position := p.position + 1 }] else []
  | edge e, p => if holdsAt text e p.position then [p] else []
  | seq first second, p => goOn text.size (places text second) (places text first p)
  | alt first second, p =>
      match places text first p, places text second p with
      | found, [] => found
      | [], found => found
      | found, others => distinctPlaces text.size (found ++ others)
  | repeated inner least most greedy, p =>
      let step := places text inner
      let left := most.map (· - least)
      let fuel := left.getD text.size + 1
      let (_, found) := (exactly text.size step least [p]).foldl
        (onward step greedy fuel left) (Seen.nothing text.size, [])
      distinctPlaces text.size found.reverse
  | group number inner, p =>
      let start := { p with slots := p.slots.setIfInBounds (2 * number) (some p.position) }
      (places text inner start).map fun q =>
        { q with slots := q.slots.setIfInBounds (2 * number + 1) (some q.position) }
  | same number, p =>
      match groupText? text p.slots number with
      | none => []
      | some word =>
          let stop := p.position + word.length
          if (text.extract p.position stop).toList = word then [{ p with position := stop }]
          else []
  | look back wanted inner, p =>
      let found := match back with
        | none => places text inner p
        | some n =>
            if p.position < n then []
            else places text inner { p with position := p.position - n }
      match found, wanted with
      | q :: _, true => [{ p with slots := q.slots }]
      | [], false => [p]
      | _, _ => []
  | atomic inner, p => (places text inner p).take 1

/-- The place where a text is entered, with room for the groups of a pattern. -/
def entry (groups : Nat) (position : Nat) : Place :=
  ⟨position, Array.replicate (2 * groups) none⟩

/-- Whether the pattern matches somewhere in a text. -/
def matchesIn (p : Pattern) (text : String) : Bool :=
  let cs := text.toList.toArray
  let groups := if p.refersBack then p.groupCount + 1 else 0
  (List.range (cs.size + 1)).any fun i => !(places cs p (entry groups i)).isEmpty

end ScaffoldRunner.Pattern
