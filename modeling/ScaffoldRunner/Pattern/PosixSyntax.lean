import ScaffoldRunner.Pattern.Matching

/-!
# Patterns of line tools

The two grammars of patterns that tools which work on lines have in common: a basic one, where most
operators are marked by a backslash, and an extended one, where they are not. Patterns are on
octets. Of all ways to match, the one that begins first counts, and of those the longest.
-/

namespace ScaffoldRunner.Pattern

namespace Posix

/-- Which grammar is meant, and what does not depend on the pattern itself. -/
structure Grammar where
  extended : Bool
  /-- Letter case does not matter. -/
  fold : Bool := false
  /-- The ends of lines within the text count as its ends, too. -/
  lines : Bool := false
  /-- A backslash lets a character stand for itself or for a control character, in sets, too. -/
  controls : Bool := false

structure State where
  rest : List Char
  /-- How many groups were opened. -/
  groups : Nat := 0
  /-- The groups that were closed. -/
  closed : List Nat := []
  /-- The operators that stand where there is nothing to repeat. -/
  loose : List Char := []
  /-- How deep the place is in groups. -/
  depth : Nat := 0

/-- A step of reading a pattern; the error is what is said about it. -/
abbrev Read := EStateM String State

/-- A set with the letters of both cases, if case does not matter. -/
def folded (g : Grammar) (s : CharSet) : CharSet :=
  if g.fold then .union s (.folded (.inter s CharSet.letters)) else s

def charPattern (g : Grammar) (c : Char) : Pattern :=
  .chars (if g.fold && c.isAlpha then .ofList [c.toLower, c.toUpper] else .one c)

/-- What is said about a bracket that is not closed. -/
def openBracket : String := "Unmatched [, [^, [:, [., or [="

/-- The characters that letters after a backslash stand for, where there are such. -/
def controlLetters : List (Char × Char) :=
  [('n', '\n'), ('t', '\t'), ('r', '\r'), ('f', '\x0c'), ('v', '\x0b'), ('a', '\x07'),
    ('b', '\x08')]

/-- What a backslash and the characters after it stand for, where it may be a control character or
the number of a character. -/
def controlled (c : Char) (rest : List Char) : Char × List Char :=
  let isOctal (c : Char) : Bool := '0' ≤ c && c ≤ '7'
  if isOctal c then
    let digits := ((c :: rest).take 3).takeWhile isOctal
    (Char.ofNat (digits.foldl (fun n d => n * 8 + (d.toNat - 48)) 0 % 256),
      (c :: rest).drop digits.length)
  else (((controlLetters.find? fun e => e.1 = c).map (·.2)).getD c, rest)

/-- A character of a set, which may stand between brackets and points. -/
def setChar? (g : Grammar) (cs : List Char) : Except String (Char × List Char) :=
  match cs with
  | [] => .error openBracket
  | '[' :: '.' :: c :: '.' :: ']' :: rest => .ok (c, rest)
  | '[' :: '=' :: c :: '=' :: ']' :: rest => .ok (c, rest)
  | '\\' :: c :: rest => .ok (if g.controls then controlled c rest else ('\\', c :: rest))
  | c :: rest => .ok (c, rest)

/-- The items of a set up to its closing bracket. -/
def setItems (g : Grammar) : Nat → Bool → List Char → CharSet → Except String (CharSet × List Char)
  | 0, _, _, _ => .error openBracket
  | fuel + 1, isFirst, cs, found =>
      match cs with
      | [] => .error openBracket
      | ']' :: rest =>
          if isFirst then item fuel cs found
          else .ok (found, rest)
      | '[' :: ':' :: rest =>
          let name := rest.takeWhile fun c => c ≠ ':' && c ≠ ']'
          match rest.drop name.length with
          | ':' :: ']' :: more =>
              match CharSet.named? (String.ofList name) with
              | some s =>
                  let s := if g.fold && (name = "upper".toList || name = "lower".toList) then
                    CharSet.letters else s
                  setItems g fuel false more (.union found s)
              | none => .error "Invalid character class name"
          | _ => .error openBracket
      | cs => item fuel cs found
where
  item (fuel : Nat) (cs : List Char) (found : CharSet) : Except String (CharSet × List Char) := do
    let (low, rest) ← setChar? g cs
    match rest with
    | '-' :: ']' :: _ => setItems g fuel false rest (.union found (.one low))
    | '-' :: more => do
        if more.isEmpty then throw openBracket
        let (high, rest) ← setChar? g more
        if high < low then throw "Invalid range end"
        setItems g fuel false rest (.union found (.range low high))
    | rest => setItems g fuel false rest (.union found (.one low))

/-- The set after an opening bracket. -/
def charSet (g : Grammar) (cs : List Char) : Except String (CharSet × List Char) := do
  let (negated, cs) : Bool × List Char := match cs with
    | '^' :: rest => (true, rest)
    | cs => (false, cs)
  if cs.isEmpty then throw "Invalid regular expression"
  let (s, rest) ← setItems g (cs.length + 1) true cs .empty
  return (CharSet.complIf negated (folded g s), rest)

/-- The numbers of an interval and what follows it: at least, and at most if there is a limit. -/
def interval? (g : Grammar) (cs : List Char) :
    Except (Option String) (Nat × Option Nat × List Char) :=
  let value (ds : List Char) : Nat := ds.foldl (fun n c => n * 10 + (c.toNat - 48)) 0
  let low := cs.takeWhile Char.isDigit
  let rest := cs.drop low.length
  let (high, hasComma, rest) : List Char × Bool × List Char := match rest with
    | ',' :: more => (more.takeWhile Char.isDigit, true, more.dropWhile Char.isDigit)
    | rest => ([], false, rest)
  let close (cs : List Char) : Option (List Char) :=
    match g.extended, cs with
    | true, '\x7d' :: rest => some rest
    | false, '\\' :: '\x7d' :: rest => some rest
    | _, _ => none
  match close rest with
  | none =>
      .error (if g.extended then none
        else if rest.isEmpty || rest = ['\\'] then some "Unmatched \\\x7b"
        else some "Invalid content of \\\x7b\\\x7d")
  | some rest =>
      let least := value low
      let most : Option Nat := if !hasComma then some least
        else if high.isEmpty then none
        else some (value high)
      if low.isEmpty && !hasComma then
        .error (if g.extended then none else some "Invalid content of \\\x7b\\\x7d")
      else if most.any (· < least) then .error (some "Invalid content of \\\x7b\\\x7d")
      else if 32767 < least || most.any (32767 < ·) then .error (some "Regular expression too big")
      else .ok (least, most, rest)

/-- Set what is left to read. -/
def goTo (rest : List Char) : Read Unit := modify fun s => { s with rest := rest }

/-- The operator of repetition at the front, if there is one: at least, at most, and the operator
itself. -/
def repetition? (g : Grammar) : Read (Option (Nat × Option Nat × Char)) := do
  let cs := (← get).rest
  let known (least : Nat) (most : Option Nat) (sign : Char) (rest : List Char) :
      Read (Option (Nat × Option Nat × Char)) := do
    goTo rest
    return some (least, most, sign)
  let counted (rest : List Char) : Read (Option (Nat × Option Nat × Char)) := do
    match interval? g rest with
    | .ok (least, most, rest) => known least most '\x7b' rest
    | .error none => return none
    | .error (some e) => throw e
  match g.extended, cs with
  | _, '*' :: rest => known 0 none '*' rest
  | true, '+' :: rest | false, '\\' :: '+' :: rest => known 1 none '+' rest
  | true, '?' :: rest | false, '\\' :: '?' :: rest => known 0 (some 1) '?' rest
  | true, '\x7b' :: rest | false, '\\' :: '\x7b' :: rest => counted rest
  | _, _ => return none

def repetitions (g : Grammar) : Nat → Pattern → Read Pattern
  | 0, p => return p
  | fuel + 1, p => do
      match ← repetition? g with
      | none => return p
      | some (least, most, _) => repetitions g fuel (.repeated p least most true)

def endsHere (g : Grammar) (depth : Nat) (cs : List Char) : Bool :=
  match g.extended, cs with
  | _, [] => true
  | true, '|' :: _ | false, '\\' :: '|' :: _ => true
  | true, ')' :: _ => depth ≠ 0
  | false, '\\' :: ')' :: _ => true
  | _, _ => false

/-- What a character after a backslash stands for. -/
def escaped (g : Grammar) (c : Char) : Read Pattern := do
  let word := CharSet.wordChars
  let space : CharSet := .union (.range '\t' '\r') (.one ' ')
  match c with
  | 'w' => return .chars word
  | 'W' => return .chars (.compl word)
  | 's' => return .chars space
  | 'S' => return .chars (.compl space)
  | 'b' => return .edge (.wordEdge word)
  | 'B' => return .edge (.noWordEdge word)
  | '<' => return .edge (.wordStart word)
  | '>' => return .edge (.wordEnd word)
  | '\'' => return .edge .textEnd
  | c =>
      if c = Char.ofNat 96 then return .edge .textStart
      else if '1' ≤ c && c ≤ '9' then
        let n := c.toNat - 48
        if (← get).closed.contains n then return .same n else throw "Invalid back reference"
      else return charPattern g c

mutual

/-- Alternatives, up to the end or a closing parenthesis. -/
def alternatives (g : Grammar) : Nat → Read Pattern
  | 0 => throw "Regular expression too big"
  | fuel + 1 => do
      let first ← branch g fuel true .nothing
      match g.extended, (← get).rest with
      | true, '|' :: rest | false, '\\' :: '|' :: rest => do
          goTo rest
          return .alt first (← alternatives g fuel)
      | _, _ => return first

/-- A sequence after what was read of it. -/
def branch (g : Grammar) : Nat → Bool → Pattern → Read Pattern
  | 0, _, _ => throw "Regular expression too big"
  | fuel + 1, isFirst, before => do
      let s ← get
      if endsHere g s.depth s.rest then return before
      else
        let p ← piece g fuel isFirst
        let isAnchor : Bool := match p with
          | .edge .textStart | .edge .lineStart => !g.extended && isFirst
          | _ => false
        branch g fuel isAnchor (match before with
          | .nothing => p
          | before => .seq before p)

/-- A character, a set or a group with what repeats it. -/
def piece (g : Grammar) : Nat → Bool → Read Pattern
  | 0, _ => throw "Regular expression too big"
  | fuel + 1, isFirst => do
      let s ← get
      let start : Edge := if g.lines then .lineStart else .textStart
      let stop : Edge := if g.lines then .lineEnd else .textEnd
      let repeated (p : Pattern) : Read Pattern := repetitions g fuel p
      let single (p : Pattern) (rest : List Char) : Read Pattern := do
        goTo rest
        repeated p
      let group (rest : List Char) : Read Pattern := do
        let number := s.groups + 1
        set { s with rest := rest, groups := number, depth := s.depth + 1 }
        let inner ← alternatives g fuel
        let after ← get
        let close (rest : List Char) : Read Pattern := do
          set { after with
            rest := rest, depth := s.depth, closed := number :: after.closed }
          repeated (.group number inner)
        match g.extended, after.rest with
        | true, ')' :: rest | false, '\\' :: ')' :: rest => close rest
        | _, _ => throw "Unmatched ( or \\("
      match s.rest with
      | [] => return .nothing
      | '\\' :: [] => throw "Trailing backslash"
      | '.' :: rest => single (.chars .all) rest
      | '[' :: rest => do
          match charSet g rest with
          | .ok (found, rest) => single (.chars found) rest
          | .error e => throw e
      | '\\' :: c :: rest =>
          if !g.extended && c = '(' then group rest
          else if !g.extended && c = '\x7b' then
            if isFirst then throw "Invalid preceding regular expression"
            else single (charPattern g c) rest
          else if g.controls then
            let (c, rest) := controlled c rest
            single (charPattern g c) rest
          else do
            let p ← escaped g c
            single p rest
      | '^' :: rest =>
          if g.extended then do
            goTo rest
            loose fuel (.edge start)
          else if isFirst then do
            goTo rest
            return .edge start
          else single (charPattern g '^') rest
      | '$' :: rest =>
          if g.extended then single (.edge stop) rest
          else if endsHere g 1 rest then single (.edge stop) rest
          else single (charPattern g '$') rest
      | '(' :: rest => if g.extended then group rest else single (charPattern g '(') rest
      | c :: rest =>
          if g.extended && isFirst && (c = '*' || c = '+' || c = '?') then
            loose fuel .nothing
          else single (charPattern g c) rest
where
  /-- Pass operators that have nothing to repeat. -/
  loose (fuel : Nat) (p : Pattern) : Read Pattern := do
    match fuel, (← get).rest with
    | fuel + 1, c :: rest =>
        if c = '*' || c = '+' || c = '?' then
          modify fun s => { s with rest := rest, loose := s.loose ++ [c] }
          loose fuel p
        else return p
    | _, _ => return p

end

/-- A pattern that was read, with how many groups it has and its loose operators. -/
structure Result where
  pattern : Pattern
  groups : Nat
  loose : List Char

def read (g : Grammar) (cs : List Char) : Except String Result :=
  match alternatives g (4 * cs.length + 8) { rest := cs } with
  | .ok p s =>
      if s.rest.isEmpty then .ok ⟨p, s.groups, s.loose⟩
      else .error "Unmatched ) or \\)"
  | .error e _ => .error e

end Posix

/-- A match in a text: where it starts, and where it ends with its groups. -/
structure Match where
  start : Nat
  place : Place

namespace Match

def stop (m : Match) : Nat := m.place.position

end Match

/-- The longest match that starts at a place. -/
def longestAt? (text : Array Char) (groups : Nat) (p : Pattern) (start : Nat) : Option Match :=
  let found := places text p (entry groups start)
  found.foldl (fun best place =>
    match best with
    | some m => if m.place.position < place.position then some ⟨start, place⟩ else best
    | none => some ⟨start, place⟩) none

/-- The first match from some place on, and of those that start there the longest. -/
def firstMatch? (text : Array Char) (groups : Nat) (p : Pattern) : Nat → Nat → Option Match
  | 0, _ => none
  | fuel + 1, start =>
      if text.size < start then none
      else
        match longestAt? text groups p start with
        | some m => some m
        | none => firstMatch? text groups p fuel (start + 1)

/-- The first match from some place on. -/
def matchFrom? (text : Array Char) (groups : Nat) (p : Pattern) (start : Nat) : Option Match :=
  firstMatch? text groups p (text.size + 2 - start) start

end ScaffoldRunner.Pattern
