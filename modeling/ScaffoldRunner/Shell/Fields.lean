import ScaffoldRunner.Shell.Wildcard

/-!
# From words to fields

The expansion of a word yields pieces: characters, marks where quotes stood, and the borders of
what expansions have put in. Only between such borders is a word cut into fields: at separators,
or at the characters that part the parameters from each other.
-/

namespace ScaffoldRunner.Shell

/-- A piece of an expanded word. -/
inductive Piece where
  /-- A character, and whether it stands for itself. -/
  | char (c : Char) (quoted : Bool)
  /-- Quotes stood here, so that there is a field even if it is empty. -/
  | mark
  /-- From here on the word may be cut; only between parameters, if so asked. -/
  | opening (betweenOnly : Bool)
  | closing

/-- The character that parts parameters that become fields of their own. -/
def parameterEnd : Char := Char.ofNat 0

namespace Piece

/-- The characters of a text as pieces. -/
def ofText (quoted : Bool) (text : String) : List Piece := text.toList.map fun c => char c quoted

/-- The pieces of a value: quoted, or to be cut at separators. -/
def ofValue (quoted : Bool) (text : String) : List Piece :=
  if quoted then ofText true text
  else opening false :: text.toList.foldr (fun c rest => char c false :: rest) [closing]

def text (pieces : List Piece) : String :=
  String.ofList (pieces.filterMap fun
    | char c _ => some c
    | _ => none)

def field (pieces : List Piece) : Field :=
  pieces.filterMap fun
    | char c quoted => some (c, quoted)
    | _ => none

end Piece

/-- The state of cutting a word: the fields that were cut off, the last one first, and the
characters since then in reverse order. -/
structure Cutting where
  fields : List Field := []
  current : Field := []
  /-- Whether there was anything since the last cut, be it just a mark. -/
  isOpen : Bool := false
  /-- What kind of stretch the characters are in, if they may be cut at all. -/
  stretch : Option Bool := none
  /-- Whether the last stretch was one to be cut between parameters only. -/
  betweenOnly : Bool := false
  /-- Whether the one before was such a stretch. -/
  wasBetween : Bool := false
  /-- Whether the last cut was at a blank, so that more separators may follow. -/
  afterBlank : Bool := false
  /-- How many more fields may be cut off, if there is a limit. -/
  left : Option Nat := none
  /-- Where the last field ends if nothing more comes. -/
  ending : Option Field := none

namespace Cutting

/-- Whether a character separates fields even if there are several of it. -/
def isBlank (c : Char) : Bool := c = ' ' || c = '\t' || c = '\n' || c = parameterEnd

def add (s : Cutting) (c : Char) (quoted : Bool) : Cutting :=
  { s with current := (c, quoted) :: s.current, isOpen := true }

/-- Read a character that separates fields. -/
def separate (s : Cutting) (c : Char) (quoted : Bool) : Cutting :=
  let s := if s.wasBetween || s.betweenOnly then s else { s with afterBlank := isBlank c }
  if !s.isOpen && s.afterBlank then { s with afterBlank := false }
  else
    match s.left with
    | some 1 => { s.add c quoted with left := some 0, ending := some s.current }
    | left =>
        { s with
          fields := s.current.reverse :: s.fields
          current := []
          isOpen := false
          left := left.map (· - 1) }

/-- Read a character of a stretch that may be cut. -/
def cutAt (separators : List Char) (s : Cutting) (betweenOnly : Bool) (c : Char)
    (quoted : Bool) : Cutting :=
  let isSeparator := c = parameterEnd || (!betweenOnly && separators.contains c)
  let blank := isSeparator && isBlank c
  if s.left = some 0 then
    if blank then { s.add c quoted with ending := some (s.ending.getD s.current) }
    else
      { s.add c quoted with
        ending := if isSeparator && s.afterBlank then s.ending else none
        afterBlank := false }
  else if s.afterBlank then
    if blank then s
    else if isSeparator then { s with afterBlank := false }
    else { s.add c quoted with afterBlank := false }
  else if isSeparator then s.separate c quoted
  else s.add c quoted

def step (separators : List Char) (s : Cutting) : Piece → Cutting
  | .mark => { s with isOpen := true }
  | .opening betweenOnly =>
      { s with
        stretch := some betweenOnly
        wasBetween := s.betweenOnly
        betweenOnly := betweenOnly
        afterBlank := false }
  | .closing => { s with stretch := none }
  | .char c quoted =>
      match s.stretch with
      | none => s.add c quoted
      | some betweenOnly => s.cutAt separators betweenOnly c quoted

def finish (s : Cutting) : List Field :=
  let last := (s.ending.getD s.current).reverse
  let more : Bool := if s.betweenOnly then true
    else if s.ending.isSome then !last.isEmpty else s.isOpen
  (if more then last :: s.fields else s.fields).reverse

end Cutting

/-- The fields of pieces, at most some number of them if there is a limit. -/
def Piece.fields (separators : List Char) (limit : Option Nat) (pieces : List Piece) :
    List Field :=
  (pieces.foldl (Cutting.step separators) { left := limit }).finish

end ScaffoldRunner.Shell
