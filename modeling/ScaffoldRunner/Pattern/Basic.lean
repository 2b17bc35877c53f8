import ScaffoldRunner.Unicode.Folding
import ScaffoldRunner.Unicode.Property

/-!
# Regular expressions

A pattern describes texts. Apart from the regular operators it may look around a position, refer
to what a group has matched, and give up other ways to match.
-/

namespace ScaffoldRunner

inductive CharSet where
  | all
  | range (low high : Char)
  | such (property : Unicode.Property)
  | compl (s : CharSet)
  | union (s t : CharSet)
  | inter (s t : CharSet)
  /-- The characters that differ from a member in letter case only. -/
  | folded (s : CharSet)

namespace CharSet

def empty : CharSet := .compl .all

def one (c : Char) : CharSet := .range c c

def ofList (cs : List Char) : CharSet := cs.foldl (fun s c => .union s (.one c)) .empty

/-- The members of the first set that are not in the second. -/
def diff (s t : CharSet) : CharSet := .inter s (.compl t)

/-- The members of exactly one of two sets. -/
def symmDiff (s t : CharSet) : CharSet := .union (.diff s t) (.diff t s)

/-- Whether a character belongs to a set. -/
def has : CharSet → Char → Bool
  | all, _ => true
  | range low high, c => low ≤ c && c ≤ high
  | such property, c => property.has c
  | compl s, c => !s.has c
  | union s t, c => s.has c || t.has c
  | inter s t, c => s.has c && t.has c
  | folded s, c => (Unicode.caseVariants c).any s.has

/-- A set, with the letter case of its members left out of account if so asked. -/
def foldedIf (fold : Bool) (s : CharSet) : CharSet := if fold then .folded s else s

def complIf (negated : Bool) (s : CharSet) : CharSet := if negated then .compl s else s

instance : Inhabited CharSet := ⟨.empty⟩

/-- The decimal digits of ASCII. -/
def digits : CharSet := .range '0' '9'

def letters : CharSet := .union (.range 'a' 'z') (.range 'A' 'Z')

/-- The characters of words in ASCII. -/
def wordChars : CharSet := .union letters (.union digits (.one '_'))

/-- The sets of ASCII characters that have a name. -/
def named : List (String × CharSet) :=
  [("alnum", .union letters digits), ("alpha", letters), ("ascii", .range '\x00' '\x7f'),
    ("blank", .ofList [' ', '\t']), ("cntrl", .union (.range '\x00' '\x1f') (.one '\x7f')),
    ("digit", digits), ("graph", .range '!' '~'), ("lower", .range 'a' 'z'),
    ("print", .range ' ' '~'), ("punct", .diff (.range '!' '~') (.union letters digits)),
    ("space", .union (.range '\t' '\r') (.one ' ')), ("upper", .range 'A' 'Z'),
    ("word", wordChars),
    ("xdigit", .union digits (.union (.range 'a' 'f') (.range 'A' 'F')))]

def named? (name : String) : Option CharSet := (named.find? fun e => e.1 = name).map (·.2)

end CharSet

/-- A condition on a position in a text. -/
inductive Edge where
  | textStart
  | textEnd
  | lineStart
  | lineEnd
  /-- On one side, and on one side only, is a character of a word. -/
  | wordEdge (word : CharSet)
  | noWordEdge (word : CharSet)
  | wordStart (word : CharSet)
  | wordEnd (word : CharSet)

/-- A regular expression. -/
inductive Pattern where
  | nothing
  | chars (s : CharSet)
  | edge (e : Edge)
  | seq (p q : Pattern)
  | alt (p q : Pattern)
  /-- At least `least` and, if given, at most `most` repetitions; `greedy` ones try more first. -/
  | repeated (p : Pattern) (least : Nat) (most : Option Nat) (greedy : Bool)
  /-- What the inner pattern matches is kept under a number. -/
  | group (number : Nat) (p : Pattern)
  /-- The text that a group has matched last. -/
  | same (number : Nat)
  /-- The inner pattern matches from here, or from `back` characters before, or does not, as
  wanted. -/
  | look (back : Option Nat) (wanted : Bool) (p : Pattern)
  /-- Of the ways in which the inner pattern matches only the first counts. -/
  | atomic (p : Pattern)

namespace Pattern

instance : Inhabited Pattern := ⟨.nothing⟩

def char (c : Char) : Pattern := .chars (.one c)

/-- A pattern that matches nowhere. -/
def never : Pattern := .chars .empty

def groupCount : Pattern → Nat
  | seq p q | alt p q => max p.groupCount q.groupCount
  | repeated p _ _ _ | look _ _ p | atomic p => p.groupCount
  | group number p => max number p.groupCount
  | nothing | chars _ | edge _ | same _ => 0

/-- Whether a pattern refers to what a group has matched. -/
def refersBack : Pattern → Bool
  | seq p q | alt p q => p.refersBack || q.refersBack
  | repeated p _ _ _ | look _ _ p | atomic p | group _ p => p.refersBack
  | same _ => true
  | nothing | chars _ | edge _ => false

/-- The number of characters that a pattern matches, if it is the same for all texts. -/
def width? : Pattern → Option Nat
  | nothing | edge _ | look _ _ _ => some 0
  | chars _ => some 1
  | seq p q => do return (← p.width?) + (← q.width?)
  | alt p q => do
      let n ← p.width?
      if n = (← q.width?) then some n else none
  | repeated p least most _ => do
      let n ← p.width?
      if most = some least then some (n * least) else none
  | group _ p | atomic p => p.width?
  | same _ => none

end Pattern

end ScaffoldRunner
