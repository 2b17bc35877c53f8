/-!
# Runs of characters

Tables over all characters list runs: the code points at which something changes. What holds for a
character is found by searching the table for the run that the character lies in. A table is
written as text, with the lengths of the runs as decimal numbers.
-/

namespace ScaffoldRunner.Unicode

/-- The words of a text, between blanks and ends of lines. -/
def tableWords (text : String) : List String :=
  (text.toList.splitBy fun a b => a.isWhitespace == b.isWhitespace).filterMap fun word =>
    if word.any Char.isWhitespace then none else some (String.ofList word)

/-- The least index from `low` to `high` from which on all entries of a sorted array are greater
than a number. -/
def firstAbove (bounds : Array Nat) (n : Nat) : Nat → Nat → Nat → Nat
  | 0, low, _ => low
  | fuel + 1, low, high =>
      if high ≤ low then low
      else
        let middle := (low + high) / 2
        if bounds.getD middle 0 ≤ n then firstAbove bounds n fuel (middle + 1) high
        else firstAbove bounds n fuel low middle

/-- How many entries of a sorted array are at most a number. -/
def countUpTo (bounds : Array Nat) (n : Nat) : Nat :=
  firstAbove bounds n (bounds.size + 1) 0 bounds.size

/-- A set of characters by the code points at which membership changes; code point zero is
outside unless it is such a point. -/
structure Ranges where
  bounds : Array Nat

namespace Ranges

/-- The ranges with the given lengths: first of what is outside, then of what is inside, and so on
in turn. -/
def ofLengths (text : String) : Ranges :=
  let lengths := (tableWords text).filterMap String.toNat?
  let (_, bounds) := lengths.foldl
    (fun (n, bounds) length => (n + length, bounds.push (n + length)))
    (0, #[])
  ⟨bounds⟩

/-- Whether a character belongs to the ranges. -/
def has (r : Ranges) (c : Char) : Bool := countUpTo r.bounds c.toNat % 2 = 1

end Ranges

/-- A value for each character, by the code points at which the runs of one value start. -/
structure Runs where
  starts : Array Nat
  values : Array String

namespace Runs

/-- What has been read of a table: the length of the run being read, the letters of its value, and
the runs before it. -/
structure Reading where
  length : Nat := 0
  letters : List Char := []
  next : Nat := 0
  runs : Runs := ⟨#[], #[]⟩

/-- Read a character of a table whose values have `width` letters. A run without a length is one
character long. -/
def Reading.step (width : Nat) (r : Reading) (c : Char) : Reading :=
  if c.isWhitespace then r
  else if c.isDigit then { r with length := r.length * 10 + (c.toNat - '0'.toNat) }
  else if r.letters.length + 1 < width then { r with letters := c :: r.letters }
  else
    { next := r.next + max r.length 1
      runs := ⟨r.runs.starts.push r.next,
        r.runs.values.push (String.ofList (c :: r.letters).reverse)⟩ }

/-- The runs that a table lists, each as its length and its value. -/
def ofTable (width : Nat) (text : String) : Runs :=
  (text.toList.foldl (Reading.step width) {}).runs

def valueOf (r : Runs) (c : Char) : String :=
  r.values.getD (countUpTo r.starts c.toNat - 1) ""

end Runs

end ScaffoldRunner.Unicode
