/-!
# Powers and totals of natural numbers
-/

namespace ScaffoldRunner

def twoTo (n : Nat) : Nat := Nat.pow 2 n

def tenTo (n : Nat) : Nat := Nat.pow 10 n

def total (ns : List Nat) : Nat := ns.foldl (fun sum n => sum + n) 0

/-- Whether a number fits a number of bits, one of which is for the sign. -/
def fitsSigned (bits : Nat) (i : Int) : Bool :=
  decide (-Int.ofNat (twoTo (bits - 1)) ≤ i) && decide (i < Int.ofNat (twoTo (bits - 1)))

/-- Whether a number fits a number of bits without a sign. -/
def fitsUnsigned (bits : Nat) (i : Int) : Bool :=
  decide (0 ≤ i) && decide (i < Int.ofNat (twoTo bits))

end ScaffoldRunner
