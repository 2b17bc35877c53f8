import ScaffoldRunner.Data.Dict
import ScaffoldRunner.Data.Power

/-!
# JSON values

The values that frames, contexts and reports are made of. Integers and floating-point numbers are
different values, as are `1` and `1.0`. `Json.same` is the equality that a comparison of results
uses: it tells values apart as `=` does, except that the two floating-point zeros are equal.
-/

namespace ScaffoldRunner

/-- A JSON value. Objects that are read or built as values keep their members in the order of their
names; documents that are written for readers may keep an order of their own. -/
inductive Json where
  | null
  | bool (b : Bool)
  | int (i : Int)
  | float (x : Float)
  | str (s : String)
  | arr (items : List Json)
  | obj (members : List (String × Json))
  deriving Inhabited

abbrev Members := Dict Json

namespace Json

mutual

/-- Decide whether two values are the same term. -/
def decEq : (a b : Json) → Decidable (a = b)
  | null, null => isTrue rfl
  | bool a, bool b => decidable_of_iff (a = b) (by simp)
  | int a, int b => decidable_of_iff (a = b) (by simp)
  | float a, float b => decidable_of_iff (a = b) (by simp)
  | str a, str b => decidable_of_iff (a = b) (by simp)
  | arr a, arr b =>
      match decEqItems a b with
      | isTrue h => isTrue (by rw [h])
      | isFalse h => isFalse fun e => h (by cases e; rfl)
  | obj a, obj b =>
      match decEqMembers a b with
      | isTrue h => isTrue (by rw [h])
      | isFalse h => isFalse fun e => h (by cases e; rfl)
  | null, bool _ | null, int _ | null, float _ | null, str _ | null, arr _ | null, obj _
  | bool _, null | bool _, int _ | bool _, float _ | bool _, str _ | bool _, arr _ | bool _, obj _
  | int _, null | int _, bool _ | int _, float _ | int _, str _ | int _, arr _ | int _, obj _
  | float _, null | float _, bool _ | float _, int _ | float _, str _ | float _, arr _
  | float _, obj _
  | str _, null | str _, bool _ | str _, int _ | str _, float _ | str _, arr _ | str _, obj _
  | arr _, null | arr _, bool _ | arr _, int _ | arr _, float _ | arr _, str _ | arr _, obj _
  | obj _, null | obj _, bool _ | obj _, int _ | obj _, float _ | obj _, str _ | obj _, arr _ =>
      isFalse nofun

/-- Decide whether two lists of values are the same term. -/
def decEqItems : (a b : List Json) → Decidable (a = b)
  | [], [] => isTrue rfl
  | [], _ :: _ => isFalse nofun
  | _ :: _, [] => isFalse nofun
  | a :: as, b :: bs =>
      match decEq a b, decEqItems as bs with
      | isTrue h, isTrue hs => isTrue (by rw [h, hs])
      | isFalse h, _ => isFalse fun e => h (by cases e; rfl)
      | _, isFalse hs => isFalse fun e => hs (by cases e; rfl)

/-- Decide whether two lists of members are the same term. -/
def decEqMembers : (a b : List (String × Json)) → Decidable (a = b)
  | [], [] => isTrue rfl
  | [], _ :: _ => isFalse nofun
  | _ :: _, [] => isFalse nofun
  | (k, a) :: as, (l, b) :: bs =>
      if hk : k = l then
        match decEq a b, decEqMembers as bs with
        | isTrue h, isTrue hs => isTrue (by rw [hk, h, hs])
        | isFalse h, _ => isFalse fun e => h (by cases e; rfl)
        | _, isFalse hs => isFalse fun e => hs (by cases e; rfl)
      else isFalse fun e => hk (by cases e; rfl)

end

instance : DecidableEq Json := decEq

mutual

/-- Whether two values compare equal: `0.0` and `-0.0` do, `1` and `1.0` do not. -/
def same : Json → Json → Bool
  | null, null => true
  | bool a, bool b => a == b
  | int a, int b => a == b
  | float a, float b => a == b
  | str a, str b => a == b
  | arr a, arr b => sameItems a b
  | obj a, obj b => sameMembers a b
  | _, _ => false

/-- Whether two lists of values compare equal, item by item. -/
def sameItems : List Json → List Json → Bool
  | [], [] => true
  | a :: as, b :: bs => same a b && sameItems as bs
  | _, _ => false

/-- Whether two lists of members compare equal, member by member. -/
def sameMembers : List (String × Json) → List (String × Json) → Bool
  | [], [] => true
  | (k, a) :: as, (l, b) :: bs => k == l && same a b && sameMembers as bs
  | _, _ => false

end

mutual

/-- How deep arrays and objects nest; a value without any has depth zero. -/
def depth : Json → Nat
  | arr items => depthItems items + 1
  | obj members => depthMembers members + 1
  | _ => 0

def depthItems : List Json → Nat
  | [] => 0
  | a :: as => max (depth a) (depthItems as)

/-- The depth of the deepest member. -/
def depthMembers : List (String × Json) → Nat
  | [] => 0
  | (_, a) :: as => max (depth a) (depthMembers as)

end

def members? : Json → Option Members
  | obj m => some m
  | _ => none

def items? : Json → Option (List Json)
  | arr a => some a
  | _ => none

def string? : Json → Option String
  | str s => some s
  | _ => none

/-- The value of an integer that fits 64 bits without a sign. -/
def u64? : Json → Option Nat
  | int i => if fitsUnsigned 64 i then some i.toNat else none
  | _ => none

/-- A member of an object; `none` when it is missing or the value is no object. -/
def get? (j : Json) (key : String) : Option Json := j.members?.bind (Dict.get? · key)

/-- The number of a count. -/
def nat (n : Nat) : Json := int (Int.ofNat n)

def strings (texts : List String) : Json := arr (texts.map str)

/-- The value inside, or `null`. -/
def ofOption : Option Json → Json
  | some j => j
  | none => null

/-- A member that is left out when there is no value. -/
def optionalMember (name : String) : Option Json → List (String × Json)
  | some j => [(name, j)]
  | none => []

def record (members : List (String × Json)) : Json := obj (Dict.ofList members)

mutual

/-- The same value with the members of every object in the order of their names. -/
def sorted : Json → Json
  | arr items => arr (sortedItems items)
  | obj members => obj (Dict.ofList (sortedMembers members))
  | j => j

def sortedItems : List Json → List Json
  | [] => []
  | a :: as => sorted a :: sortedItems as

def sortedMembers : List (String × Json) → List (String × Json)
  | [] => []
  | (k, a) :: as => (k, sorted a) :: sortedMembers as

end

end Json

end ScaffoldRunner
