/-!
# Dictionaries sorted by key

A dictionary is a list of named values with strictly ascending names, in the order of their UTF-8
bytes, which is the order of their code points. Every operation here keeps that order; a list that
comes from elsewhere is brought into it by `ofList`, where a later entry replaces an earlier one
of the same name.
-/

namespace ScaffoldRunner

/-- A list of named values, kept in the order of the names. -/
abbrev Dict (α : Type) := List (String × α)

namespace Dict

variable {α β : Type}

/-- The names ascend strictly. -/
def Sorted (d : Dict α) : Prop := d.Pairwise fun a b => a.1 < b.1

/-- The value stored under a name. -/
def get? (d : Dict α) (key : String) : Option α := (d.find? fun e => e.1 == key).map (·.2)

/-- Whether a name is in use. -/
def has (d : Dict α) (key : String) : Bool := d.any fun e => e.1 == key

/-- The names in use, in order. -/
def keys (d : Dict α) : List String := d.map (·.1)

/-- The values, in the order of their names. -/
def values (d : Dict α) : List α := d.map (·.2)

/-- Store a value, replacing the one that was there. -/
def insert (key : String) (value : α) : Dict α → Dict α
  | [] => [(key, value)]
  | e :: d =>
      if key < e.1 then (key, value) :: e :: d
      else if key = e.1 then (key, value) :: d
      else e :: insert key value d

/-- Remove a name. -/
def erase (d : Dict α) (key : String) : Dict α := d.filter fun e => e.1 != key

/-- Enter the values of the second dictionary into the first; they replace what was there. -/
def overlay (base top : Dict α) : Dict α := top.foldl (fun d e => d.insert e.1 e.2) base

/-- The dictionary of a list of entries; the last entry of a name wins. -/
def ofList (entries : List (String × α)) : Dict α := overlay [] entries

/-- Change every value. -/
def mapValues (f : α → β) (d : Dict α) : Dict β := d.map fun e => (e.1, f e.2)

/-- Update the value under a name, starting from `empty` when there is none. -/
def modify (d : Dict α) (key : String) (empty : α) (f : α → α) : Dict α :=
  d.insert key (f ((d.get? key).getD empty))

end Dict

end ScaffoldRunner
