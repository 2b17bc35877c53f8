import ScaffoldRunner.Json.Basic

/-!
# Records in documents

Typed records are read from document values, which come from a JSON text or from a configuration
text. A record is an object whose unknown members are ignored, or an array of its fields in the
order of their declaration, where fields at the end may be missing. The two kinds of documents
differ in three points only: in JSON, `null` stands for a missing optional value, an array may not
be longer than its record, and the value of a bare choice is `null`.
-/

namespace ScaffoldRunner

/-- The kind of document that a value was read from. -/
inductive Source where
  | json
  | configuration
  deriving DecidableEq, Repr

namespace Record

/-- The values of the named fields; `none` for a field that is not given. -/
def fields? (source : Source) (names : List String) : Json → Option (List (Option Json))
  | .obj members => some (names.map (Dict.get? members))
  | .arr items =>
      if source = .json ∧ names.length < items.length then none
      else some ((List.range names.length).map fun i => items[i]?)
  | _ => none

def required {α : Type} (read : Json → Option α) (field : Option Json) : Option α :=
  field.bind read

/-- A field with a default value. -/
def withDefault {α : Type} (default : α) (read : Json → Option α) : Option Json → Option α
  | none => some default
  | some j => read j

/-- A field that may be absent. -/
def optional {α : Type} (source : Source) (read : Json → Option α) :
    Option Json → Option (Option α)
  | none => some none
  | some j => if source = .json ∧ j = .null then some none else (read j).map some

def string? : Json → Option String := Json.string?

/-- A truth value. -/
def bool? : Json → Option Bool
  | .bool b => some b
  | _ => none

/-- An integer from zero to a bound. -/
def nat? (bound : Nat) : Json → Option Nat
  | .int i => if 0 ≤ i ∧ i ≤ Int.ofNat bound then some i.toNat else none
  | _ => none

/-- An unsigned integer of 32 bits. -/
def u32? : Json → Option Nat := nat? (twoTo 32 - 1)

/-- An unsigned integer of 64 bits. -/
def u64? : Json → Option Nat := nat? (twoTo 64 - 1)

/-- A signed integer of 32 bits. -/
def i32? : Json → Option Int
  | .int i => if fitsSigned 32 i then some i else none
  | _ => none

/-- A number as a double. -/
def float? : Json → Option Float
  | .int i => some (if i < 0 then -(i.natAbs.toUInt64.toFloat) else i.natAbs.toUInt64.toFloat)
  | .float x => some x
  | _ => none

/-- A list of values of one kind. -/
def list? {α : Type} (read : Json → Option α) : Json → Option (List α)
  | .arr items => items.mapM read
  | _ => none

def strings? : Json → Option (List String) := list? string?

/-- An object whose members are values of one kind. -/
def dict? {α : Type} (read : Json → Option α) : Json → Option (Dict α)
  | .obj members => members.mapM fun (k, j) => (read j).map fun a => (k, a)
  | _ => none

def any? (j : Json) : Option Json := some j

/-- One of several bare choices, given by its name, or as an object with the name as its only
member. -/
def choice? {α : Type} (source : Source) (choices : List (String × α)) : Json → Option α
  | .str name => Dict.get? choices name
  | .obj [(name, j)] =>
      let bare : Bool := match source with
        | .json => j = .null
        | .configuration => j = .obj [] || j = .arr []
      if bare then Dict.get? choices name else none
  | _ => none

end Record

end ScaffoldRunner
