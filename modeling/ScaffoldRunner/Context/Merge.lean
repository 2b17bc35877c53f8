import ScaffoldRunner.Json.Basic

/-!
# Merging contexts

A new context is merged over an old one member by member. Lists of recommendations and of action
items grow at the end, findings are overlaid, and any other member of the new context replaces the
old one. The merge keeps a count of merges and the time of the last one, which no context can set.
-/

namespace ScaffoldRunner.Context

/-- The member that counts merges. -/
def mergeCountKey : String := "context_merge_count"

/-- The member with the time of the last merge. -/
def lastUpdatedKey : String := "last_updated"

/-- The members whose lists grow. -/
def grows (key : String) : Bool := key = "recommendations" || key = "action_items"

/-- The merged value of a member that both contexts have. -/
def combine (key : String) (old new : Json) : Json :=
  match old, new with
  | .arr before, .arr added => if grows key then .arr (before ++ added) else new
  | .obj before, .obj added => if key = "findings" then .obj (Dict.overlay before added) else new
  | _, _ => new

def enter (merged : Members) (key : String) (value : Json) : Members :=
  if key = mergeCountKey ∨ key = lastUpdatedKey then merged
  else
    match merged.get? key with
    | some old => merged.insert key (combine key old value)
    | none => merged.insert key value

/-- The number of merges that a context states. -/
def mergeCount (context : Members) : Nat :=
  ((context.get? mergeCountKey).bind Json.u64?).getD 0

/-- Merge the members of a new context over those of an old one at a given time. -/
def mergeMembers (now : String) (old new : Members) : Members :=
  let merged := new.foldl (fun merged e => enter merged e.1 e.2) old
  let count := mergeCount merged
  (merged.insert lastUpdatedKey (.str now)).insert mergeCountKey (.nat (count + 1))

/-- The members of a context; what is no object has none. -/
def membersOf (context : Json) : Members := context.members?.getD []

/-- Merge a new context over an old one at a given time. -/
def merge (now : String) (old new : Json) : Json :=
  .obj (mergeMembers now (membersOf old) (membersOf new))

end ScaffoldRunner.Context
