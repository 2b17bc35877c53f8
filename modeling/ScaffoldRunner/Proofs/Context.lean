import ScaffoldRunner.Context.Merge
import ScaffoldRunner.Context.Store
import ScaffoldRunner.Proofs.Dict
import ScaffoldRunner.Proofs.Json.RoundTrip
import ScaffoldRunner.Proofs.Workspace.Documents

/-!
# Laws of contexts

A merge is known by the value of every member: a context cannot set the two
members of the merge itself, a list or the findings grow, and any other member
is the newer one.

The envelope of a context takes one level of the nesting that can be read, so a
context that is nested as deep as a text may be is saved and never loaded again.
-/

namespace ScaffoldRunner

/-! ## Merging -/

/-- A member that may be left out is the only one of its name. -/
theorem Dict.last?_optionalMember (name : String) (value : Option Json) (key : String) :
    Dict.last? (Json.optionalMember name value) key = if name = key then value else none := by
  by_cases hname : name = key <;> cases value <;> simp [Json.optionalMember, Dict.last?, hname]

namespace Context

/-- The members that belong to the merge itself. -/
def IsReserved (key : String) : Prop := key = mergeCountKey ∨ key = lastUpdatedKey

instance (key : String) : Decidable (IsReserved key) :=
  inferInstanceAs (Decidable (_ ∨ _))

theorem not_isReserved_of_grows {key : String} (h : grows key = true) : ¬IsReserved key := by
  rintro (rfl | rfl)
  · exact absurd h (by decide)
  · exact absurd h (by decide)

/-- The merged value of a member, from what both contexts state. -/
def combined? (key : String) (old new : Option Json) : Option Json :=
  match new with
  | none => old
  | some added =>
      match old with
      | none => some added
      | some before => some (combine key before added)

@[simp] theorem combined?_none (key : String) (old : Option Json) :
    combined? key old none = old :=
  rfl

theorem get?_enter (merged : Members) (key other : String) (value : Json) :
    (enter merged key value).get? other =
      if other = key ∧ ¬IsReserved key then combined? key (merged.get? key) (some value)
      else merged.get? other := by
  rw [enter]
  by_cases hreserved : key = mergeCountKey ∨ key = lastUpdatedKey
  · have hnot : ¬(other = key ∧ ¬IsReserved key) := fun h => h.2 hreserved
    rw [if_pos hreserved, if_neg hnot]
  · rw [if_neg hreserved]
    by_cases hother : other = key
    · rw [if_pos ⟨hother, hreserved⟩, hother]
      cases merged.get? key <;> exact Dict.get?_insert_self _ _ _
    · rw [if_neg fun h => hother h.1]
      cases merged.get? key <;> exact Dict.get?_insert_of_ne _ _ hother

/-- Of two contexts each member is merged by itself. -/
theorem get?_foldl_enter {new : Members} (hnew : new.Sorted) (old : Members) (key : String) :
    (new.foldl (fun merged e => enter merged e.1 e.2) old).get? key =
      if IsReserved key then old.get? key else combined? key (old.get? key) (new.get? key) := by
  induction new generalizing old with
  | nil => rw [List.foldl_nil, Dict.get?_nil, combined?_none, ite_self]
  | cons entry new ih =>
      obtain ⟨hhead, htail⟩ := List.pairwise_cons.mp hnew
      rw [List.foldl_cons, ih htail, get?_enter, Dict.get?_cons]
      by_cases hreserved : IsReserved key
      · have hnot : ¬(key = entry.1 ∧ ¬IsReserved entry.1) := by
          rintro ⟨rfl, hfree⟩
          exact hfree hreserved
        rw [if_pos hreserved, if_pos hreserved, if_neg hnot]
      · rw [if_neg hreserved, if_neg hreserved]
        by_cases hkey : key = entry.1
        · have hlater : Dict.get? new key = none := by
            rw [← Dict.Sorted.last?_eq htail]
            refine Dict.last?_eq_none_iff.mpr fun e he heq => ?_
            exact String.ne_of_lt (hhead e he) (hkey.symm.trans heq.symm)
          rw [if_pos ⟨hkey, hkey ▸ hreserved⟩, if_pos hkey, hlater, combined?_none, hkey]
        · rw [if_neg fun h => hkey h.1, if_neg hkey]

theorem get?_mergeMembers {new : Members} (hnew : new.Sorted) (now : String) (old : Members)
    {key : String} (hkey : ¬IsReserved key) :
    (mergeMembers now old new).get? key = combined? key (old.get? key) (new.get? key) := by
  have hcount : key ≠ mergeCountKey := fun h => hkey (.inl h)
  have htime : key ≠ lastUpdatedKey := fun h => hkey (.inr h)
  rw [mergeMembers, Dict.get?_insert_of_ne _ _ hcount, Dict.get?_insert_of_ne _ _ htime,
    get?_foldl_enter hnew, if_neg hkey]

/-- No member of the new context touches the number of merges. -/
theorem mergeCount_foldl_enter {new : Members} (hnew : new.Sorted) (old : Members) :
    mergeCount (new.foldl (fun merged e => enter merged e.1 e.2) old) = mergeCount old := by
  have hreserved : IsReserved mergeCountKey := .inl rfl
  rw [mergeCount, get?_foldl_enter hnew, if_pos hreserved, mergeCount]

/-- A merge counts one more than the old context, whatever the new one states. -/
theorem mergeCount_mergeMembers {new : Members} (hnew : new.Sorted) (now : String)
    (old : Members) :
    (mergeMembers now old new).get? mergeCountKey = some (.nat (mergeCount old + 1)) := by
  rw [mergeMembers, mergeCount_foldl_enter hnew, Dict.get?_insert_self]

/-- Only lists of recommendations and action items, and findings, are put
together. -/
theorem combine_of_ne {key : String} (hgrows : grows key = false) (hfindings : key ≠ "findings")
    (old new : Json) : combine key old new = new := by
  unfold combine
  split
  · rw [hgrows]
    rfl
  · exact if_neg hfindings
  · rfl

theorem combined?_of_ne {key : String} (hgrows : grows key = false)
    (hfindings : key ≠ "findings") (old : Option Json) (new : Json) :
    combined? key old (some new) = some new := by
  cases old with
  | none => rfl
  | some old => exact congrArg some (combine_of_ne hgrows hfindings old new)

/-- A list grows at the end; what is no list counts as an empty one. -/
theorem combined?_list {key : String} (hgrows : grows key = true) (old : Option Json)
    (items : List Json) :
    combined? key old (some (.arr items)) =
      some (.arr (((old.bind Json.items?).getD []) ++ items)) := by
  cases old with
  | none => rfl
  | some old => cases old <;> simp [combined?, combine, hgrows, Json.items?]

/-- Findings are overlaid; what is no object counts as an empty one. -/
theorem combined?_findings {members : Members} (hmembers : members.Sorted)
    (old : Option Json) :
    combined? "findings" old (some (.obj members)) =
      some (.obj (Dict.overlay ((old.bind Json.members?).getD []) members)) := by
  have hempty : Dict.overlay [] members = members := Dict.ofList_of_sorted hmembers
  cases old with
  | none => rw [combined?, Option.bind_none, Option.getD_none, hempty]
  | some old => cases old <;> simp [combined?, combine, Json.members?, hempty]

/-- The members of a context that was loaded; without one there are none. -/
def held (loaded : Option Json) : Members := (loaded.map membersOf).getD []

end Context

/-- What merging over a loaded context states under a name, where a context that
is saved without one is its own merge. -/
theorem ContextStore.mergedOver_obj {new : Members} (hnew : new.Sorted) (now : Instant)
    (loaded : Option Json) :
    ∃ saved : Members, mergedOver now loaded (.obj new) = .obj saved ∧
      (∀ key, ¬Context.IsReserved key →
        saved.get? key = Context.combined? key ((Context.held loaded).get? key) (new.get? key)) ∧
      (loaded.isSome = true → saved.get? Context.mergeCountKey =
        some (.nat (Context.mergeCount (Context.held loaded) + 1))) := by
  cases loaded with
  | none =>
      refine ⟨new, rfl, fun key _ => ?_, by simp⟩
      have hnone : (Context.held none).get? key = none := rfl
      rw [hnone]
      cases new.get? key <;> rfl
  | some old =>
      refine ⟨Context.mergeMembers now.isoOffset (Context.membersOf old) new, rfl, ?_, ?_⟩
      · intro key hkey
        exact Context.get?_mergeMembers hnew _ _ hkey
      · intro _
        exact Context.mergeCount_mergeMembers hnew _ _

/-! ## Envelopes -/

namespace ContextStore

/-- What is loaded of a context that was saved at a time. -/
def reload? (now : Instant) (context : Json) : Option Json :=
  if context.depth < Json.maxDepth ∧ (Instant.parse? now.iso).isSome then context.reread?
  else none

theorem contextOf?_envelope (task : String) (now : Instant) (context : Json) :
    contextOf? (envelope task now context) =
      if (Instant.parse? now.iso).isSome then some context else none := by
  have hfields : Record.fields? .json ["task_id", "timestamp", "context", "version"]
      (envelope task now context) =
        some [some (.str task), some (.str now.iso), some context, some (.str version)] :=
    rfl
  rw [contextOf?, hfields]
  cases htime : Instant.parse? now.iso <;>
    simp [Record.required, Record.string?, Json.string?, htime]

/-- What is loaded of an envelope that was written is the context, unless it is
nested too deep. -/
theorem parseEnvelope?_envelope (task : String) (now : Instant) (context : Json) :
    parseEnvelope? (envelope task now context).pretty = reload? now context := by
  have hread := Json.parseRecord?_pretty ["task_id", "timestamp", "context", "version"]
    (by simp : [("task_id", Json.str task), ("timestamp", .str now.iso), ("context", context),
      ("version", .str version)] ≠ []) (by simp) (by simp)
  have hdepth : Json.depthMembers [("task_id", .str task), ("timestamp", .str now.iso),
      ("context", context), ("version", .str version)] = context.depth := by
    simp [Json.depthMembers, Json.depth]
  have hmembers : Json.rereadMembers? [("task_id", .str task), ("timestamp", .str now.iso),
      ("context", context), ("version", .str version)] =
        context.reread?.map fun read => [("task_id", .str task), ("timestamp", .str now.iso),
          ("context", read), ("version", .str version)] := by
    cases h : context.reread? <;> simp [Json.rereadMembers?, Json.reread?, h]
  have hlevels : context.depth ≤ Json.maxDepth - 1 ↔ context.depth < Json.maxDepth :=
    Nat.le_sub_one_iff_lt (by decide)
  rw [hdepth, hmembers] at hread
  rw [parseEnvelope?, envelope, hread, reload?]
  by_cases hshallow : context.depth < Json.maxDepth
  · rw [if_pos (hlevels.mpr hshallow)]
    cases context.reread? with
    | none => simp
    | some read =>
        have hcontext := contextOf?_envelope task now read
        rw [envelope] at hcontext
        simp [hshallow, hcontext]
  · rw [if_neg (mt hlevels.mp hshallow), if_neg fun h => hshallow h.1]
    rfl

/-- A context that its text gives back is loaded as it was saved, as long as it can be
nested once more. -/
theorem reload?_of_isValue {now : Instant} {context : Json} (h : context.IsValue)
    (hnow : (Instant.parse? now.iso).isSome = true) :
    reload? now context = if context.depth < Json.maxDepth then some context else none := by
  rw [reload?, h.reread?]
  simp only [hnow, and_true]

end ContextStore

end ScaffoldRunner
