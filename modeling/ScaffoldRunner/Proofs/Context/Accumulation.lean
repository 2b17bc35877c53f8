import Mathlib.Data.List.DropRight
import ScaffoldRunner.Proofs.Context
import ScaffoldRunner.Proofs.Json.Reading

/-!
# Contexts merged one after another

When contexts are merged over a base one after another, each name collects the
values that they state under it.  What is left under a name depends on these values
alone: it is the last of them, but where the last one is a list of recommendations or
action items, or an object of findings, the values of the same shape right before it
are put together with it.  A value of another shape starts the collection anew.

Only the number of merges is not taken from the contexts.  It is counted on from what
the base states.
-/

namespace ScaffoldRunner

theorem Json.u64?_nat {n : Nat} (h : n < twoTo 64) : (Json.nat n).u64? = some n := by
  have hhigh : Int.ofNat n < Int.ofNat (twoTo 64) := Int.ofNat_lt.mpr h
  have hlow : 0 ≤ Int.ofNat n := Int.natCast_nonneg n
  have hfits : fitsUnsigned 64 (Int.ofNat n) = true := by
    rw [fitsUnsigned, decide_eq_true hhigh, decide_eq_true hlow, Bool.and_self]
  rw [nat, u64?, if_pos hfits]
  rfl

namespace Context

/-- Merge contexts over a base one after another, each at its own time. -/
def mergeAll (base : Json) (news : List (String × Json)) : Json :=
  news.foldl (fun merged new => merge new.1 merged new.2) base

/-- The values that some contexts state under a name, in order. -/
def stated (contexts : List Json) (key : String) : List Json :=
  contexts.filterMap fun context => (membersOf context).get? key

theorem stated_concat (contexts : List Json) (context : Json) (key : String) :
    stated (contexts ++ [context]) key =
      stated contexts key ++ ((membersOf context).get? key).toList := by
  rw [stated, List.filterMap_append, stated]
  cases hvalue : (membersOf context).get? key <;> simp [hvalue]

/-! ## Runs of values of one shape -/

section Runs

variable {α : Type} (parts? : Json → Option (List α)) (whole : List α → Json)

/-- The parts of the values at the end of a list, taken as far to the front as there are
values that have parts. -/
def closing (values : List Json) : List α :=
  (values.rtakeWhile fun value => (parts? value).isSome).flatMap fun value =>
    (parts? value).getD []

/-- What some values come to when the parts of those at the end are put together. -/
def settled (values : List Json) : Option Json :=
  values.getLast?.map fun last =>
    if (parts? last).isSome then whole (closing parts? values) else last

variable {parts? whole} {value : Json}

theorem closing_concat_some {parts : List α} (h : parts? value = some parts)
    (values : List Json) :
    closing parts? (values ++ [value]) = closing parts? values ++ parts := by
  have hvalue : (parts? value).isSome = true := by rw [h, Option.isSome_some]
  rw [closing, List.rtakeWhile_concat_pos (fun value => (parts? value).isSome) _ _ hvalue,
    List.flatMap_append, List.flatMap_singleton, h, closing, Option.getD_some]

theorem closing_concat_none (h : parts? value = none) (values : List Json) :
    closing parts? (values ++ [value]) = [] := by
  have hvalue : ¬(parts? value).isSome = true := by simp [h]
  rw [closing, List.rtakeWhile_concat_neg (fun value => (parts? value).isSome) _ _ hvalue,
    List.flatMap_nil]

theorem settled_concat_some {parts : List α} (h : parts? value = some parts)
    (values : List Json) :
    settled parts? whole (values ++ [value]) =
      some (whole (closing parts? values ++ parts)) := by
  rw [settled, List.getLast?_concat, closing_concat_some h, Option.map_some, h]
  rfl

theorem settled_concat_none (h : parts? value = none) (values : List Json) :
    settled parts? whole (values ++ [value]) = some value := by
  rw [settled, List.getLast?_concat, Option.map_some, h]
  rfl

/-- What has been put together so far are the parts of what the values come to. -/
theorem parts_settled {entered : List α → List α}
    (hwhole : ∀ parts, parts? (whole parts) = some (entered parts)) (hnil : entered [] = [])
    (values : List Json) :
    ((settled parts? whole values).bind parts?).getD [] = entered (closing parts? values) := by
  rcases List.eq_nil_or_concat values with rfl | ⟨front, last, rfl⟩
  · exact hnil.symm
  · rw [List.concat_eq_append]
    cases hlast : parts? last with
    | none =>
        rw [settled_concat_none hlast, closing_concat_none hlast, Option.bind_some, hlast, hnil,
          Option.getD_none]
    | some parts =>
        rw [settled_concat_some hlast, closing_concat_some hlast, Option.bind_some, hwhole,
          Option.getD_some]

end Runs

/-! ## One merge -/

/-- A list of recommendations or action items is put behind what has been settled. -/
theorem combined?_settled_items {key : String} (hgrows : grows key = true)
    (values : List Json) (new : Option Json) :
    combined? key (settled Json.items? .arr values) new =
      settled Json.items? .arr (values ++ new.toList) := by
  cases new with
  | none => rw [combined?_none, Option.toList_none, List.append_nil]
  | some value =>
      rw [Option.toList_some]
      cases hitems : value.items? with
      | some items =>
          obtain rfl : value = .arr items := by cases value <;> simp_all [Json.items?]
          have hwhole (items : List Json) : (Json.arr items).items? = some (id items) := rfl
          have hparts := parts_settled hwhole rfl values
          rw [combined?_list hgrows, settled_concat_some hitems, hparts, id_eq]
      | none =>
          have hkey : key ≠ "findings" := by
            rintro rfl
            exact absurd hgrows (by decide)
          rw [settled_concat_none hitems]
          cases settled Json.items? .arr values with
          | none => rfl
          | some old => cases old <;> cases value <;> simp_all [combined?, combine, Json.items?]

/-- The object of some entries; the last entry of a name counts. -/
def objectOf (entries : List (String × Json)) : Json := .obj (Dict.ofList entries)

/-- An object of findings is laid over what has been settled. -/
theorem combined?_settled_members (values : List Json) {new : Option Json}
    (hnew : ∀ members, new = some (.obj members) → Dict.Sorted members) :
    combined? "findings" (settled Json.members? objectOf values) new =
      settled Json.members? objectOf (values ++ new.toList) := by
  cases new with
  | none => rw [combined?_none, Option.toList_none, List.append_nil]
  | some value =>
      rw [Option.toList_some]
      cases hmembers : value.members? with
      | some members =>
          obtain rfl : value = .obj members := by cases value <;> simp_all [Json.members?]
          have hwhole (entries : List (String × Json)) :
              (objectOf entries).members? = some (Dict.ofList entries) := rfl
          have hparts := parts_settled hwhole rfl values
          rw [combined?_findings (hnew members rfl), settled_concat_some hmembers, hparts,
            objectOf, Dict.ofList, Dict.ofList, Dict.overlay_append]
      | none =>
          have hgrows : grows "findings" = false := by decide
          rw [settled_concat_none hmembers]
          cases settled Json.members? objectOf values with
          | none => rfl
          | some old => cases old <;> cases value <;> simp_all [combined?, combine, Json.members?]

/-- A merged context states under every name what the values that were stated under it
come to. -/
structure Settles (values : String → List Json) (merged : Members) : Prop where
  lists : ∀ key, grows key = true → merged.get? key = settled Json.items? .arr (values key)
  findings : merged.get? "findings" = settled Json.members? objectOf (values "findings")
  others : ∀ key, ¬IsReserved key → grows key = false → key ≠ "findings" →
    merged.get? key = (values key).getLast?

/-- The members of a context, and of the values under them, are in the order of their names. -/
theorem sorted_membersOf {context : Json} (h : context.Everywhere Json.IsOrdered) :
    (membersOf context).Sorted := by
  cases context with
  | obj members => exact h.self
  | _ => exact List.Pairwise.nil

theorem sorted_of_get?_membersOf {context : Json} (h : context.Everywhere Json.IsOrdered)
    {key : String} {members : Members}
    (hvalue : (membersOf context).get? key = some (.obj members)) : members.Sorted := by
  cases context with
  | obj whole =>
      have hmember := (Json.everywhere_obj.mp h).2 _ (Dict.mem_of_get? hvalue)
      exact hmember.self
  | _ => simp [membersOf, Json.members?] at hvalue

theorem settles_base {base : Json} (h : base.Everywhere Json.IsOrdered) :
    Settles (stated [base]) (membersOf base) := by
  have hstated (key : String) : stated [base] key = [] ++ ((membersOf base).get? key).toList := by
    exact stated_concat [] base key
  constructor
  · intro key hgrows
    have hmerged := combined?_settled_items hgrows [] ((membersOf base).get? key)
    rw [hstated, ← hmerged]
    cases (membersOf base).get? key <;> rfl
  · have hfindings (members : Members)
        (hvalue : (membersOf base).get? "findings" = some (.obj members)) : members.Sorted :=
      sorted_of_get?_membersOf h hvalue
    have hmerged := combined?_settled_members [] hfindings
    rw [hstated, ← hmerged]
    cases (membersOf base).get? "findings" <;> rfl
  · intro key _ _ _
    rw [hstated]
    cases (membersOf base).get? key <;> rfl

/-- One more merge settles one more context. -/
theorem Settles.merge {contexts : List Json} {merged : Members}
    (h : Settles (stated contexts) merged) {new : Json} (hnew : new.Everywhere Json.IsOrdered)
    (now : String) :
    Settles (stated (contexts ++ [new])) (mergeMembers now merged (membersOf new)) := by
  have hget {key : String} (hfree : ¬IsReserved key) :=
    get?_mergeMembers (sorted_membersOf hnew) now merged hfree
  constructor
  · intro key hgrows
    rw [hget (not_isReserved_of_grows hgrows), h.lists key hgrows, stated_concat]
    exact combined?_settled_items hgrows _ _
  · rw [hget (by decide), h.findings, stated_concat]
    exact combined?_settled_members _ fun members hvalue => sorted_of_get?_membersOf hnew hvalue
  · intro key hfree hgrows hfindings
    rw [hget hfree, h.others key hfree hgrows hfindings, stated_concat]
    cases (membersOf new).get? key with
    | none => rw [combined?_none, Option.toList_none, List.append_nil]
    | some value =>
        rw [combined?_of_ne hgrows hfindings, Option.toList_some, List.getLast?_concat]

/-! ## Any number of merges -/

theorem mergeAll_concat (base : Json) (news : List (String × Json)) (new : String × Json) :
    mergeAll base (news ++ [new]) = merge new.1 (mergeAll base news) new.2 := by
  rw [mergeAll, List.foldl_append]
  rfl

theorem settles_mergeAll {base : Json} {news : List (String × Json)}
    (hordered : ∀ context ∈ base :: news.map Prod.snd, context.Everywhere Json.IsOrdered) :
    Settles (stated (base :: news.map Prod.snd)) (membersOf (mergeAll base news)) := by
  induction news using List.reverseRecOn with
  | nil => exact settles_base (hordered base List.mem_cons_self)
  | append_singleton news new ih =>
      rw [List.map_append, ← List.cons_append, List.forall_mem_append] at hordered
      rw [mergeAll_concat, List.map_append, ← List.cons_append]
      exact (ih hordered.1).merge (hordered.2 new.2 (by simp)) new.1

theorem sorted_enter {merged : Members} (h : merged.Sorted) (key : String) (value : Json) :
    (enter merged key value).Sorted := by
  rw [enter]
  split
  · exact h
  · split
    · exact Dict.sorted_insert h _ _
    · exact Dict.sorted_insert h _ _

theorem sorted_mergeMembers {old : Members} (h : old.Sorted) (now : String) (new : Members) :
    (mergeMembers now old new).Sorted := by
  have hentered : (new.foldl (fun merged e => enter merged e.1 e.2) old).Sorted := by
    induction new generalizing old with
    | nil => exact h
    | cons entry new ih => exact ih (sorted_enter h entry.1 entry.2)
  exact Dict.sorted_insert (Dict.sorted_insert hentered _ _) _ _

theorem sorted_mergeAll {base : Json} (h : (membersOf base).Sorted) (news : List (String × Json)) :
    (membersOf (mergeAll base news)).Sorted := by
  induction news using List.reverseRecOn with
  | nil => exact h
  | append_singleton news new ih =>
      rw [mergeAll_concat]
      exact sorted_mergeMembers ih _ _

/-- A merge counts one more than was counted before, as long as that fits 64 bits. -/
theorem mergeCount_merge {new : Json} (hnew : (membersOf new).Sorted) {old : Json}
    (hfits : mergeCount (membersOf old) + 1 < twoTo 64) (now : String) :
    mergeCount (membersOf (merge now old new)) = mergeCount (membersOf old) + 1 := by
  have hcount := mergeCount_mergeMembers hnew now (membersOf old)
  rw [merge, membersOf, Json.members?, Option.getD_some, mergeCount, hcount, Option.bind_some,
    Json.u64?_nat hfits, Option.getD_some]

theorem mergeCount_mergeAll (base : Json) {news : List (String × Json)}
    (hsorted : ∀ new ∈ news, (membersOf new.2).Sorted)
    (hfits : mergeCount (membersOf base) + news.length < twoTo 64) :
    mergeCount (membersOf (mergeAll base news)) = mergeCount (membersOf base) + news.length := by
  induction news using List.reverseRecOn with
  | nil => rfl
  | append_singleton news new ih =>
      rw [List.forall_mem_append] at hsorted
      rw [List.length_append, List.length_singleton] at hfits ⊢
      have hcount := ih hsorted.1 (by omega)
      have hnew := hsorted.2 new (List.mem_singleton_self new)
      rw [mergeAll_concat, mergeCount_merge hnew (by omega), hcount, Nat.add_assoc]

/-- What is left when contexts are merged over a base one after another, at least one
of them.  Lists of recommendations and of action items at the end are put together, and
so are objects of findings, but not past a value of another shape; of anything else the
last value is left.  The number of merges goes on from the base, whatever the contexts
state. -/
theorem mergeAll_accumulates {base : Json} {news : List (String × Json)} (hnews : news ≠ [])
    (hordered : ∀ context ∈ base :: news.map Prod.snd, context.Everywhere Json.IsOrdered) :
    ∃ merged : Members, mergeAll base news = .obj merged ∧ merged.Sorted ∧
      (∀ key ∈ ["recommendations", "action_items"], merged.get? key =
        settled Json.items? .arr (stated (base :: news.map Prod.snd) key)) ∧
      merged.get? "findings" =
        settled Json.members? objectOf (stated (base :: news.map Prod.snd) "findings") ∧
      (∀ key ∉ ["recommendations", "action_items", "findings", lastUpdatedKey, mergeCountKey],
        merged.get? key = (stated (base :: news.map Prod.snd) key).getLast?) ∧
      (mergeCount (membersOf base) + news.length < twoTo 64 → merged.get? mergeCountKey =
        some (.nat (mergeCount (membersOf base) + news.length))) := by
  obtain ⟨front, last, rfl⟩ := (List.eq_nil_or_concat news).resolve_left hnews
  rw [List.concat_eq_append] at hordered ⊢
  have hbase := hordered base List.mem_cons_self
  have hnew (new : String × Json) (h : new ∈ front ++ [last]) : (membersOf new.2).Sorted :=
    sorted_membersOf (hordered new.2 (List.mem_cons_of_mem base (List.mem_map_of_mem h)))
  have hsettles := settles_mergeAll hordered
  have hsorted := sorted_mergeAll (sorted_membersOf hbase) (front ++ [last])
  rw [mergeAll_concat] at hsettles hsorted ⊢
  refine ⟨_, rfl, hsorted, ?_, hsettles.findings, ?_, ?_⟩
  · intro key hkey
    apply hsettles.lists key
    simpa [grows] using hkey
  · intro key hkey
    simp only [List.mem_cons, List.not_mem_nil, or_false, not_or] at hkey
    obtain ⟨hrecommendations, hitems, hfindings, htime, hcount⟩ := hkey
    apply hsettles.others key _ _ hfindings
    · exact not_or.mpr ⟨hcount, htime⟩
    · simp [grows, hrecommendations, hitems]
  · intro hfits
    rw [List.length_append, List.length_singleton] at hfits ⊢
    have hsorted : ∀ new ∈ front, (membersOf new.2).Sorted := by
      intro new hmem
      exact hnew new (List.mem_append_left [last] hmem)
    have hlast : (membersOf last.2).Sorted := hnew last (by simp)
    have hfront := mergeCount_mergeAll base hsorted (by omega)
    have hcount := mergeCount_mergeMembers hlast last.1 (membersOf (mergeAll base front))
    rw [hfront, Nat.add_assoc] at hcount
    exact hcount

/-- Two lists after a text, findings in two parts, and a count that is not asked for. -/
def rounds : List (String × Json) :=
  [("t1", .obj [("findings", .obj [("xss", .nat 1)]), ("recommendations", .str "none")]),
    ("t2", .obj [("context_merge_count", .nat 99), ("recommendations", .strings ["a"])]),
    ("t3", .obj [("findings", .obj [("sql", .nat 2), ("xss", .nat 4)]),
      ("recommendations", .strings ["b"])])]

theorem mergeAll_rounds_accumulates :
    (∀ context ∈ Json.null :: rounds.map Prod.snd, context.Everywhere Json.IsOrdered) ∧
    ∃ merged : Members, mergeAll .null rounds = .obj merged ∧
      merged.get? "recommendations" = some (.strings ["a", "b"]) ∧
      merged.get? "findings" = some (.obj [("sql", .nat 2), ("xss", .nat 4)]) ∧
      merged.get? "run_id" = none ∧ merged.get? mergeCountKey = some (.nat 3) := by
  have hordered : ∀ context ∈ Json.null :: rounds.map Prod.snd,
      context.Everywhere Json.IsOrdered := by
    decide
  obtain ⟨merged, hmerged, -, hlists, hfindings, hothers, hcount⟩ :=
    mergeAll_accumulates (by decide : rounds ≠ []) hordered
  refine ⟨hordered, merged, hmerged, ?_, ?_, ?_, hcount (by decide)⟩
  · rw [hlists "recommendations" (by simp)]
    decide
  · rw [hfindings]
    decide
  · rw [hothers "run_id" (by decide)]
    decide

end Context

end ScaffoldRunner
