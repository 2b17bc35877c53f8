import ScaffoldRunner.Json.Record
import ScaffoldRunner.Proofs.Json.Everywhere
import Mathlib.Data.List.Forall2

/-!
# Records that are written and read

A record is written as its fields that have a value, each under its name.  Whatever
the order of the members, it is read field by field as it was written.
-/

namespace ScaffoldRunner

namespace Record

/-- What a list is read as, item by item. -/
theorem mapM_eq_some_iff {α β : Type} {f : α → Option β} {items : List α} {results : List β} :
    items.mapM f = some results ↔ List.Forall₂ (fun a b => f a = some b) items results := by
  induction items generalizing results with
  | nil =>
      rw [List.mapM_nil, List.forall₂_nil_left_iff, Option.pure_def, Option.some.injEq, eq_comm]
  | cons a items ih =>
      rw [List.mapM_cons, List.forall₂_cons_left_iff]
      constructor
      · intro h
        obtain ⟨b, hb, h⟩ := Option.bind_eq_some_iff.mp h
        obtain ⟨more, hmore, h⟩ := Option.bind_eq_some_iff.mp h
        exact ⟨b, more, hb, ih.mp hmore, (Option.some.inj h).symm⟩
      · rintro ⟨b, more, hb, hmore, rfl⟩
        rw [hb, ih.mpr hmore]
        rfl

variable {source : Source} {P : Json → Prop} {j : Json}

/-! ## Fields -/

/-- The members of a record: its fields that have a value. -/
def present (fields : List (String × Option Json)) : Members :=
  fields.flatMap fun field => Json.optionalMember field.1 field.2

variable {fields : List (String × Option Json)}

theorem present_cons (field : String × Option Json) (fields : List (String × Option Json)) :
    present (field :: fields) = Json.optionalMember field.1 field.2 ++ present fields :=
  List.flatMap_cons

theorem keys_present_sublist (fields : List (String × Option Json)) :
    (present fields).keys.Sublist (fields.map Prod.fst) := by
  induction fields with
  | nil => exact List.Sublist.refl []
  | cons field fields ih =>
      obtain ⟨name, value⟩ := field
      rw [present_cons]
      cases value with
      | none => exact ih.cons name
      | some j => exact ih.cons_cons name

theorem nodup_keys_present (hnodup : (fields.map Prod.fst).Nodup) : (present fields).keys.Nodup :=
  hnodup.sublist (keys_present_sublist fields)

theorem get?_optionalMember (name key : String) (value : Option Json) :
    Dict.get? (Json.optionalMember name value) key = if key = name then value else none := by
  cases value with
  | none => simp [Json.optionalMember]
  | some j => rw [Json.optionalMember, Dict.get?_cons, Dict.get?_nil]

/-- Every field is found under its name, if it has a value. -/
theorem get?_present (hnodup : (fields.map Prod.fst).Nodup) {field : String × Option Json}
    (hfield : field ∈ fields) : Dict.get? (present fields) field.1 = field.2 := by
  induction fields with
  | nil => cases hfield
  | cons first fields ih =>
      rw [List.map_cons, List.nodup_cons] at hnodup
      rw [present_cons, Dict.get?_append, get?_optionalMember]
      rcases List.mem_cons.mp hfield with rfl | hfield
      · have hnone : Dict.get? (present fields) field.1 = none := by
          cases hget : Dict.get? (present fields) field.1 with
          | none => rfl
          | some j =>
              refine absurd ?_ hnodup.1
              exact (keys_present_sublist fields).subset
                (List.mem_map_of_mem (Dict.mem_of_get? hget))
        rw [if_pos rfl, hnone, Option.or_none]
      · have hne : field.1 ≠ first.1 := fun heq =>
          hnodup.1 (heq ▸ List.mem_map_of_mem hfield)
        rw [if_neg hne, Option.none_or, ih hnodup.2 hfield]

/-- The fields of a written record, whatever the order of its members. -/
theorem fields?_present {names : List String} (hnames : fields.map Prod.fst = names)
    (hnodup : names.Nodup) :
    fields? source names (Json.obj (present fields)).sorted =
      some (fields.map fun field => field.2.map Json.sorted) := by
  subst hnames
  rw [Json.sorted, fields?, List.map_map]
  refine congrArg some (List.map_congr_left fun field hfield => ?_)
  rw [Function.comp_apply, Json.get?_sortedMembers (nodup_keys_present hnodup),
    get?_present hnodup hfield]

theorem everywhere_present (hrecord : P (.obj (present fields)))
    (hfields : ∀ field ∈ fields, ∀ j ∈ field.2, j.Everywhere P) :
    (Json.obj (present fields)).Everywhere P := by
  refine Json.everywhere_obj.mpr ⟨hrecord, fun e he => ?_⟩
  obtain ⟨⟨name, value⟩, hfield, he⟩ := List.mem_flatMap.mp he
  cases value with
  | none => cases he
  | some j =>
      obtain rfl := List.mem_singleton.mp he
      exact hfields _ hfield j rfl

/-- The fields of a record are parts of it. -/
theorem everywhere_of_fields? {names : List String} {found : List (Option Json)}
    (hj : j.Everywhere P) (h : fields? source names j = some found) :
    ∀ field ∈ found, ∀ part ∈ field, part.Everywhere P := by
  intro field hfield part hpart
  obtain rfl : field = some part := hpart
  cases j with
  | obj members =>
      obtain rfl := Option.some.inj h
      obtain ⟨name, -, hget⟩ := List.mem_map.mp hfield
      exact (Json.everywhere_obj.mp hj).2 _ (Dict.mem_of_get? hget)
  | arr items =>
      rw [fields?] at h
      split at h
      · cases h
      · obtain rfl := Option.some.inj h
        obtain ⟨i, -, hget⟩ := List.mem_map.mp hfield
        exact (Json.everywhere_arr.mp hj).2 _ (List.mem_of_getElem? hget)
  | _ => cases h

/-! ## Values of fields -/

/-- A field that is not given has its default value. -/
theorem of_withDefault {α : Type} {p : α → Prop} {default a : α} {read : Json → Option α}
    {field : Option Json} (hdefault : p default)
    (hread : ∀ part ∈ field, ∀ a, read part = some a → p a)
    (h : withDefault default read field = some a) : p a := by
  cases field with
  | none =>
      obtain rfl := Option.some.inj h
      exact hdefault
  | some part => exact hread part rfl a h

theorem of_optional {α : Type} {p : α → Prop} {read : Json → Option α} {field : Option Json}
    {value : Option α} (hread : ∀ part ∈ field, ∀ a, read part = some a → p a)
    (h : optional .configuration read field = some value) : ∀ a ∈ value, p a := by
  cases field with
  | none =>
      obtain rfl := Option.some.inj h
      exact nofun
  | some part =>
      obtain ⟨a, ha, rfl⟩ := Option.map_eq_some_iff.mp h
      rintro _ ⟨⟩
      exact hread part rfl a ha

/-- A field that is left out when there is no value is read as it was written. -/
theorem optional_map {α : Type} {read : Json → Option α} {write : α → Json} {value : Option α}
    (hread : ∀ a ∈ value, read (write a) = some a) :
    optional .configuration read (value.map write) = some value := by
  cases value with
  | none => rfl
  | some a => exact Option.map_eq_some_iff.mpr ⟨a, hread a rfl, rfl⟩

theorem nat?_nat {bound n : Nat} (h : n ≤ bound) : nat? bound (.nat n) = some n := by
  rw [Json.nat, nat?, if_pos ⟨Int.natCast_nonneg n, Int.ofNat_le.mpr h⟩]
  rfl

theorem nat?_eq_some {bound n : Nat} (h : nat? bound j = some n) : j = .nat n ∧ n ≤ bound := by
  cases j with
  | int i =>
      rw [nat?] at h
      split at h
      · next hrange =>
          obtain rfl := Option.some.inj h
          obtain ⟨hlow, hhigh⟩ := hrange
          rw [Json.nat, Int.ofNat_eq_natCast, Int.toNat_of_nonneg hlow]
          exact ⟨rfl, Int.toNat_le.mpr hhigh⟩
      · cases h
  | _ => cases h

theorem strings?_strings (texts : List String) :
    strings? (Json.strings texts).sorted = some texts := by
  have hsorted : (Json.strings texts).sorted = .strings texts := by
    rw [Json.strings, Json.sorted, Json.sortedItems_eq, List.map_map]
    rfl
  rw [hsorted, strings?, Json.strings, list?, mapM_eq_some_iff, List.forall₂_map_left_iff,
    List.forall₂_same]
  exact fun text _ => rfl

/-- Entries that are written one by one are read as they were. -/
theorem dict?_mapValues {α : Type} {read : Json → Option α} {write : α → Json} {d : Dict α}
    (hd : d.Sorted) (hread : ∀ e ∈ d, read (write e.2).sorted = some e.2) :
    dict? read (Json.obj (d.mapValues write)).sorted = some d := by
  rw [Json.sorted, Json.sortedMembers_eq, Dict.mapValues_mapValues,
    Dict.ofList_of_sorted (hd.mapValues _), dict?, mapM_eq_some_iff, Dict.mapValues,
    List.forall₂_map_left_iff, List.forall₂_same]
  intro e he
  dsimp only
  rw [hread e he, Option.map_some]

/-- Entries are read one by one, under the names that they are listed under. -/
theorem exists_of_dict? {α : Type} {read : Json → Option α} {d : Dict α}
    (h : dict? read j = some d) :
    ∃ members, j = .obj members ∧ d.keys = Dict.keys members ∧
      ∀ e ∈ d, ∃ member ∈ members, read member.2 = some e.2 := by
  cases j with
  | obj members =>
      refine ⟨members, rfl, ?_⟩
      induction mapM_eq_some_iff.mp h with
      | nil => exact ⟨rfl, nofun⟩
      | @cons member entry members d hread hrest ih =>
          obtain ⟨hkeys, hentries⟩ := ih (mapM_eq_some_iff.mpr hrest)
          obtain ⟨a, ha, rfl⟩ := Option.map_eq_some_iff.mp hread
          refine ⟨congrArg (List.cons member.1) hkeys, List.forall_mem_cons.mpr ⟨?_, ?_⟩⟩
          · exact ⟨member, List.mem_cons_self, ha⟩
          · intro e he
            obtain ⟨other, hother, hread⟩ := hentries e he
            exact ⟨other, List.mem_cons_of_mem member hother, hread⟩
  | _ => cases h

end Record

end ScaffoldRunner
