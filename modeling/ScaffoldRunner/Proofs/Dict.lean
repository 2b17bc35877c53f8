import ScaffoldRunner.Data.Dict

/-!
# Laws of dictionaries

What `insert` does to the three views of a dictionary: the value under a name,
the names in use, and their order.  Looking a name up needs no order; that a
name occurs only once does.  A list of entries is a dictionary in the making:
its last entry of a name counts.
-/

namespace ScaffoldRunner.Dict

variable {α : Type}

@[simp] theorem get?_nil (key : String) :
    Dict.get? ([] : Dict α) key = none :=
  rfl

theorem get?_cons (entry : String × α) (d : Dict α) (key : String) :
    Dict.get? (entry :: d) key =
      if key = entry.1 then some entry.2 else d.get? key := by
  by_cases hkey : entry.1 = key
  · simp [get?, hkey]
  · simp [get?, hkey, Ne.symm hkey]

/-- Inserting changes the value under one name only. -/
theorem get?_insert (d : Dict α) (key other : String) (value : α) :
    (d.insert key value).get? other =
      if other = key then some value else d.get? other := by
  induction d with
  | nil => rw [insert, get?_cons]
  | cons entry d ih =>
      by_cases hlt : key < entry.1
      · rw [insert, if_pos hlt, get?_cons]
      · by_cases heq : key = entry.1
        · rw [insert, if_neg hlt, if_pos heq, get?_cons, get?_cons, heq]
          split <;> rfl
        · rw [insert, if_neg hlt, if_neg heq, get?_cons, get?_cons, ih]
          by_cases hother : other = entry.1
          · have hne : other ≠ key := fun h => heq (h.symm.trans hother)
            rw [if_pos hother, if_neg hne, if_pos hother]
          · rw [if_neg hother, if_neg hother]

theorem get?_insert_self (d : Dict α) (key : String) (value : α) :
    (d.insert key value).get? key = some value := by
  rw [get?_insert, if_pos rfl]

theorem get?_insert_of_ne (d : Dict α) {key other : String} (value : α)
    (hne : other ≠ key) :
    (d.insert key value).get? other = d.get? other := by
  rw [get?_insert, if_neg hne]

theorem mem_keys_insert {d : Dict α} {key other : String} {value : α} :
    other ∈ (d.insert key value).keys ↔ other = key ∨ other ∈ d.keys := by
  induction d with
  | nil => simp [insert, keys]
  | cons entry d ih =>
      by_cases hlt : key < entry.1
      · simp [insert, hlt, keys]
      · by_cases heq : key = entry.1
        · simp [insert, heq, keys]
        · have hkeys : (Dict.insert key value (entry :: d)).keys =
              entry.1 :: (Dict.insert key value d).keys := by
            simp [insert, hlt, heq, keys]
          have hold : Dict.keys (entry :: d) = entry.1 :: Dict.keys d := rfl
          rw [hkeys, hold, List.mem_cons, List.mem_cons, ih]
          exact or_left_comm

/-- Names stay in order when one is inserted. -/
instance (d : Dict α) : Decidable d.Sorted :=
  inferInstanceAs (Decidable (d.Pairwise fun a b => a.1 < b.1))

theorem sorted_insert {d : Dict α} (hd : d.Sorted) (key : String) (value : α) :
    (d.insert key value).Sorted := by
  induction d with
  | nil => simp [insert, Sorted]
  | cons entry d ih =>
      obtain ⟨hhead, htail⟩ := List.pairwise_cons.mp hd
      by_cases hlt : key < entry.1
      · rw [insert, if_pos hlt]
        refine List.pairwise_cons.mpr ⟨?_, hd⟩
        intro e he
        rcases List.mem_cons.mp he with rfl | he
        · exact hlt
        · exact String.lt_trans hlt (hhead e he)
      · by_cases heq : key = entry.1
        · rw [insert, if_neg hlt, if_pos heq]
          exact List.pairwise_cons.mpr ⟨fun e he => heq ▸ hhead e he, htail⟩
        · have hgt : entry.1 < key :=
            String.not_le.mp fun hle =>
              heq (String.le_antisymm hle (String.not_lt.mp hlt))
          rw [insert, if_neg hlt, if_neg heq]
          refine List.pairwise_cons.mpr ⟨?_, ih htail⟩
          intro e he
          have hkey : e.1 ∈ (Dict.insert key value d).keys :=
            List.mem_map_of_mem he
          rcases mem_keys_insert.mp hkey with hnew | hold
          · exact hnew ▸ hgt
          · obtain ⟨e', he', hname⟩ := List.mem_map.mp hold
            exact hname ▸ hhead e' he'

/-- An entry of a new name is added to those there are. -/
theorem insert_perm_of_notMem {d : Dict α} {key : String} {value : α} (hkey : key ∉ d.keys) :
    (d.insert key value).Perm ((key, value) :: d) := by
  induction d with
  | nil => exact List.Perm.refl _
  | cons entry d ih =>
      have hne : key ≠ entry.1 := fun heq => hkey (heq ▸ List.mem_cons_self)
      have hrest : key ∉ Dict.keys d := fun hmem => hkey (List.mem_cons_of_mem _ hmem)
      rw [insert, if_neg hne]
      split
      · exact List.Perm.refl _
      · exact ((ih hrest).cons entry).trans (List.Perm.swap (key, value) entry d)

/-- A new name is added to those in use. -/
theorem keys_insert_of_notMem {d : Dict α} {key : String} {value : α}
    (hkey : key ∉ d.keys) :
    (d.insert key value).keys.Perm (key :: d.keys) :=
  (insert_perm_of_notMem hkey).map Prod.fst

/-- A name in use stays where it is. -/
theorem keys_insert_of_mem {d : Dict α} (hd : d.Sorted) {key : String} {value : α}
    (hkey : key ∈ d.keys) :
    (d.insert key value).keys = d.keys := by
  induction d with
  | nil => simp [keys] at hkey
  | cons entry d ih =>
      obtain ⟨hhead, htail⟩ := List.pairwise_cons.mp hd
      have hle : ∀ name ∈ Dict.keys d, entry.1 < name := by
        intro name hname
        obtain ⟨e, he, rfl⟩ := List.mem_map.mp hname
        exact hhead e he
      rcases List.mem_cons.mp hkey with heq | hmem
      · rw [insert, if_neg (heq ▸ String.lt_irrefl _), if_pos heq]
        simp [keys, heq]
      · have hlt := hle key hmem
        rw [insert, if_neg (String.lt_asymm hlt), if_neg (String.ne_of_lt hlt).symm]
        exact congrArg (List.cons entry.1) (ih htail hmem)

/-! ## Lists of entries -/

/-- The value of the last entry of a name. -/
def last? (entries : List (String × α)) (key : String) : Option α :=
  (entries.reverse.find? fun e => e.1 = key).map (·.2)

@[simp] theorem last?_nil (key : String) : last? ([] : List (String × α)) key = none :=
  rfl

theorem last?_append (before after : List (String × α)) (key : String) :
    last? (before ++ after) key = (last? after key).or (last? before key) := by
  rw [last?, List.reverse_append, List.find?_append, Option.map_or]
  rfl

theorem last?_cons (entry : String × α) (entries : List (String × α)) (key : String) :
    last? (entry :: entries) key =
      (last? entries key).or (if entry.1 = key then some entry.2 else none) := by
  have happend := last?_append [entry] entries key
  rw [List.singleton_append] at happend
  rw [happend]
  by_cases hkey : entry.1 = key <;> simp [last?, hkey]

theorem last?_eq_none_iff {entries : List (String × α)} {key : String} :
    last? entries key = none ↔ ∀ e ∈ entries, e.1 ≠ key := by
  simp [last?, List.find?_eq_none]

/-- Of the entries of a name the last one counts, and a name without an entry
keeps its value. -/
theorem get?_overlay (base top : Dict α) (key : String) :
    (overlay base top).get? key = (last? top key).or (base.get? key) := by
  induction top generalizing base with
  | nil => rfl
  | cons entry top ih =>
      change (overlay (base.insert entry.1 entry.2) top).get? key = _
      rw [ih, get?_insert, last?_cons]
      by_cases hkey : entry.1 = key
      · rw [if_pos hkey.symm, if_pos hkey, Option.or_assoc, Option.some_or]
      · rw [if_neg (Ne.symm hkey), if_neg hkey, Option.or_none]

theorem get?_ofList (entries : List (String × α)) (key : String) :
    (ofList entries).get? key = last? entries key := by
  rw [ofList, get?_overlay, get?_nil, Option.or_none]

theorem overlay_append (base top more : Dict α) :
    overlay base (top ++ more) = overlay (overlay base top) more :=
  List.foldl_append

theorem sorted_overlay {base : Dict α} (hbase : base.Sorted) (top : Dict α) :
    (overlay base top).Sorted := by
  induction top generalizing base with
  | nil => exact hbase
  | cons entry top ih => exact ih (sorted_insert hbase entry.1 entry.2)

theorem sorted_ofList (entries : List (String × α)) : (ofList entries).Sorted :=
  sorted_overlay List.Pairwise.nil entries

theorem ofList_eq_nil_iff {entries : List (String × α)} : ofList entries = [] ↔ entries = [] := by
  constructor
  · intro hnil
    refine List.eq_nil_iff_forall_not_mem.mpr fun e he => ?_
    have hnone : last? entries e.1 = none := by
      rw [← get?_ofList, hnil, get?_nil]
    exact last?_eq_none_iff.mp hnone e he rfl
  · rintro rfl
    rfl

theorem Sorted.nodup_keys {d : Dict α} (hd : d.Sorted) : d.keys.Nodup :=
  List.pairwise_map.mpr (hd.imp String.ne_of_lt)

/-- The only entry of a name is the last one. -/
theorem last?_of_nodup {d : Dict α} (hd : d.keys.Nodup) (key : String) :
    last? d key = d.get? key := by
  induction d with
  | nil => rfl
  | cons entry d ih =>
      obtain ⟨hhead, htail⟩ := List.nodup_cons.mp hd
      rw [last?_cons, get?_cons]
      by_cases hkey : entry.1 = key
      · have hnone : last? d key = none :=
          last?_eq_none_iff.mpr fun e he heq =>
            hhead (List.mem_map.mpr ⟨e, he, heq.trans hkey.symm⟩)
        rw [hnone, if_pos hkey, if_pos hkey.symm, Option.none_or]
      · rw [if_neg hkey, if_neg (Ne.symm hkey), Option.or_none, ih htail]

theorem Sorted.last?_eq {d : Dict α} (hd : d.Sorted) (key : String) :
    last? d key = d.get? key :=
  last?_of_nodup hd.nodup_keys key

theorem insert_eq_append {d : Dict α} {key : String} (hkey : ∀ e ∈ d, e.1 < key)
    (value : α) : d.insert key value = d ++ [(key, value)] := by
  induction d with
  | nil => rfl
  | cons entry d ih =>
      have hlt : entry.1 < key := hkey entry List.mem_cons_self
      rw [insert, if_neg (String.lt_asymm hlt), if_neg (String.ne_of_lt hlt).symm,
        ih fun e he => hkey e (List.mem_cons_of_mem entry he), List.cons_append]

/-- A list that is a dictionary stays as it is. -/
theorem ofList_of_sorted {d : Dict α} (hd : d.Sorted) : ofList d = d := by
  suffices h : ∀ base : Dict α, (base ++ d).Sorted → overlay base d = base ++ d from
    h [] hd
  intro base hbase
  induction d generalizing base with
  | nil => rw [List.append_nil]; rfl
  | cons entry d ih =>
      have hlt : ∀ e ∈ base, e.1 < entry.1 := fun e he =>
        (List.pairwise_append.mp hbase).2.2 e he entry List.mem_cons_self
      have hnext : base.insert entry.1 entry.2 = base ++ [entry] :=
        insert_eq_append hlt entry.2
      change overlay (base.insert entry.1 entry.2) d = _
      rw [hnext, ih (List.pairwise_cons.mp hd).2]
      · rw [List.append_assoc, List.singleton_append]
      · rwa [List.append_assoc, List.singleton_append]

/-! ## Things under their own names -/

variable {d : Dict α} {name : α → String}

theorem Sorted.get?_eq_some_iff (hd : d.Sorted) {key : String} {value : α} :
    d.get? key = some value ↔ (key, value) ∈ d := by
  induction d with
  | nil => simp
  | cons entry d ih =>
      obtain ⟨hhead, htail⟩ := List.pairwise_cons.mp hd
      rw [get?_cons, List.mem_cons]
      by_cases hkey : key = entry.1
      · have hrest : (key, value) ∉ d := fun hmem =>
          String.ne_of_lt (hhead _ hmem) hkey.symm
        rw [if_pos hkey, or_iff_left hrest, Option.some.injEq, Prod.ext_iff]
        exact ⟨fun hvalue => ⟨hkey, hvalue.symm⟩, fun h => h.2.symm⟩
      · have hfirst : (key, value) ≠ entry := fun heq => hkey (congrArg Prod.fst heq)
        rw [if_neg hkey, or_iff_right hfirst, ih htail]

/-- An entry is found that stands among the others. -/
theorem Sorted.get?_of_eq_append {before after : Dict α} (hd : d.Sorted) {key : String}
    {value : α} (h : d = before ++ (key, value) :: after) : d.get? key = some value := by
  refine hd.get?_eq_some_iff.mpr ?_
  rw [h]
  exact List.mem_append_right before List.mem_cons_self

/-- A dictionary is determined by what is found in it. -/
theorem Sorted.ext {e : Dict α} (hd : d.Sorted) (he : e.Sorted)
    (h : ∀ key, d.get? key = e.get? key) : d = e := by
  have hne {a b : String × α} (hlt : a.1 < b.1) : a ≠ b := fun heq =>
    String.ne_of_lt hlt (congrArg Prod.fst heq)
  have hperm : d.Perm e := by
    refine (List.perm_ext_iff_of_nodup (hd.imp hne) (he.imp hne)).mpr fun entry => ?_
    rw [← hd.get?_eq_some_iff, ← he.get?_eq_some_iff, h]
  exact hperm.eq_of_pairwise (fun a b _ _ hab hba => absurd hab (String.lt_asymm hba)) hd he

/-- Things that are kept under their own names are in the order of these. -/
theorem Sorted.pairwise_values (hd : d.Sorted)
    (hname : ∀ key value, d.get? key = some value → name value = key) :
    (d.values.map name).Pairwise (· < ·) := by
  have hkeys : d.values.map name = d.keys := by
    rw [values, keys, List.map_map]
    exact List.map_congr_left fun entry hentry =>
      hname entry.1 entry.2 (hd.get?_eq_some_iff.mpr hentry)
  rw [hkeys]
  exact List.pairwise_map.mpr hd

theorem Sorted.mem_values_iff (hd : d.Sorted)
    (hname : ∀ key value, d.get? key = some value → name value = key) {value : α} :
    value ∈ d.values ↔ d.get? (name value) = some value := by
  rw [hd.get?_eq_some_iff]
  constructor
  · intro hmem
    obtain ⟨entry, hentry, rfl⟩ := List.mem_map.mp hmem
    rw [hname entry.1 entry.2 (hd.get?_eq_some_iff.mpr hentry)]
    exact hentry
  · exact fun hmem => List.mem_map_of_mem hmem

/-! ## Entries -/

theorem mem_of_get? {d : Dict α} {key : String} {value : α} (h : d.get? key = some value) :
    (key, value) ∈ d := by
  obtain ⟨entry, hentry, rfl⟩ := Option.map_eq_some_iff.mp h
  obtain rfl : entry.1 = key := by simpa using List.find?_some hentry
  exact List.mem_of_find?_eq_some hentry

theorem get?_append (d more : Dict α) (key : String) :
    Dict.get? (d ++ more) key = (d.get? key).or (more.get? key) := by
  rw [get?, List.find?_append, Option.map_or]
  rfl

theorem eq_or_mem_of_mem_insert {d : Dict α} {key : String} {value : α} {entry : String × α}
    (h : entry ∈ d.insert key value) : entry = (key, value) ∨ entry ∈ d := by
  induction d with
  | nil => exact .inl (List.mem_singleton.mp h)
  | cons first d ih =>
      rw [insert] at h
      split at h
      · exact (List.mem_cons.mp h)
      · split at h
        · exact (List.mem_cons.mp h).imp_right (List.mem_cons_of_mem first)
        · rcases List.mem_cons.mp h with rfl | h
          · exact .inr List.mem_cons_self
          · exact (ih h).imp_right (List.mem_cons_of_mem first)

/-- The entries of a dictionary were entered. -/
theorem mem_of_mem_overlay {base top : Dict α} {entry : String × α}
    (h : entry ∈ overlay base top) : entry ∈ base ∨ entry ∈ top := by
  induction top generalizing base with
  | nil => exact .inl h
  | cons first top ih =>
      have hinserted : entry ∈ overlay (base.insert first.1 first.2) top := h
      rcases ih hinserted with hbase | htop
      · rcases eq_or_mem_of_mem_insert hbase with rfl | hbase
        · exact .inr List.mem_cons_self
        · exact .inl hbase
      · exact .inr (List.mem_cons_of_mem first htop)

theorem mem_of_mem_ofList {entries : List (String × α)} {entry : String × α}
    (h : entry ∈ ofList entries) : entry ∈ entries :=
  (mem_of_mem_overlay h).resolve_left List.not_mem_nil

/-- Things whose names differ are all kept, if entering one of a new name keeps what
there is. -/
theorem foldl_perm {κ : Type} {name : α → κ} {enter : List α → α → List α}
    (henter : ∀ {kept a}, name a ∉ kept.map name → (enter kept a).Perm (a :: kept))
    {kept entries : List α} (hnodup : ((kept ++ entries).map name).Nodup) :
    (entries.foldl enter kept).Perm (kept ++ entries) := by
  induction entries generalizing kept with
  | nil => rw [List.append_nil]; exact List.Perm.refl _
  | cons entry entries ih =>
      have hnew : (enter kept entry).Perm (entry :: kept) := by
        refine henter fun hmem => ?_
        rw [List.map_append] at hnodup
        exact (List.nodup_append.mp hnodup).2.2 _ hmem _ List.mem_cons_self rfl
      have hmoved : (enter kept entry ++ entries).Perm (kept ++ entry :: entries) :=
        (hnew.append_right entries).trans List.perm_middle.symm
      exact (ih ((hmoved.map name).nodup_iff.mpr hnodup)).trans hmoved

theorem ofList_perm {entries : Dict α} (hnodup : entries.keys.Nodup) :
    (ofList entries).Perm entries :=
  foldl_perm insert_perm_of_notMem hnodup

/-! ## Changed values -/

variable {β : Type} (f : α → β)

@[simp] theorem keys_mapValues (d : Dict α) : (d.mapValues f).keys = d.keys := by
  rw [keys, mapValues, List.map_map]
  rfl

theorem get?_mapValues (d : Dict α) (key : String) :
    (d.mapValues f).get? key = (d.get? key).map f := by
  induction d with
  | nil => rfl
  | cons entry d ih =>
      rw [mapValues, List.map_cons, get?_cons, get?_cons, apply_ite (Option.map f)]
      rw [mapValues] at ih
      rw [ih]
      rfl

theorem Sorted.mapValues {d : Dict α} (hd : d.Sorted) : (d.mapValues f).Sorted :=
  List.pairwise_map.mpr hd

theorem mapValues_insert (d : Dict α) (key : String) (value : α) :
    (d.insert key value).mapValues f = (d.mapValues f).insert key (f value) := by
  induction d with
  | nil => rfl
  | cons entry d ih =>
      have hcons : Dict.mapValues f (entry :: d) =
          (entry.1, f entry.2) :: Dict.mapValues f d := rfl
      rw [hcons, Dict.insert, Dict.insert]
      split
      · rfl
      · split
        · rfl
        · exact congrArg _ ih

theorem mapValues_mapValues {γ : Type} (g : β → γ) (d : Dict α) :
    (d.mapValues f).mapValues g = d.mapValues fun a => g (f a) := by
  rw [Dict.mapValues, Dict.mapValues, Dict.mapValues, List.map_map]
  rfl

end ScaffoldRunner.Dict
