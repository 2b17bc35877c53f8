import ScaffoldRunner.Proofs.Json.Everywhere
import ScaffoldRunner.Toml.Parser
import ScaffoldRunner.Toml.Printer

/-!
# Values in a TOML text

A value that is read from a text has integers of 64 bits and finite floating-point
numbers only, and the members of its objects are in the order of their names.  While
a document is read this holds of the values that its open tables would have, and no
entry that is added changes it.

A document can be written if nothing is missing in it and its integers fit.  Values
inside a line are written part by part, tables section by section.
-/

namespace ScaffoldRunner.Toml

/-- What the parts of a value that was read are like. -/
def IsRead : Json → Prop
  | .int i => fitsSigned 64 i = true
  | .float x => x.isFinite = true
  | .obj members => Dict.Sorted members
  | _ => True

variable {cs rest : List Char} {j : Json}

/-! ## Numbers -/

theorem int64?_eq_some {i k : Int} (h : int64? i = some k) : fitsSigned 64 k = true := by
  rw [int64?] at h
  split at h
  · next hfits =>
      obtain rfl := Option.some.inj h
      exact hfits
  · cases h

theorem fits_of_based? {base : Nat} {isDigit : Char → Bool} {i : Int}
    (h : based? base isDigit cs = some (i, rest)) : fitsSigned 64 i = true := by
  obtain ⟨_, -, h⟩ := Option.bind_eq_some_iff.mp h
  obtain ⟨_, hint, h⟩ := Option.bind_eq_some_iff.mp h
  obtain ⟨rfl, -⟩ := Prod.mk.inj (Option.some.inj h)
  exact int64?_eq_some hint

theorem fits_of_integer? {i : Int} (h : integer? cs = some (i, rest)) :
    fitsSigned 64 i = true := by
  rw [integer?.eq_def] at h
  split at h
  · exact fits_of_based? h
  · exact fits_of_based? h
  · exact fits_of_based? h
  · obtain ⟨_, -, h⟩ := Option.bind_eq_some_iff.mp h
    obtain ⟨_, hint, h⟩ := Option.bind_eq_some_iff.mp h
    obtain ⟨rfl, -⟩ := Prod.mk.inj (Option.some.inj h)
    exact int64?_eq_some hint

theorem everywhere_number? (h : number? cs = some (j, rest)) : j.Everywhere IsRead := by
  rw [number?] at h
  split at h
  · next x _ _ =>
      obtain ⟨rfl, -⟩ := Prod.mk.inj (Option.some.inj h)
      split
      · assumption
      · trivial
  · split at h
    · obtain ⟨rfl, -⟩ := Prod.mk.inj (Option.some.inj h)
      trivial
    · obtain ⟨found, hint, h⟩ := Option.map_eq_some_iff.mp h
      obtain ⟨rfl, -⟩ := Prod.mk.inj h
      exact fits_of_integer? hint

theorem everywhere_plainValue? (h : plainValue? cs = some (j, rest)) : j.Everywhere IsRead := by
  rw [plainValue?.eq_def] at h
  split at h
  · obtain ⟨rfl, -⟩ := Prod.mk.inj (Option.some.inj h)
    trivial
  · obtain ⟨rfl, -⟩ := Prod.mk.inj (Option.some.inj h)
    trivial
  · split at h
    · obtain ⟨rfl, -⟩ := Prod.mk.inj (Option.some.inj h)
      exact ⟨List.pairwise_singleton _ _, trivial, trivial⟩
    · exact everywhere_number? h

/-! ## Tables -/

theorem tableMembers_eq (table : Table) : tableMembers table = table.mapValues Item.toJson := by
  induction table with
  | nil => rfl
  | cons e table ih => rw [tableMembers, ih]; rfl

namespace Table

variable {table next : Table} {key : String} {item : Item} {value : Json} {path : List String}

/-- The value that a table would have is one that can be read. -/
def IsSound (table : Table) : Prop := (Json.obj (tableMembers table)).Everywhere IsRead

theorem isSound_iff :
    table.IsSound ↔ Dict.Sorted table ∧ ∀ e ∈ table, e.2.toJson.Everywhere IsRead := by
  rw [IsSound, Json.everywhere_obj, tableMembers_eq]
  refine and_congr List.pairwise_map ?_
  rw [Dict.mapValues, List.forall_mem_map]

theorem isSound_nil : IsSound [] := isSound_iff.mpr ⟨List.Pairwise.nil, nofun⟩

theorem IsSound.insert (h : table.IsSound) (hitem : item.toJson.Everywhere IsRead) :
    IsSound (table.insert key item) := by
  obtain ⟨hsorted, hitems⟩ := isSound_iff.mp h
  refine isSound_iff.mpr ⟨Dict.sorted_insert hsorted key item, fun e he => ?_⟩
  rcases Dict.eq_or_mem_of_mem_insert he with rfl | he
  · exact hitem
  · exact hitems e he

theorem IsSound.get? (h : table.IsSound) (hitem : Dict.get? table key = some item) :
    item.toJson.Everywhere IsRead :=
  (isSound_iff.mp h).2 _ (Dict.mem_of_get? hitem)

/-- The tables of a list: those that are closed and the one that is open. -/
theorem everywhere_tables_iff {closed : List Json} {last : Table} :
    (Item.tables closed last).toJson.Everywhere IsRead ↔
      (∀ j ∈ closed, j.Everywhere IsRead) ∧ last.IsSound := by
  rw [Item.toJson, Json.everywhere_arr, List.forall_mem_append, List.forall_mem_singleton]
  exact and_iff_right trivial

/-- A change of the table at the end of a path that keeps it sound keeps the whole
table sound. -/
theorem IsSound.change {byDots : Bool} {f : Origin → Table → Option Table}
    (hf : ∀ origin table next, IsSound table → f origin table = some next → next.IsSound)
    {path : List String} {origin : Origin} (h : table.IsSound)
    (hnext : change byDots f path origin table = some next) : next.IsSound := by
  induction path generalizing origin table next with
  | nil => exact hf origin table next h hnext
  | cons key path ih =>
      rw [Table.change] at hnext
      split at hnext
      · obtain ⟨sub, hsub, hinsert⟩ := Option.bind_eq_some_iff.mp hnext
        obtain rfl := Option.some.inj hinsert
        exact h.insert (ih isSound_nil hsub)
      · cases hnext
      · next closed last hget =>
          obtain ⟨sub, hsub, hinsert⟩ := Option.bind_eq_some_iff.mp hnext
          obtain rfl := Option.some.inj hinsert
          obtain ⟨hclosed, hlast⟩ := everywhere_tables_iff.mp (h.get? hget)
          exact h.insert (everywhere_tables_iff.mpr ⟨hclosed, ih hlast hsub⟩)
      · next subOrigin sub hget =>
          split at hnext
          · cases hnext
          · obtain ⟨changed, hchanged, hinsert⟩ := Option.bind_eq_some_iff.mp hnext
            obtain rfl := Option.some.inj hinsert
            exact h.insert (ih (h.get? hget) hchanged)

theorem IsSound.addNew (h : table.IsSound) (hvalue : value.Everywhere IsRead)
    (hnext : addNew key value table = some next) : next.IsSound := by
  rw [Table.addNew] at hnext
  split at hnext
  · cases hnext
  · obtain rfl := Option.some.inj hnext
    exact h.insert hvalue

theorem IsSound.addValue (h : table.IsSound) (hvalue : value.Everywhere IsRead)
    (hnext : addValue path key value table = some next) : next.IsSound := by
  rw [Table.addValue] at hnext
  split at hnext
  · exact h.addNew hvalue hnext
  · refine h.change (fun origin table next h hnext => ?_) hnext
    split at hnext
    · exact h.addNew hvalue hnext
    · cases hnext

theorem IsSound.addCurrent {current : List String} (h : table.IsSound)
    (hvalue : value.Everywhere IsRead)
    (hnext : addCurrent current path key value table = some next) : next.IsSound :=
  h.change (fun _ _ _ h hnext => h.addValue hvalue hnext) hnext

theorem IsSound.openTable (h : table.IsSound) (hnext : openTable path key table = some next) :
    next.IsSound := by
  refine h.change (fun origin table next h hnext => ?_) hnext
  split at hnext
  · obtain rfl := Option.some.inj hnext
    exact h.insert isSound_nil
  · next hget =>
      have hmembers := h.get? hget
      obtain rfl := Option.some.inj hnext
      exact h.insert hmembers
  · cases hnext

theorem IsSound.openNext (h : table.IsSound) (hnext : openNext path key table = some next) :
    next.IsSound := by
  refine h.change (fun origin table next h hnext => ?_) hnext
  split at hnext
  · obtain rfl := Option.some.inj hnext
    exact h.insert (everywhere_tables_iff.mpr ⟨nofun, isSound_nil⟩)
  · next hget =>
      obtain rfl := Option.some.inj hnext
      obtain ⟨hclosed, hlast⟩ := everywhere_tables_iff.mp (h.get? hget)
      refine h.insert (everywhere_tables_iff.mpr ⟨?_, isSound_nil⟩)
      exact List.forall_mem_append.mpr ⟨hclosed, List.forall_mem_singleton.mpr hlast⟩
  · cases hnext

end Table

/-! ## Values -/

/-- What is read with some fuel can be read. -/
structure Reads (fuel : Nat) : Prop where
  value : ∀ {levels cs j rest}, value? fuel levels cs = some (j, rest) → j.Everywhere IsRead
  items : ∀ {levels cs items rest}, items? fuel levels cs = some (items, rest) →
    ∀ j ∈ items, j.Everywhere IsRead
  pairs : ∀ {levels table cs next rest}, table.IsSound →
    pairs? fuel levels table cs = some (next, rest) → next.IsSound

theorem reads (fuel : Nat) : Reads fuel := by
  induction fuel with
  | zero => exact ⟨nofun, nofun, fun _ => nofun⟩
  | succ fuel ih =>
      constructor
      case value =>
        intro levels cs j rest h
        rw [value?.eq_def] at h
        dsimp only at h
        split at h
        · obtain ⟨_, -, h⟩ := Option.map_eq_some_iff.mp h
          obtain ⟨rfl, -⟩ := Prod.mk.inj h
          trivial
        · obtain ⟨_, -, h⟩ := Option.map_eq_some_iff.mp h
          obtain ⟨rfl, -⟩ := Prod.mk.inj h
          trivial
        · split at h
          · cases h
          · obtain ⟨found, hitems, h⟩ := Option.map_eq_some_iff.mp h
            obtain ⟨rfl, -⟩ := Prod.mk.inj h
            exact Json.everywhere_arr.mpr ⟨trivial, ih.items hitems⟩
        · split at h
          · cases h
          · split at h
            · obtain ⟨rfl, -⟩ := Prod.mk.inj (Option.some.inj h)
              exact Table.isSound_nil
            · obtain ⟨found, hpairs, h⟩ := Option.map_eq_some_iff.mp h
              obtain ⟨rfl, -⟩ := Prod.mk.inj h
              exact ih.pairs Table.isSound_nil hpairs
        · exact everywhere_plainValue? h
      case items =>
        intro levels cs items rest h
        rw [items?.eq_def] at h
        dsimp only at h
        split at h
        · obtain ⟨rfl, -⟩ := Prod.mk.inj (Option.some.inj h)
          exact nofun
        · obtain ⟨found, hvalue, h⟩ := Option.bind_eq_some_iff.mp h
          have hfirst := ih.value hvalue
          split at h
          · obtain ⟨more, hmore, h⟩ := Option.bind_eq_some_iff.mp h
            obtain ⟨rfl, -⟩ := Prod.mk.inj (Option.some.inj h)
            exact List.forall_mem_cons.mpr ⟨hfirst, ih.items hmore⟩
          · obtain ⟨rfl, -⟩ := Prod.mk.inj (Option.some.inj h)
            exact List.forall_mem_singleton.mpr hfirst
          · cases h
      case pairs =>
        intro levels table cs next rest htable h
        rw [pairs?.eq_def] at h
        obtain ⟨keys, -, h⟩ := Option.bind_eq_some_iff.mp h
        obtain ⟨path, -, h⟩ := Option.bind_eq_some_iff.mp h
        obtain ⟨after, -, h⟩ := Option.bind_eq_some_iff.mp h
        obtain ⟨found, hvalue, h⟩ := Option.bind_eq_some_iff.mp h
        obtain ⟨added, hadded, h⟩ := Option.bind_eq_some_iff.mp h
        have hsound := htable.addValue (ih.value hvalue) hadded
        split at h
        · exact ih.pairs hsound h
        · obtain ⟨rfl, -⟩ := Prod.mk.inj (Option.some.inj h)
          exact hsound
        · cases h

/-! ## Documents -/

namespace Draft

variable {draft next : Draft}

theorem isSound_readPair (h : draft.root.IsSound) (hnext : draft.readPair cs = some (next, rest)) :
    next.root.IsSound := by
  obtain ⟨keys, -, hnext⟩ := Option.bind_eq_some_iff.mp hnext
  obtain ⟨path, -, hnext⟩ := Option.bind_eq_some_iff.mp hnext
  obtain ⟨after, -, hnext⟩ := Option.bind_eq_some_iff.mp hnext
  obtain ⟨found, hvalue, hnext⟩ := Option.bind_eq_some_iff.mp hnext
  obtain ⟨root, hroot, hnext⟩ := Option.bind_eq_some_iff.mp hnext
  obtain ⟨line, -, hnext⟩ := Option.bind_eq_some_iff.mp hnext
  obtain ⟨rfl, -⟩ := Prod.mk.inj (Option.some.inj hnext)
  exact h.addCurrent ((reads _).value hvalue) hroot

theorem isSound_readHeader (h : draft.root.IsSound)
    (hnext : draft.readHeader cs = some (next, rest)) : next.root.IsSound := by
  obtain ⟨keys, -, hnext⟩ := Option.bind_eq_some_iff.mp hnext
  obtain ⟨path, -, hnext⟩ := Option.bind_eq_some_iff.mp hnext
  obtain ⟨after, -, hnext⟩ := Option.bind_eq_some_iff.mp hnext
  obtain ⟨root, hroot, hnext⟩ := Option.bind_eq_some_iff.mp hnext
  obtain ⟨line, -, hnext⟩ := Option.bind_eq_some_iff.mp hnext
  obtain ⟨rfl, -⟩ := Prod.mk.inj (Option.some.inj hnext)
  exact h.openTable hroot

theorem isSound_readListHeader (h : draft.root.IsSound)
    (hnext : draft.readListHeader cs = some (next, rest)) : next.root.IsSound := by
  obtain ⟨keys, -, hnext⟩ := Option.bind_eq_some_iff.mp hnext
  obtain ⟨path, -, hnext⟩ := Option.bind_eq_some_iff.mp hnext
  obtain ⟨inner, -, hnext⟩ := Option.bind_eq_some_iff.mp hnext
  obtain ⟨after, -, hnext⟩ := Option.bind_eq_some_iff.mp hnext
  obtain ⟨root, hroot, hnext⟩ := Option.bind_eq_some_iff.mp hnext
  obtain ⟨line, -, hnext⟩ := Option.bind_eq_some_iff.mp hnext
  obtain ⟨rfl, -⟩ := Prod.mk.inj (Option.some.inj hnext)
  exact h.openNext hroot

theorem isSound_readLine (h : draft.root.IsSound) (hnext : draft.readLine cs = some (next, rest)) :
    next.root.IsSound := by
  have hblank : ∀ {line : Option (List Char)},
      line.map (fun rest => (draft, rest)) = some (next, rest) → next.root.IsSound := by
    intro line hline
    obtain ⟨_, -, hline⟩ := Option.map_eq_some_iff.mp hline
    obtain ⟨rfl, -⟩ := Prod.mk.inj hline
    exact h
  rw [readLine.eq_def] at hnext
  split at hnext
  · exact isSound_readListHeader h hnext
  · exact isSound_readHeader h hnext
  · exact hblank hnext
  · exact hblank hnext
  · exact hblank hnext
  · exact isSound_readPair h hnext

theorem isSound_readLines {fuel : Nat} (h : draft.root.IsSound)
    (hnext : readLines fuel draft cs = some next) : next.root.IsSound := by
  induction fuel generalizing draft cs with
  | zero => cases hnext
  | succ fuel ih =>
      rw [readLines] at hnext
      split at hnext
      · obtain rfl := Option.some.inj hnext
        exact h
      · split at hnext
        · next hline => exact ih (isSound_readLine h hline) hnext
        · cases hnext

end Draft

/-- The value of a document has integers of 64 bits, finite numbers and sorted members
everywhere. -/
theorem everywhere_parse? {text : String} (h : parse? text = some j) : j.Everywhere IsRead := by
  obtain ⟨draft, hdraft, rfl⟩ := Option.map_eq_some_iff.mp h
  have hempty : ({} : Draft).root.IsSound := Table.isSound_nil
  exact Draft.isSound_readLines hempty hdraft

theorem sorted_eq_self (h : j.Everywhere IsRead) : j.sorted = j := by
  refine Json.sorted_eq_self (h.imp fun j hj => ?_)
  cases j with
  | obj members => exact hj
  | _ => trivial

/-! ## Documents that can be written -/

/-- What a document can hold: no missing value, integers of 64 bits, finite
floating-point numbers, and objects whose names differ. -/
def HasText : Json → Prop
  | .null => False
  | .int i => fitsSigned 64 i = true
  | .float x => x.isFinite = true
  | .obj members => (Dict.keys members).Nodup
  | _ => True

/-- An object that can stand as a document. -/
def IsDocument (j : Json) : Prop := (∃ members, j = .obj members) ∧ j.Everywhere HasText

/-- The text of a document is read as the document again, its members in the order of
their names. -/
def Restores (document : Json) : Prop :=
  ∀ text, render? document = some text → parse? text = some document.sorted

variable {items : List Json} {members : List (String × Json)}

/-- What was read can be written, unless a value is missing in it. -/
theorem everywhere_hasText (hread : j.Everywhere IsRead) (hnull : j.HasNoNull) :
    j.Everywhere HasText := by
  refine hread.of_both (fun j hread hnull => ?_) hnull
  cases j with
  | null => exact hnull rfl
  | int i => exact hread
  | float x => exact hread
  | obj members => exact Dict.Sorted.nodup_keys hread
  | _ => trivial

theorem everywhere_strings (texts : List String) :
    (Json.strings texts).Everywhere HasText := by
  refine Json.everywhere_arr.mpr ⟨trivial, fun j hj => ?_⟩
  obtain ⟨text, -, rfl⟩ := List.mem_map.mp hj
  trivial

/-! ## Values in a line -/

theorem exists_itemTexts? (h : ∀ a ∈ items, ∃ text, valueText? a = some text) :
    ∃ text, itemTexts? items = some text := by
  induction items with
  | nil => exact ⟨_, by rw [itemTexts?]⟩
  | cons a items ih =>
      rw [List.forall_mem_cons] at h
      obtain ⟨first, hfirst⟩ := h.1
      obtain ⟨others, hothers⟩ := ih h.2
      exact ⟨_, by rw [itemTexts?, hfirst, hothers]; rfl⟩

theorem exists_pairTexts? (h : ∀ e ∈ members, ∃ text, valueText? e.2 = some text) :
    ∃ text, pairTexts? members = some text := by
  induction members with
  | nil => exact ⟨_, by rw [pairTexts?]⟩
  | cons e members ih =>
      rw [List.forall_mem_cons] at h
      obtain ⟨first, hfirst⟩ := h.1
      obtain ⟨others, hothers⟩ := ih h.2
      exact ⟨_, by rw [pairTexts?, hfirst, hothers]; rfl⟩

theorem exists_valueText? (h : j.Everywhere HasText) : ∃ text, valueText? j = some text := by
  induction j using Json.inductionOn with
  | null => exact h.elim
  | bool b => exact ⟨_, by rw [valueText?]⟩
  | int i =>
      have hfits : fitsSigned 64 i = true := h
      exact ⟨_, by rw [valueText?, if_pos hfits]⟩
  | float x => exact ⟨_, by rw [valueText?]⟩
  | str s => exact ⟨_, by rw [valueText?]⟩
  | arr items ih =>
      have hitems := fun a ha => ih a ha ((Json.everywhere_arr.mp h).2 a ha)
      match items with
      | [] => exact ⟨_, by rw [valueText?]⟩
      | [a] =>
          obtain ⟨text, htext⟩ := hitems a List.mem_cons_self
          exact ⟨_, by rw [valueText?, htext, Option.map_some]⟩
      | a :: b :: rest =>
          rw [List.forall_mem_cons] at hitems
          obtain ⟨first, hfirst⟩ := hitems.1
          obtain ⟨others, hothers⟩ := exists_itemTexts? hitems.2
          exact ⟨_, by rw [valueText?, hfirst, hothers]; rfl⟩
  | obj members ih =>
      have hmembers := fun e he => ih e he ((Json.everywhere_obj.mp h).2 e he)
      match members with
      | [] => exact ⟨_, by rw [valueText?]⟩
      | (key, a) :: rest =>
          rw [List.forall_mem_cons] at hmembers
          obtain ⟨first, hfirst⟩ := hmembers.1
          obtain ⟨others, hothers⟩ := exists_pairTexts? hmembers.2
          exact ⟨_, by rw [valueText?, hfirst, hothers]; rfl⟩

/-! ## Sections -/

theorem exists_plainLines? (h : ∀ e ∈ members, e.2.Everywhere HasText) :
    ∃ text, plainLines? members = some text := by
  induction members with
  | nil => exact ⟨_, by rw [plainLines?]⟩
  | cons e members ih =>
      rw [List.forall_mem_cons] at h
      obtain ⟨others, hothers⟩ := ih h.2
      rw [plainLines?]
      split
      · exact ⟨others, hothers⟩
      · obtain ⟨text, htext⟩ := exists_valueText? h.1
        exact ⟨_, by rw [htext, hothers]; rfl⟩

theorem exists_sections? (path : List String)
    (h : ∀ e ∈ members, ∀ path key, ∃ text, memberSection? path key e.2 = some text) :
    ∃ text, sections? path members = some text := by
  induction members with
  | nil => exact ⟨_, by rw [sections?]⟩
  | cons e members ih =>
      rw [List.forall_mem_cons] at h
      obtain ⟨first, hfirst⟩ := h.1 path e.1
      obtain ⟨others, hothers⟩ := ih h.2
      exact ⟨_, by rw [sections?, hfirst, hothers]; rfl⟩

theorem exists_listSections? (path : List String)
    (h : ∀ a ∈ items, ∀ header path, ∃ text, section? header path a = some text) :
    ∃ text, listSections? path items = some text := by
  induction items with
  | nil => exact ⟨_, by rw [listSections?]⟩
  | cons a items ih =>
      rw [List.forall_mem_cons] at h
      obtain ⟨first, hfirst⟩ := h.1 .listed path
      obtain ⟨others, hothers⟩ := ih h.2
      exact ⟨_, by rw [listSections?, hfirst, hothers]; rfl⟩

/-- A table has a section, whether it is a member or an item of a list. -/
theorem exists_section? (h : j.Everywhere HasText) :
    (∀ header path, ∃ text, section? header path j = some text) ∧
      ∀ path key, ∃ text, memberSection? path key j = some text := by
  induction j using Json.inductionOn with
  | arr items ih =>
      have hitems := fun a ha => (ih a ha ((Json.everywhere_arr.mp h).2 a ha)).1
      refine ⟨fun header path => ⟨_, by rw [section?]; nofun⟩, fun path key => ?_⟩
      rw [memberSection?]
      split
      · exact exists_listSections? _ hitems
      · exact ⟨[], rfl⟩
  | obj members ih =>
      obtain ⟨-, hmembers⟩ := Json.everywhere_obj.mp h
      obtain ⟨plain, hplain⟩ := exists_plainLines? hmembers
      have hsections := fun path => exists_sections? path fun e he =>
        (ih e he (hmembers e he)).2
      constructor
      · intro header path
        obtain ⟨inner, hinner⟩ := hsections path
        exact ⟨_, by rw [section?, hplain, hinner]; rfl⟩
      · intro path key
        obtain ⟨inner, hinner⟩ := hsections (path ++ [key])
        exact ⟨_, by rw [memberSection?, hplain, hinner]; rfl⟩
  | _ =>
      exact ⟨fun _ _ => ⟨[], by rw [section?]; nofun⟩,
        fun _ _ => ⟨[], by rw [memberSection?] <;> nofun⟩⟩

/-- Every document can be written. -/
theorem IsDocument.exists_render? (h : IsDocument j) : ∃ text, render? j = some text := by
  obtain ⟨text, htext⟩ := (exists_section? h.2).1 .none []
  exact ⟨_, by rw [render?, htext, Option.map_some]⟩

/-! ## Texts as characters -/

/-- Read a document from its characters. -/
def ofChars? (cs : List Char) : Option Json :=
  let cs := skipOrderMark cs
  (Draft.readLines (cs.length + 1) {} cs).map fun draft => .obj (tableMembers draft.root)

theorem parse?_ofList (cs : List Char) : parse? (String.ofList cs) = ofChars? cs := by
  rw [parse?, String.toList_ofList]
  rfl

theorem restores_of_section? {document : Json} (hsection : section? .none [] document = some cs)
    (hread : ofChars? (dropFirstBreak cs) = some document.sorted) : Restores document := by
  intro text htext
  rw [render?, hsection, Option.map_some] at htext
  obtain rfl := Option.some.inj htext
  rw [parse?_ofList, hread]

end ScaffoldRunner.Toml
