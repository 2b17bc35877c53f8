import ScaffoldRunner.Json.Basic
import ScaffoldRunner.Proofs.Dict

/-!
# Values and what they hold

A property that a value and all the values in it have.  Sorting the members of
objects keeps what can be looked up in them, and leaves a value alone in which
they are sorted everywhere.  A text can be written over whatever lies at a path of a
value, and it makes no difference whether that is done before or after sorting.
-/

namespace ScaffoldRunner.Json

variable {P Q R : Json → Prop} {j : Json} {items : List Json} {members : List (String × Json)}

mutual

/-- A value has a property, and so has every value in it. -/
def Everywhere (P : Json → Prop) : Json → Prop
  | arr items => P (arr items) ∧ EverywhereItems P items
  | obj members => P (obj members) ∧ EverywhereMembers P members
  | null => P null
  | bool b => P (bool b)
  | int i => P (int i)
  | float x => P (float x)
  | str s => P (str s)

def EverywhereItems (P : Json → Prop) : List Json → Prop
  | [] => True
  | a :: as => a.Everywhere P ∧ EverywhereItems P as

def EverywhereMembers (P : Json → Prop) : List (String × Json) → Prop
  | [] => True
  | (_, a) :: as => a.Everywhere P ∧ EverywhereMembers P as

end

mutual

/-- Decide a property of a value and all the values in it. -/
def decEverywhere [DecidablePred P] : (j : Json) → Decidable (j.Everywhere P)
  | arr items =>
      have : Decidable (EverywhereItems P items) := decEverywhereItems items
      inferInstanceAs (Decidable (_ ∧ _))
  | obj members =>
      have : Decidable (EverywhereMembers P members) := decEverywhereMembers members
      inferInstanceAs (Decidable (_ ∧ _))
  | null => inferInstanceAs (Decidable (P _))
  | bool _ => inferInstanceAs (Decidable (P _))
  | int _ => inferInstanceAs (Decidable (P _))
  | float _ => inferInstanceAs (Decidable (P _))
  | str _ => inferInstanceAs (Decidable (P _))

def decEverywhereItems [DecidablePred P] : (as : List Json) → Decidable (EverywhereItems P as)
  | [] => inferInstanceAs (Decidable True)
  | a :: as =>
      have : Decidable (a.Everywhere P) := decEverywhere a
      have : Decidable (EverywhereItems P as) := decEverywhereItems as
      inferInstanceAs (Decidable (_ ∧ _))

def decEverywhereMembers [DecidablePred P] :
    (as : List (String × Json)) → Decidable (EverywhereMembers P as)
  | [] => inferInstanceAs (Decidable True)
  | (_, a) :: as =>
      have : Decidable (a.Everywhere P) := decEverywhere a
      have : Decidable (EverywhereMembers P as) := decEverywhereMembers as
      inferInstanceAs (Decidable (_ ∧ _))

end

instance [DecidablePred P] : DecidablePred (Everywhere P) := decEverywhere

theorem everywhereItems_iff : EverywhereItems P items ↔ ∀ a ∈ items, a.Everywhere P := by
  induction items with
  | nil => simp [EverywhereItems]
  | cons a items ih => rw [EverywhereItems, ih, List.forall_mem_cons]

theorem everywhereMembers_iff :
    EverywhereMembers P members ↔ ∀ e ∈ members, e.2.Everywhere P := by
  induction members with
  | nil => simp [EverywhereMembers]
  | cons e members ih => rw [EverywhereMembers, ih, List.forall_mem_cons]

theorem everywhere_arr :
    (arr items).Everywhere P ↔ P (arr items) ∧ ∀ a ∈ items, a.Everywhere P := by
  rw [Everywhere, everywhereItems_iff]

theorem everywhere_obj :
    (obj members).Everywhere P ↔ P (obj members) ∧ ∀ e ∈ members, e.2.Everywhere P := by
  rw [Everywhere, everywhereMembers_iff]

/-- Induction over a value and the values in it. -/
theorem inductionOn {motive : Json → Prop} (j : Json) (null : motive null)
    (bool : ∀ b, motive (bool b)) (int : ∀ i, motive (int i)) (float : ∀ x, motive (float x))
    (str : ∀ s, motive (str s))
    (arr : ∀ items, (∀ a ∈ items, motive a) → motive (arr items))
    (obj : ∀ members, (∀ e ∈ members, motive e.2) → motive (obj members)) : motive j :=
  @Json.rec motive (fun items => ∀ a ∈ items, motive a) (fun members => ∀ e ∈ members, motive e.2)
    (fun e => motive e.2) null bool int float str arr obj
    nofun (fun _ _ ha has => List.forall_mem_cons.mpr ⟨ha, has⟩)
    nofun (fun _ _ he hes => List.forall_mem_cons.mpr ⟨he, hes⟩) (fun _ _ h => h) j

theorem Everywhere.self (h : j.Everywhere P) : P j := by
  cases j with
  | arr items => exact (everywhere_arr.mp h).1
  | obj members => exact (everywhere_obj.mp h).1
  | _ => exact h

theorem Everywhere.of_both (himp : ∀ j, P j → Q j → R j) (hP : j.Everywhere P)
    (hQ : j.Everywhere Q) : j.Everywhere R := by
  induction j using inductionOn with
  | arr items ih =>
      rw [everywhere_arr] at hP hQ ⊢
      exact ⟨himp _ hP.1 hQ.1, fun a ha => ih a ha (hP.2 a ha) (hQ.2 a ha)⟩
  | obj members ih =>
      rw [everywhere_obj] at hP hQ ⊢
      exact ⟨himp _ hP.1 hQ.1, fun e he => ih e he (hP.2 e he) (hQ.2 e he)⟩
  | _ => exact himp _ hP hQ

theorem Everywhere.imp (himp : ∀ j, P j → Q j) (h : j.Everywhere P) : j.Everywhere Q :=
  h.of_both (fun j hj _ => himp j hj) h

/-- No value in it is missing. -/
def HasNoNull (j : Json) : Prop := j.Everywhere (· ≠ null)
deriving Decidable

/-! ## Sorted members -/

theorem sortedMembers_eq (members : List (String × Json)) :
    sortedMembers members = Dict.mapValues sorted members := by
  induction members with
  | nil => rfl
  | cons e members ih => rw [sortedMembers, ih]; rfl

theorem sortedItems_eq (items : List Json) : sortedItems items = items.map sorted := by
  induction items with
  | nil => rfl
  | cons a items ih => rw [sortedItems, ih, List.map_cons]

@[simp] theorem sorted_bool (b : Bool) : (bool b).sorted = bool b := by rw [sorted]; nofun; nofun

@[simp] theorem sorted_int (i : Int) : (int i).sorted = int i := by rw [sorted]; nofun; nofun

@[simp] theorem sorted_nat (n : Nat) : (nat n).sorted = nat n := sorted_int n

@[simp] theorem sorted_str (s : String) : (str s).sorted = str s := by rw [sorted]; nofun; nofun

/-- What lies under a name does not depend on the order of the members. -/
theorem get?_sortedMembers (hnodup : (Dict.keys members).Nodup) (key : String) :
    Dict.get? (Dict.ofList (sortedMembers members)) key = (Dict.get? members key).map sorted := by
  rw [Dict.get?_ofList, sortedMembers_eq, Dict.last?_of_nodup (by rwa [Dict.keys_mapValues]),
    Dict.get?_mapValues]

/-- The members of an object are in the order of their names. -/
def IsOrdered : Json → Prop
  | obj members => Dict.Sorted members
  | _ => True

/-- A value with its members in order everywhere stays as it is. -/
theorem sorted_eq_self (h : j.Everywhere IsOrdered) : j.sorted = j := by
  induction j using inductionOn with
  | arr items ih =>
      rw [everywhere_arr] at h
      rw [sorted, sortedItems_eq, List.map_congr_left fun a ha => ih a ha (h.2 a ha), List.map_id']
  | obj members ih =>
      rw [everywhere_obj] at h
      have hsame : Dict.mapValues sorted members = members := by
        refine (List.map_congr_left fun e he => ?_).trans (List.map_id members)
        rw [ih e he (h.2 e he)]
        rfl
      rw [sorted, sortedMembers_eq, hsame, Dict.ofList_of_sorted h.1]
  | _ => rfl

end ScaffoldRunner.Json

namespace ScaffoldRunner

/-! ## Writing over a part of a value -/

namespace Dict

variable {α : Type} {key : String} {f : α → α}

/-- Change what lies under a name. -/
def adjust (key : String) (f : α → α) (d : Dict α) : Dict α :=
  d.map fun e => (e.1, if e.1 = key then f e.2 else e.2)

theorem adjust_cons (e : String × α) (d : Dict α) :
    adjust key f (e :: d) = (e.1, if e.1 = key then f e.2 else e.2) :: d.adjust key f :=
  rfl

theorem adjust_append (before rest : List (String × α)) :
    adjust key f (before ++ rest) = adjust key f before ++ adjust key f rest :=
  List.map_append

/-- A value that is stored under another name stays as it is. -/
theorem adjust_insert (d : Dict α) (name : String) (value : α) :
    (d.insert name value).adjust key f =
      (d.adjust key f).insert name (if name = key then f value else value) := by
  induction d with
  | nil => rfl
  | cons e d ih =>
      rw [adjust_cons]
      by_cases hlt : name < e.1
      · rw [insert, if_pos hlt, insert, if_pos hlt]
        rfl
      · by_cases heq : name = e.1
        · rw [insert, if_neg hlt, if_pos heq, insert, if_neg hlt, if_pos heq]
          rfl
        · rw [insert, if_neg hlt, if_neg heq, insert, if_neg hlt, if_neg heq, adjust_cons, ih]

theorem adjust_overlay (base top : Dict α) :
    (overlay base top).adjust key f = overlay (base.adjust key f) (top.adjust key f) := by
  induction top generalizing base with
  | nil => rfl
  | cons e top ih =>
      change (overlay (base.insert e.1 e.2) top).adjust key f = _
      rw [ih, adjust_insert]
      rfl

theorem adjust_ofList (entries : List (String × α)) :
    (ofList entries).adjust key f = ofList (adjust key f entries) :=
  adjust_overlay [] entries

end Dict

namespace Json

/-- Write a text over what lies at a path. -/
def overwrite (text : String) : List String → Json → Json
  | [], _ => .str text
  | key :: path, .obj members => .obj (Dict.adjust key (overwrite text path) members)
  | _ :: _, j => j

variable {key : String} {f g : Json → Json}

theorem adjust_optionalMember_self (j : Option Json) :
    Dict.adjust key f (optionalMember key j) = optionalMember key (j.map f) := by
  cases j <;> simp [optionalMember, Dict.adjust]

theorem adjust_optionalMember_of_ne {name : String} (hne : name ≠ key) (j : Option Json) :
    Dict.adjust key f (optionalMember name j) = optionalMember name j := by
  cases j <;> simp [optionalMember, Dict.adjust, hne]

theorem sortedMembers_adjust (h : ∀ j, (f j).sorted = g j.sorted)
    (members : List (String × Json)) :
    sortedMembers (Dict.adjust key f members) = Dict.adjust key g (sortedMembers members) := by
  induction members with
  | nil => rfl
  | cons e members ih =>
      obtain ⟨name, j⟩ := e
      rw [Dict.adjust_cons, sortedMembers, sortedMembers, Dict.adjust_cons, ih]
      by_cases hname : name = key
      · simp only [if_pos hname, h]
      · simp only [if_neg hname]

/-- What is written over a part of a value does not depend on the order of members. -/
theorem sorted_overwrite (text : String) (path : List String) (j : Json) :
    (j.overwrite text path).sorted = j.sorted.overwrite text path := by
  induction path generalizing j with
  | nil => rfl
  | cons key path ih =>
      cases j with
      | obj members =>
          rw [overwrite, sorted, sortedMembers_adjust ih, sorted, overwrite, Dict.adjust_ofList]
      | null | bool | int | float | str | arr => rfl

end Json

end ScaffoldRunner
