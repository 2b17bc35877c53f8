import Mathlib.Data.List.TakeWhile
import ScaffoldRunner.Proofs.Json.Everywhere
import ScaffoldRunner.Proofs.Json.RoundTrip

/-!
# What is read of a text

A reader gives back what it did not read, which is always an end of its text.  The
objects that it has read have their members in order, and the text of an object
begins and ends with a brace.

The compact form of a value is one line without blanks between its tokens.  A value
whose numbers their texts give back is read back from it, unless it is nested too deep.
-/

namespace ScaffoldRunner.Json

variable {cs rest : List Char} {fuel depth : Nat}

instance : DecidablePred IsOrdered
  | obj members => inferInstanceAs (Decidable (Dict.Sorted members))
  | null | bool _ | int _ | float _ | str _ | arr _ => isTrue trivial

/-! ## Parts of a value -/

theorem skipSpace_suffix (cs : List Char) : skipSpace cs <:+ cs :=
  List.dropWhile_suffix isSpace

theorem suffix_of_hexFour? {n : Nat} (h : hexFour? cs = some (n, rest)) : rest <:+ cs := by
  unfold hexFour? at h
  split at h
  · next a b c d tail =>
      simp only [Option.bind_eq_bind, Option.bind_eq_some_iff, Option.pure_def, Option.some.injEq,
        Prod.mk.injEq] at h
      obtain ⟨_, -, _, -, _, -, _, -, -, rfl⟩ := h
      exact List.suffix_append [a, b, c, d] tail
  · cases h

theorem suffix_of_codeEscape? {c : Char} (h : codeEscape? cs = some (c, rest)) : rest <:+ cs := by
  simp only [codeEscape?, Option.bind_eq_bind, Option.bind_eq_some_iff, Prod.exists] at h
  obtain ⟨unit, tail, hunit, h⟩ := h
  refine List.IsSuffix.trans ?_ (suffix_of_hexFour? hunit)
  split at h
  · split at h
    · next more _ =>
        simp only [Option.bind_eq_some_iff, Prod.exists] at h
        obtain ⟨low, last, hlow, h⟩ := h
        split at h
        · obtain ⟨-, rfl⟩ := Prod.mk.inj (Option.some.inj h)
          exact (suffix_of_hexFour? hlow).trans (List.suffix_append ['\\', 'u'] more)
        · cases h
    · cases h
  · split at h
    · cases h
    · obtain ⟨-, rfl⟩ := Prod.mk.inj (Option.some.inj h)
      exact List.suffix_refl tail

theorem suffix_of_stringBody {acc : List Char} {s : String}
    (h : stringBody fuel acc cs = some (s, rest)) : rest <:+ cs := by
  induction fuel generalizing acc cs with
  | zero => cases h
  | succ fuel ih =>
      unfold stringBody at h
      split at h
      · cases h
      · next tail =>
          obtain ⟨-, rfl⟩ := Prod.mk.inj (Option.some.inj h)
          exact List.suffix_cons '"' tail
      · next tail =>
          split at h
          · next c more hcode =>
              exact (ih h).trans ((suffix_of_codeEscape? hcode).trans
                (List.suffix_append ['\\', 'u'] tail))
          · cases h
      · next c tail _ =>
          split at h
          · exact (ih h).trans (List.suffix_append ['\\', c] tail)
          · cases h
      · cases h
      · next c tail _ _ _ _ =>
          split at h
          · cases h
          · exact (ih h).trans (List.suffix_cons c tail)

/-- What follows the digits that a text begins with is an end of the text. -/
theorem suffix_of_digits {α : Type} {a b : α}
    (h : (if (cs.takeWhile isDigit).isEmpty then none else some (a, cs.dropWhile isDigit)) =
      some (b, rest)) : rest <:+ cs := by
  split at h
  · cases h
  · obtain ⟨-, rfl⟩ := Prod.mk.inj (Option.some.inj h)
    exact List.dropWhile_suffix isDigit

theorem suffix_of_exponentPart {exponent : Option Int}
    (h : exponentPart cs = some (exponent, rest)) : rest <:+ cs := by
  unfold exponentPart at h
  split at h
  · next c tail =>
      split at h
      · split at h
        next negative digits hsign =>
          refine (suffix_of_digits h).trans (List.IsSuffix.trans ?_ (List.suffix_cons c tail))
          split at hsign
          all_goals obtain ⟨-, rfl⟩ := Prod.mk.inj hsign
          · exact List.suffix_cons '+' _
          · exact List.suffix_cons '-' _
          · exact List.suffix_refl _
      · obtain ⟨-, rfl⟩ := Prod.mk.inj (Option.some.inj h)
        exact List.suffix_refl _
  · obtain ⟨-, rfl⟩ := Prod.mk.inj (Option.some.inj h)
    exact List.suffix_refl _

theorem suffix_of_fractionPart {fraction : Option (List Char)}
    (h : fractionPart cs = some (fraction, rest)) : rest <:+ cs := by
  unfold fractionPart at h
  split at h
  · next tail => exact (suffix_of_digits h).trans (List.suffix_cons '.' tail)
  · obtain ⟨-, rfl⟩ := Prod.mk.inj (Option.some.inj h)
    exact List.suffix_refl _

theorem suffix_of_unsignedText? {negative : Bool} {t : NumberText}
    (h : unsignedText? negative cs = some (t, rest)) : rest <:+ cs := by
  have hbehind {whole : List Char} (h : ((fractionPart (cs.dropWhile isDigit)).bind fun x =>
      (exponentPart x.2).bind fun y =>
        some ((⟨negative, whole, x.1, y.1⟩ : NumberText), y.2)) = some (t, rest)) :
      rest <:+ cs := by
    simp only [Option.bind_eq_some_iff, Prod.exists, Option.some.injEq, Prod.mk.injEq] at h
    obtain ⟨fraction, tail, hfraction, exponent, last, hexponent, -, rfl⟩ := h
    exact (suffix_of_exponentPart hexponent).trans
      ((suffix_of_fractionPart hfraction).trans (List.dropWhile_suffix isDigit))
  unfold unsignedText? at h
  dsimp only at h
  split at h
  · cases h
  · split at h
    · cases h
    · exact hbehind h

theorem suffix_of_numberText? {t : NumberText} (h : numberText? cs = some (t, rest)) :
    rest <:+ cs := by
  cases cs with
  | nil => exact suffix_of_unsignedText? h
  | cons c cs =>
      by_cases hc : c = '-'
      · subst hc
        exact (suffix_of_unsignedText? h).trans (List.suffix_cons '-' cs)
      · have hhead : (c :: cs).head? ≠ some '-' := by simpa using hc
        have hunsigned := numberText?_signChars false hhead
        rw [signChars, if_neg Bool.false_ne_true, List.nil_append] at hunsigned
        exact suffix_of_unsignedText? (hunsigned.symm.trans h)

/-! ## Values -/

/-- What is known of a value that was read: its objects are in order, the rest is an end of
the text, and an object ends with its brace. -/
structure IsRead (j : Json) (cs rest : List Char) : Prop where
  ordered : j.Everywhere IsOrdered
  suffix : rest <:+ cs
  brace : ∀ members, j = obj members → '}' :: rest <:+ cs

theorem IsRead.of_suffix {j : Json} {later : List Char} (h : IsRead j later rest)
    (hlater : later <:+ cs) : IsRead j cs rest :=
  ⟨h.ordered, h.suffix.trans hlater, fun members hj => (h.brace members hj).trans hlater⟩

/-- What is read with some fuel is read in this way, and so are the items and the
members that lie inside. -/
structure ReadsRightly (fuel : Nat) : Prop where
  value : ∀ {depth j cs rest}, Json.value fuel depth cs = some (j, rest) → IsRead j cs rest
  items : ∀ {depth as cs rest}, Json.items fuel depth cs = some (as, rest) →
    (∀ a ∈ as, a.Everywhere IsOrdered) ∧ rest <:+ cs
  members : ∀ {depth as cs rest}, Json.members fuel depth cs = some (as, rest) →
    (∀ e ∈ as, e.2.Everywhere IsOrdered) ∧ '}' :: rest <:+ cs

/-- A value that has no values in it and is no object. -/
theorem IsRead.plain {j : Json} (hordered : j.Everywhere IsOrdered) (hsuffix : rest <:+ cs)
    (hplain : j.members? = none) : IsRead j cs rest :=
  ⟨hordered, hsuffix, by rintro members rfl; cases hplain⟩

/-- A number is no object and has no values in it. -/
theorem NumberText.plain_value? {t : NumberText} {j : Json} (h : t.value? = some j) :
    j.Everywhere IsOrdered ∧ j.members? = none := by
  have hfloat : ∀ {x : Option Float}, x.map Json.float = some j →
      j.Everywhere IsOrdered ∧ j.members? = none := by
    intro x hx
    obtain ⟨y, -, rfl⟩ := Option.map_eq_some_iff.mp hx
    exact ⟨trivial, rfl⟩
  unfold NumberText.value? at h
  split at h
  next n dropped _ =>
    split at h
    · split at h
      · obtain rfl := Option.some.inj h
        exact ⟨trivial, rfl⟩
      · split at h
        · obtain rfl := Option.some.inj h
          exact ⟨trivial, rfl⟩
        · exact hfloat h
    · exact hfloat h

theorem IsRead.arr {as : List Json} (h : ∀ a ∈ as, a.Everywhere IsOrdered)
    (hsuffix : rest <:+ cs) : IsRead (arr as) cs rest :=
  .plain (everywhere_arr.mpr ⟨trivial, h⟩) hsuffix rfl

theorem IsRead.obj {as : List (String × Json)} (h : ∀ e ∈ as, e.2.Everywhere IsOrdered)
    (hbrace : '}' :: rest <:+ cs) : IsRead (obj (Dict.ofList as)) cs rest where
  ordered := everywhere_obj.mpr
    ⟨Dict.sorted_ofList as, fun e he => h e (Dict.mem_of_mem_ofList he)⟩
  suffix := (List.suffix_cons '}' rest).trans hbrace
  brace _ _ := hbrace

/-- The forms of a value at the front of a text, with what follows it. -/
inductive HasForm (fuel depth : Nat) : Json → List Char → List Char → Prop
  | null {rest : List Char} : HasForm fuel depth null ('n' :: 'u' :: 'l' :: 'l' :: rest) rest
  | isTrue {rest : List Char} :
      HasForm fuel depth (bool true) ('t' :: 'r' :: 'u' :: 'e' :: rest) rest
  | isFalse {rest : List Char} :
      HasForm fuel depth (bool false) ('f' :: 'a' :: 'l' :: 's' :: 'e' :: rest) rest
  | str {s : String} {text rest : List Char} : stringBody fuel [] text = some (s, rest) →
      HasForm fuel depth (str s) ('"' :: text) rest
  | emptyArr {text rest : List Char} : depth ≠ 0 → skipSpace text = ']' :: rest →
      HasForm fuel depth (arr []) ('[' :: text) rest
  | arr {as : List Json} {text rest : List Char} : depth ≠ 0 →
      items fuel (depth - 1) (skipSpace text) = some (as, rest) →
      HasForm fuel depth (arr as) ('[' :: text) rest
  | emptyObj {text rest : List Char} : depth ≠ 0 → skipSpace text = '}' :: rest →
      HasForm fuel depth (obj []) ('{' :: text) rest
  | obj {as : List (String × Json)} {text rest : List Char} : depth ≠ 0 →
      members fuel (depth - 1) (skipSpace text) = some (as, rest) →
      HasForm fuel depth (obj (Dict.ofList as)) ('{' :: text) rest
  | number {t : NumberText} {j : Json} {text rest : List Char} :
      numberText? text = some (t, rest) → t.value? = some j → HasForm fuel depth j text rest

theorem hasForm_of_value {j : Json} (h : value (fuel + 1) depth cs = some (j, rest)) :
    HasForm fuel depth j (skipSpace cs) rest := by
  unfold value at h
  generalize skipSpace cs = text at h ⊢
  split at h
  case h_1 | h_2 | h_3 =>
    obtain ⟨rfl, rfl⟩ := Prod.mk.inj (Option.some.inj h)
    constructor
  case h_4 =>
    obtain ⟨⟨s, after⟩, hbody, heq⟩ := Option.map_eq_some_iff.mp h
    obtain ⟨rfl, rfl⟩ := Prod.mk.inj heq
    exact .str hbody
  case h_5 =>
    split at h
    · cases h
    · next hdepth =>
        split at h
        · next hclosed =>
            obtain ⟨rfl, rfl⟩ := Prod.mk.inj (Option.some.inj h)
            exact .emptyArr hdepth hclosed
        · obtain ⟨⟨as, after⟩, hitems, heq⟩ := Option.map_eq_some_iff.mp h
          obtain ⟨rfl, rfl⟩ := Prod.mk.inj heq
          exact .arr hdepth hitems
  case h_6 =>
    split at h
    · cases h
    · next hdepth =>
        split at h
        · next hclosed =>
            obtain ⟨rfl, rfl⟩ := Prod.mk.inj (Option.some.inj h)
            exact .emptyObj hdepth hclosed
        · obtain ⟨⟨as, after⟩, hmembers, heq⟩ := Option.map_eq_some_iff.mp h
          obtain ⟨rfl, rfl⟩ := Prod.mk.inj heq
          exact .obj hdepth hmembers
  case h_7 =>
    split at h
    · next t after hnumber =>
        obtain ⟨j', hj, heq⟩ := Option.map_eq_some_iff.mp h
        obtain ⟨rfl, rfl⟩ := Prod.mk.inj heq
        exact .number hnumber hj
    · cases h

theorem isRead_value_succ (ih : ReadsRightly fuel) {j : Json}
    (h : value (fuel + 1) depth cs = some (j, rest)) : IsRead j cs rest := by
  refine IsRead.of_suffix ?_ (skipSpace_suffix cs)
  have hform := hasForm_of_value h
  generalize skipSpace cs = text at hform
  cases hform with
  | null => exact .plain trivial (List.suffix_append ['n', 'u', 'l', 'l'] rest) rfl
  | isTrue => exact .plain trivial (List.suffix_append ['t', 'r', 'u', 'e'] rest) rfl
  | isFalse => exact .plain trivial (List.suffix_append ['f', 'a', 'l', 's', 'e'] rest) rfl
  | str hbody =>
      exact .plain trivial ((suffix_of_stringBody hbody).trans (List.suffix_cons '"' _)) rfl
  | @emptyArr tail _ _ hclosed =>
      have htail := (skipSpace_suffix tail).trans (List.suffix_cons '[' tail)
      exact .arr (List.forall_mem_nil _) ((List.suffix_cons ']' _).trans (hclosed ▸ htail))
  | @arr as tail _ _ hitems =>
      have htail := (skipSpace_suffix tail).trans (List.suffix_cons '[' tail)
      obtain ⟨hordered, hsuffix⟩ := ih.items hitems
      exact .arr hordered (hsuffix.trans htail)
  | @emptyObj tail _ _ hclosed =>
      have htail := (skipSpace_suffix tail).trans (List.suffix_cons '{' tail)
      have hnone : ∀ e ∈ ([] : List (String × Json)), e.2.Everywhere IsOrdered :=
        List.forall_mem_nil _
      exact .obj hnone (hclosed ▸ htail)
  | @obj as tail _ _ hmembers =>
      have htail := (skipSpace_suffix tail).trans (List.suffix_cons '{' tail)
      obtain ⟨hordered, hbrace⟩ := ih.members hmembers
      exact .obj hordered (hbrace.trans htail)
  | number hnumber hj =>
      obtain ⟨hordered, hplain⟩ := NumberText.plain_value? hj
      exact .plain hordered (suffix_of_numberText? hnumber) hplain

theorem isRead_items_succ (ih : ReadsRightly fuel) {as : List Json}
    (h : items (fuel + 1) depth cs = some (as, rest)) :
    (∀ a ∈ as, a.Everywhere IsOrdered) ∧ rest <:+ cs := by
  unfold items at h
  split at h
  · cases h
  · next a after hvalue =>
      have hfirst := ih.value hvalue
      have hafter := (skipSpace_suffix after).trans hfirst.suffix
      split at h
      · next hclosed =>
          obtain ⟨rfl, rfl⟩ := Prod.mk.inj (Option.some.inj h)
          exact ⟨List.forall_mem_singleton.mpr hfirst.ordered,
            (List.suffix_cons ']' _).trans (hclosed ▸ hafter)⟩
      · next more hcomma =>
          obtain ⟨⟨as, last⟩, hitems, heq⟩ := Option.map_eq_some_iff.mp h
          obtain ⟨rfl, rfl⟩ := Prod.mk.inj heq
          obtain ⟨hordered, hsuffix⟩ := ih.items hitems
          exact ⟨List.forall_mem_cons.mpr ⟨hfirst.ordered, hordered⟩,
            hsuffix.trans ((List.suffix_cons ',' more).trans (hcomma ▸ hafter))⟩
      · cases h

theorem isRead_members_succ (ih : ReadsRightly fuel) {as : List (String × Json)}
    (h : members (fuel + 1) depth cs = some (as, rest)) :
    (∀ e ∈ as, e.2.Everywhere IsOrdered) ∧ '}' :: rest <:+ cs := by
  unfold members at h
  split at h
  · next quoted hquote =>
      have hquoted : quoted <:+ cs :=
        (List.suffix_cons '"' quoted).trans (hquote ▸ skipSpace_suffix cs)
      split at h
      · cases h
      · next k behind hkey =>
          have hbehind := (skipSpace_suffix behind).trans
            ((suffix_of_stringBody hkey).trans hquoted)
          split at h
          · next text hcolon =>
              have htext : text <:+ cs := (List.suffix_cons ':' text).trans (hcolon ▸ hbehind)
              split at h
              · cases h
              · next a after hvalue =>
                  have hfirst := ih.value hvalue
                  have hafter := (skipSpace_suffix after).trans (hfirst.suffix.trans htext)
                  split at h
                  · next hclosed =>
                      obtain ⟨rfl, rfl⟩ := Prod.mk.inj (Option.some.inj h)
                      exact ⟨List.forall_mem_singleton.mpr hfirst.ordered, hclosed ▸ hafter⟩
                  · next more hcomma =>
                      obtain ⟨⟨as, last⟩, hmembers, heq⟩ := Option.map_eq_some_iff.mp h
                      obtain ⟨rfl, rfl⟩ := Prod.mk.inj heq
                      obtain ⟨hordered, hbrace⟩ := ih.members hmembers
                      exact ⟨List.forall_mem_cons.mpr ⟨hfirst.ordered, hordered⟩,
                        hbrace.trans ((List.suffix_cons ',' more).trans (hcomma ▸ hafter))⟩
                  · cases h
          · cases h
  · cases h

/-- The readers call each other with one less, so they read rightly together. -/
theorem readsRightly (fuel : Nat) : ReadsRightly fuel := by
  induction fuel with
  | zero =>
      constructor
      all_goals
        intro depth j cs rest h
        simp [value, items, members] at h
  | succ fuel ih => exact ⟨isRead_value_succ ih, isRead_items_succ ih, isRead_members_succ ih⟩

/-- The text of an object begins with its brace. -/
theorem exists_of_value_obj {as : List (String × Json)}
    (h : value fuel depth cs = some (obj as, rest)) : ∃ tail, skipSpace cs = '{' :: tail := by
  cases fuel with
  | zero => simp [value] at h
  | succ fuel =>
      have hform := hasForm_of_value h
      generalize skipSpace cs = text at hform ⊢
      cases hform with
      | emptyObj | obj => exact ⟨_, rfl⟩
      | number _ hj => exact absurd (NumberText.plain_value? hj).2 (by simp [members?])

/-! ## Whole texts -/

theorem parseChars?_eq_some {j : Json} (h : parseChars? cs = some j) :
    ∃ fuel rest, value fuel maxDepth cs = some (j, rest) ∧ skipSpace rest = [] := by
  unfold parseChars? at h
  split at h
  · next j' rest hvalue =>
      split at h
      · next hblank =>
          obtain rfl := Option.some.inj h
          exact ⟨_, rest, hvalue, List.isEmpty_iff.mp hblank⟩
      · cases h
  · cases h

/-- The objects in a value that was read have their members in order. -/
theorem everywhere_of_parseChars? {j : Json} (h : parseChars? cs = some j) :
    j.Everywhere IsOrdered := by
  obtain ⟨fuel, rest, hvalue, -⟩ := parseChars?_eq_some h
  exact ((readsRightly fuel).value hvalue).ordered

/-- A text that holds an object is enclosed in braces, blanks at its ends aside. -/
theorem braces_of_parseChars? {as : List (String × Json)} (h : parseChars? cs = some (obj as))
    (hfirst : ∀ c ∈ cs.head?, isSpace c = false) (hlast : ∀ c ∈ cs.getLast?, isSpace c = false) :
    cs.head? = some '{' ∧ cs.getLast? = some '}' := by
  obtain ⟨fuel, rest, hvalue, hblank⟩ := parseChars?_eq_some h
  constructor
  · obtain ⟨tail, htail⟩ := exists_of_value_obj hvalue
    cases cs with
    | nil => cases htail
    | cons c cs =>
        rw [skipSpace_cons (hfirst c rfl)] at htail
        exact congrArg List.head? htail
  · obtain ⟨before, rfl⟩ := ((readsRightly fuel).value hvalue).brace as rfl
    -- What follows the brace is blank, and the text does not end in a blank.
    have hrest : rest = [] := by
      by_contra hne
      rw [skipSpace, List.dropWhile_eq_nil_iff] at hblank
      have hspace := hblank _ (List.getLast_mem hne)
      rw [hlast _ (by simp [List.getLast?_append, List.getLast?_cons,
        List.getLast?_eq_some_getLast hne])] at hspace
      cases hspace
    rw [hrest, List.getLast?_concat]

/-! ## Compact texts -/

mutual

theorem compactOnto_eq (j : Json) (rest : List Char) :
    compactOnto j rest = compactOnto j [] ++ rest := by
  match j with
  | null | bool true | bool false => rfl
  | int i => simp [compactOnto]
  | float x => simp [compactOnto]
  | str s => simp [compactOnto]
  | arr [] | obj [] => rfl
  | arr (a :: as) =>
      rw [compactOnto, compactOnto, compactOnto_eq a, compactItemsOnto_eq as,
        compactOnto_eq a (compactItemsOnto as [])]
      simp
  | obj ((k, a) :: as) =>
      rw [compactOnto, compactOnto, compactOnto_eq a, compactMembersOnto_eq as,
        compactOnto_eq a (compactMembersOnto as [])]
      simp

theorem compactItemsOnto_eq (as : List Json) (rest : List Char) :
    compactItemsOnto as rest = compactItemsOnto as [] ++ rest := by
  match as with
  | [] => rfl
  | a :: as =>
      rw [compactItemsOnto, compactItemsOnto, compactOnto_eq a, compactItemsOnto_eq as,
        compactOnto_eq a (compactItemsOnto as [])]
      simp

theorem compactMembersOnto_eq (as : List (String × Json)) (rest : List Char) :
    compactMembersOnto as rest = compactMembersOnto as [] ++ rest := by
  match as with
  | [] => rfl
  | (k, a) :: as =>
      rw [compactMembersOnto, compactMembersOnto, compactOnto_eq a, compactMembersOnto_eq as,
        compactOnto_eq a (compactMembersOnto as [])]
      simp

end

/-- Both forms of a value begin alike. -/
theorem head?_compactOnto (level : Nat) (j : Json) (rest : List Char) :
    (compactOnto j rest).head? = (prettyOnto level j rest).head? := by
  match j with
  | null | bool _ | int _ | float _ | str _ => rfl
  | arr [] | arr (_ :: _) | obj [] | obj (_ :: _) => rfl

theorem exists_compactOnto_eq_cons (j : Json) (rest : List Char) :
    ∃ c cs, compactOnto j rest = c :: cs ∧ isSpace c = false ∧ c ≠ ']' := by
  obtain ⟨c, cs, htext, hc⟩ := exists_prettyOnto_eq_cons 0 j rest
  have hhead := head?_compactOnto 0 j rest
  rw [htext] at hhead
  obtain ⟨cs, hcs⟩ := List.head?_eq_some_iff.mp hhead
  exact ⟨c, cs, hcs, hc⟩

theorem skipSpace_compactOnto (j : Json) (rest : List Char) :
    skipSpace (compactOnto j rest) = compactOnto j rest := by
  obtain ⟨c, cs, htext, hspace, -⟩ := exists_compactOnto_eq_cons j rest
  rw [htext, skipSpace_cons hspace]

theorem length_compactOnto (j : Json) (rest : List Char) :
    rest.length < (compactOnto j rest).length := by
  obtain ⟨c, cs, htext, -⟩ := exists_compactOnto_eq_cons j []
  rw [compactOnto_eq, htext, List.length_append, List.length_cons]
  omega

theorem length_compactItemsOnto (as : List Json) (rest : List Char) :
    rest.length < (compactItemsOnto as rest).length := by
  induction as with
  | nil => exact Nat.lt_succ_self _
  | cons a as ih =>
      have hfirst := length_compactOnto a (compactItemsOnto as rest)
      rw [compactItemsOnto, List.length_cons]
      omega

theorem length_compactMembersOnto (as : List (String × Json)) (rest : List Char) :
    rest.length < (compactMembersOnto as rest).length := by
  induction as with
  | nil => exact Nat.lt_succ_self _
  | cons e as ih =>
      have hfirst := length_compactOnto e.2 (compactMembersOnto as rest)
      rw [compactMembersOnto, List.length_cons, List.length_append, List.length_cons]
      omega

/-! ## One line -/

theorem lineFeed_notMem_number {text : List Char} (h : IsNumber text) : '\n' ∉ text := by
  have hdigits {ds : List Char} (hds : AreDigits ds) : '\n' ∉ ds := fun hmem =>
    absurd (hds.digit _ hmem) (by decide)
  cases h with
  | @mk negative whole fraction exponent hwhole hfraction hexponent =>
      have hsign : '\n' ∉ signChars negative := by
        cases negative <;> decide
      have hfraction : '\n' ∉ fractionChars fraction := by
        cases fraction with
        | none => exact List.not_mem_nil
        | some ds =>
            exact List.not_mem_cons_of_ne_of_not_mem (by decide) (hdigits (hfraction ds rfl))
      have hexponent : '\n' ∉ exponentChars exponent := by
        cases exponent with
        | none => exact List.not_mem_nil
        | some e =>
            refine List.not_mem_cons_of_ne_of_not_mem (by decide)
              (List.not_mem_cons_of_ne_of_not_mem ?_ (hdigits (hexponent e rfl)))
            split <;> decide
      simp only [numberChars, List.mem_append, hsign, hdigits hwhole, hfraction, hexponent,
        or_self, not_false_eq_true]

/-- Control characters are escaped. -/
theorem lineFeed_notMem_quoteChars (s : List Char) : '\n' ∉ quoteChars s := by
  have hescape : ∀ c, '\n' ∉ escapeChar c := by
    intro c
    by_cases hlow : c.toNat < 32
    · have hall : ∀ n < 32, '\n' ∉ escapeChar (Char.ofNat n) := by decide
      rw [← Char.ofNat_toNat c]
      exact hall _ hlow
    · have hfeed : '\n' ≠ c := by
        rintro rfl
        exact hlow (by decide)
      unfold escapeChar
      split_ifs
      all_goals simp [hfeed]
  simp [quoteChars, hescape]

mutual

theorem lineFeed_notMem_compactOnto {j : Json} {rest : List Char} (h : '\n' ∉ rest) :
    '\n' ∉ compactOnto j rest := by
  match j with
  | null | bool true | bool false => simpa [compactOnto] using h
  | int i => simpa [compactOnto] using ⟨lineFeed_notMem_number (isNumber_intChars i), h⟩
  | float x => simpa [compactOnto] using ⟨lineFeed_notMem_number (isNumber_render x), h⟩
  | str s => simpa [compactOnto] using ⟨lineFeed_notMem_quoteChars s.toList, h⟩
  | arr [] | obj [] => simpa [compactOnto] using h
  | arr (a :: as) =>
      simpa [compactOnto] using
        lineFeed_notMem_compactOnto (lineFeed_notMem_compactItemsOnto h)
  | obj ((k, a) :: as) =>
      simpa [compactOnto] using ⟨lineFeed_notMem_quoteChars k.toList,
        lineFeed_notMem_compactOnto (lineFeed_notMem_compactMembersOnto h)⟩

theorem lineFeed_notMem_compactItemsOnto {as : List Json} {rest : List Char}
    (h : '\n' ∉ rest) : '\n' ∉ compactItemsOnto as rest := by
  match as with
  | [] => simpa [compactItemsOnto] using h
  | a :: as =>
      simpa [compactItemsOnto] using
        lineFeed_notMem_compactOnto (lineFeed_notMem_compactItemsOnto h)

theorem lineFeed_notMem_compactMembersOnto {as : List (String × Json)} {rest : List Char}
    (h : '\n' ∉ rest) : '\n' ∉ compactMembersOnto as rest := by
  match as with
  | [] => simpa [compactMembersOnto] using h
  | (k, a) :: as =>
      simpa [compactMembersOnto] using ⟨lineFeed_notMem_quoteChars k.toList,
        lineFeed_notMem_compactOnto (lineFeed_notMem_compactMembersOnto h)⟩

end

/-! ## Reading compact texts -/

theorem areValues_iff {as : List Json} : AreValues as ↔ ∀ a ∈ as, a.IsValue := by
  induction as with
  | nil => simp [AreValues]
  | cons a as ih => rw [AreValues, ih, List.forall_mem_cons]

theorem holdsValues_iff {as : List (String × Json)} :
    HoldsValues as ↔ ∀ e ∈ as, e.2.IsValue := by
  induction as with
  | nil => simp [HoldsValues]
  | cons e as ih => rw [HoldsValues, ih, List.forall_mem_cons]

/-- A value is read back from its compact form wherever there is room for its nesting. -/
def ReadsBack (j : Json) : Prop :=
  ∀ {fuel depth : Nat} {rest : List Char}, j.depth ≤ depth → EndsNumber rest →
    Suffices fuel (compactOnto j rest) rest →
    value fuel depth (compactOnto j rest) = some (j, rest)

theorem endsNumber_compactItemsOnto (as : List Json) (rest : List Char) :
    EndsNumber (compactItemsOnto as rest) := by
  cases as <;> exact endsNumber_cons (by decide) _

theorem endsNumber_compactMembersOnto (as : List (String × Json)) (rest : List Char) :
    EndsNumber (compactMembersOnto as rest) := by
  cases as <;> exact endsNumber_cons (by decide) _

theorem not_suffices_zero_of_lt {text : List Char} (h : rest.length < text.length) :
    ¬Suffices 0 text rest := by
  simp only [Suffices]
  omega

theorem items_compactOnto {a : Json} {as : List Json} (hread : ∀ b ∈ a :: as, ReadsBack b)
    (hdepth : depthItems (a :: as) ≤ depth)
    (hfuel : Suffices fuel (compactOnto a (compactItemsOnto as rest)) rest) :
    items fuel depth (compactOnto a (compactItemsOnto as rest)) = some (a :: as, rest) := by
  have hlonger := length_compactOnto a (compactItemsOnto as rest)
  have hmore := length_compactItemsOnto as rest
  -- The item and the mark behind it are characters of their own, and they pay for the call.
  induction fuel generalizing a as with
  | zero => exact (not_suffices_zero_of_lt (hmore.trans hlonger) hfuel).elim
  | succ fuel ih =>
      have hfirst : Suffices fuel (compactOnto a (compactItemsOnto as rest))
          (compactItemsOnto as rest) := by
        simp only [Suffices] at hfuel ⊢
        omega
      rw [depthItems, Nat.max_le] at hdepth
      rw [items, hread a List.mem_cons_self hdepth.1 (endsNumber_compactItemsOnto ..) hfirst]
      cases as with
      | nil => rfl
      | cons a' as =>
          have hinside : Suffices fuel (compactOnto a' (compactItemsOnto as rest)) rest := by
            simp only [Suffices, compactItemsOnto, List.length_cons] at hfuel hlonger ⊢
            omega
          have hrest := ih (fun b hb => hread b (List.mem_cons_of_mem a hb)) hdepth.2 hinside
            (length_compactOnto ..) (length_compactItemsOnto ..)
          simp only [compactItemsOnto, skipSpace_cons (by decide : isSpace ',' = false), hrest,
            Option.map_some]

/-- The text of members, the first one without a comma. -/
def compactMembersText (k : String) (a : Json) (as : List (String × Json))
    (rest : List Char) : List Char :=
  quoteChars k.toList ++ ':' :: compactOnto a (compactMembersOnto as rest)

theorem skipSpace_compactMembersText (k : String) (a : Json) (as : List (String × Json))
    (rest : List Char) :
    skipSpace (compactMembersText k a as rest) = compactMembersText k a as rest :=
  skipSpace_cons (by decide) _

/-- The reader of members after the name of the first one. -/
theorem members_compactMembersText {k : String} {a : Json} {as : List (String × Json)}
    (hfuel : Suffices (fuel + 1) (compactMembersText k a as rest) rest) :
    members (fuel + 1) depth (compactMembersText k a as rest) =
      (value fuel depth (compactOnto a (compactMembersOnto as rest))).bind fun (a, cs) =>
        match skipSpace cs with
        | '}' :: cs => some ([(k, a)], cs)
        | ',' :: cs => (members fuel depth cs).map fun (as, cs) => ((k, a) :: as, cs)
        | _ => none := by
  have hlonger := length_compactOnto a (compactMembersOnto as rest)
  have hmore := length_compactMembersOnto as rest
  have hkey : stringBody fuel [] (k.toList.flatMap escapeChar ++ '"' ::
      ':' :: compactOnto a (compactMembersOnto as rest)) =
        some (k, ':' :: compactOnto a (compactMembersOnto as rest)) := by
    refine stringBody_quoteChars ?_
    simp only [Suffices, compactMembersText, List.length_append, List.length_cons] at hfuel ⊢
    omega
  have htext : compactMembersText k a as rest = '"' :: (k.toList.flatMap escapeChar ++ '"' ::
      ':' :: compactOnto a (compactMembersOnto as rest)) := by
    simp [compactMembersText, quoteChars]
  rw [members, skipSpace_compactMembersText, htext]
  simp only [hkey, skipSpace_cons (by decide : isSpace ':' = false)]
  cases value fuel depth _ <;> rfl

theorem members_compactOnto {k : String} {a : Json} {as : List (String × Json)}
    (hread : ∀ e ∈ (k, a) :: as, ReadsBack e.2) (hdepth : depthMembers ((k, a) :: as) ≤ depth)
    (hfuel : Suffices fuel (compactMembersText k a as rest) rest) :
    members fuel depth (compactMembersText k a as rest) = some ((k, a) :: as, rest) := by
  have hlonger := length_compactOnto a (compactMembersOnto as rest)
  have hmore := length_compactMembersOnto as rest
  induction fuel generalizing k a as with
  | zero =>
      refine (not_suffices_zero_of_lt ?_ hfuel).elim
      rw [compactMembersText, List.length_append, List.length_cons]
      omega
  | succ fuel ih =>
      have hfirst : Suffices fuel (compactOnto a (compactMembersOnto as rest))
          (compactMembersOnto as rest) := by
        simp only [Suffices, compactMembersText, List.length_append, List.length_cons] at hfuel ⊢
        omega
      rw [depthMembers, Nat.max_le] at hdepth
      rw [members_compactMembersText hfuel, hread _ List.mem_cons_self hdepth.1
        (endsNumber_compactMembersOnto ..) hfirst, Option.bind_some]
      cases as with
      | nil => rfl
      | cons e as =>
          obtain ⟨k', a'⟩ := e
          have hinside : Suffices fuel (compactMembersText k' a' as rest) rest := by
            simp only [Suffices, compactMembersText, compactMembersOnto, List.length_append,
              List.length_cons] at hfuel hlonger ⊢
            omega
          have hrest := ih (fun e he => hread e (List.mem_cons_of_mem _ he)) hdepth.2 hinside
            (length_compactOnto ..) (length_compactMembersOnto ..)
          simp only [compactMembersOnto, skipSpace_cons (by decide : isSpace ',' = false)]
          change (members fuel depth (compactMembersText k' a' as rest)).map _ = _
          rw [hrest, Option.map_some]

/-- Fuel that suffices for a value is at least one. -/
theorem ReadsBack.of_succ {j : Json}
    (h : ∀ {fuel depth : Nat} {rest : List Char}, j.depth ≤ depth → EndsNumber rest →
      Suffices (fuel + 1) (compactOnto j rest) rest →
      value (fuel + 1) depth (compactOnto j rest) = some (j, rest)) : ReadsBack j := by
  intro fuel depth rest hdepth hrest hfuel
  cases fuel with
  | zero => exact (not_suffices_zero_of_lt (length_compactOnto ..) hfuel).elim
  | succ fuel => exact h hdepth hrest hfuel

theorem readsBack_arr {as : List Json} (h : ∀ a ∈ as, ReadsBack a) : ReadsBack (arr as) := by
  apply ReadsBack.of_succ
  intro fuel depth rest hdepth _ hfuel
  rw [Json.depth] at hdepth
  cases as with
  | nil =>
      unfold value
      rw [skipSpace_compactOnto]
      exact if_neg (by omega)
  | cons a as =>
      have hhead : (compactOnto a (compactItemsOnto as rest)).head? ≠ some ']' := by
        obtain ⟨c, _, htext, _, hc⟩ := exists_compactOnto_eq_cons a (compactItemsOnto as rest)
        simpa [htext] using hc
      have hinside : Suffices fuel (compactOnto a (compactItemsOnto as rest)) rest := by
        simp only [Suffices, compactOnto, List.length_cons] at hfuel ⊢
        omega
      rw [value_arr (skipSpace_compactOnto ..) (skipSpace_compactOnto ..) hhead,
        if_neg (by omega), items_compactOnto h (by omega) hinside, Option.map_some]

theorem readsBack_obj {as : List (String × Json)} (hsorted : Dict.Sorted as)
    (h : ∀ e ∈ as, ReadsBack e.2) : ReadsBack (obj as) := by
  apply ReadsBack.of_succ
  intro fuel depth rest hdepth _ hfuel
  rw [Json.depth] at hdepth
  cases as with
  | nil =>
      unfold value
      rw [skipSpace_compactOnto]
      exact if_neg (by omega)
  | cons e as =>
      obtain ⟨k, a⟩ := e
      have hhead : (compactMembersText k a as rest).head? ≠ some '\x7d' := by
        simp [compactMembersText, quoteChars]
      have hinside : Suffices fuel (compactMembersText k a as rest) rest := by
        simp only [Suffices, compactOnto, compactMembersText, List.length_cons] at hfuel ⊢
        omega
      rw [value_obj (skipSpace_compactOnto ..) (skipSpace_compactMembersText ..) hhead,
        if_neg (by omega), members_compactOnto h (by omega) hinside, Option.map_some]
      simp only [Dict.ofList_of_sorted hsorted]

theorem readsBack {j : Json} (hj : j.IsValue) : j.ReadsBack := by
  induction j using inductionOn with
  | arr as ih => exact readsBack_arr fun a ha => ih a ha (areValues_iff.mp hj a ha)
  | obj as ih =>
      obtain ⟨hsorted, hvalues⟩ := hj
      exact readsBack_obj hsorted fun e he => ih e he (holdsValues_iff.mp hvalues e he)
  | null =>
      apply ReadsBack.of_succ
      intro fuel depth rest _ _ _
      unfold value
      rw [skipSpace_compactOnto]
      rfl
  | bool b =>
      apply ReadsBack.of_succ
      intro fuel depth rest _ _ _
      unfold value
      rw [skipSpace_compactOnto]
      cases b <;> rfl
  | int i =>
      apply ReadsBack.of_succ
      intro fuel depth rest _ hrest _
      rw [value_number (isNumber_intChars i) hrest (skipSpace_compactOnto ..),
        number?_intChars hj.1 hj.2, Option.map_some]
  | float x =>
      apply ReadsBack.of_succ
      intro fuel depth rest _ hrest _
      rw [value_number (isNumber_render x) hrest (skipSpace_compactOnto ..), hj, Option.map_some]
  | str s =>
      apply ReadsBack.of_succ
      intro fuel depth rest _ _ hfuel
      exact value_str (skipSpace_compactOnto ..) hfuel depth

/-- The compact form of an object is enclosed in braces. -/
theorem braces_of_compactOnto {as : List (String × Json)} (h : (obj as).IsValue) :
    (compactOnto (obj as) []).head? = some '\x7b' ∧
      (compactOnto (obj as) []).getLast? = some '\x7d' := by
  constructor
  · cases as <;> rfl
  · have hfuel : Suffices (2 * (compactOnto (obj as) []).length) (compactOnto (obj as) []) [] :=
      Nat.le_add_left _ _
    have hread := readsBack h (Nat.le_refl _) endsNumber_nil hfuel
    obtain ⟨before, hbefore⟩ := ((readsRightly _).value hread).brace as rfl
    rw [← hbefore, List.getLast?_concat]

/-- A value that is not nested too deep is read back from its compact form. -/
theorem parseChars?_compactOnto {j : Json} (hj : j.IsValue) (hdepth : j.depth ≤ maxDepth) :
    parseChars? (compactOnto j []) = some j := by
  have hfuel : Suffices (2 * (compactOnto j []).length + 2) (compactOnto j []) [] := by
    simp [Suffices]
  rw [parseChars?, readsBack hj hdepth endsNumber_nil hfuel]
  rfl

end ScaffoldRunner.Json
