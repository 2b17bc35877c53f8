import Mathlib.Data.List.Infix
import ScaffoldRunner.Text.Search

/-!
# What a search finds

A word stands in a text, exactly or in any letter case, when the text can be cut so that
the word, or a form of it, is one of the pieces.  The matches of a pattern are found from
left to right.  Where no match begins, the search goes on one character later; where one
begins, it goes on behind it.  Everything about the matches of a text follows from these
two steps by `findAll_induction`.
-/

namespace ScaffoldRunner.Text

variable {word cs front back rest : List Char} {c : Char}

/-! ## Words -/

theorem afterPrefixFold?_eq_some_iff :
    afterPrefixFold? word cs = some rest ↔
      ∃ front, cs = front ++ rest ∧ front.map foldCase = word := by
  induction word generalizing cs with
  | nil => simp [afterPrefixFold?]
  | cons w word ih =>
      cases cs with
      | nil => simp [afterPrefixFold?]
      | cons c cs =>
          rw [afterPrefixFold?]
          constructor
          · intro h
            split at h
            · next hc =>
                obtain ⟨front, rfl, hfront⟩ := ih.mp h
                exact ⟨c :: front, rfl, by rw [List.map_cons, hfront, hc]⟩
            · cases h
          · rintro ⟨front, hcs, hfront⟩
            obtain ⟨d, front', rfl, hd, hrest⟩ := List.map_eq_cons_iff.mp hfront
            obtain ⟨rfl, rfl⟩ := List.cons.inj hcs
            rw [if_pos hd.symm]
            exact ih.mpr ⟨front', rfl, hrest⟩

theorem containsFold_eq_true_iff :
    containsFold word cs = true ↔
      ∃ before form after, cs = before ++ (form ++ after) ∧ form.map foldCase = word := by
  have hfront (cs : List Char) : (afterPrefixFold? word cs).isSome = true ↔
      ∃ form after, cs = form ++ after ∧ form.map foldCase = word := by
    rw [Option.isSome_iff_exists]
    constructor
    · rintro ⟨after, h⟩
      obtain ⟨form, hcs, hform⟩ := afterPrefixFold?_eq_some_iff.mp h
      exact ⟨form, after, hcs, hform⟩
    · rintro ⟨form, after, hcs, hform⟩
      exact ⟨after, afterPrefixFold?_eq_some_iff.mpr ⟨form, hcs, hform⟩⟩
  induction cs with
  | nil =>
      rw [containsFold, hfront]
      constructor
      · rintro ⟨form, after, hcs, hform⟩
        exact ⟨[], form, after, hcs, hform⟩
      · rintro ⟨before, form, after, hcs, hform⟩
        exact ⟨form, after, (List.nil_eq_append_iff.mp hcs).2.symm, hform⟩
  | cons c cs ih =>
      rw [containsFold, Bool.or_eq_true, hfront]
      refine (or_congr_right ih).trans ?_
      constructor
      · rintro (⟨form, after, hcs, hform⟩ | ⟨before, form, after, rfl, hform⟩)
        · exact ⟨[], form, after, hcs, hform⟩
        · exact ⟨c :: before, form, after, rfl, hform⟩
      · rintro ⟨before, form, after, hcs, hform⟩
        cases before with
        | nil => exact .inl ⟨form, after, hcs, hform⟩
        | cons b before =>
            obtain ⟨rfl, rfl⟩ := List.cons.inj hcs
            exact .inr ⟨before, form, after, rfl, hform⟩

/-- A word at the front of a text does not reach over a character that it does not hold. -/
theorem afterPrefix?_append_cons (hc : c ∉ word) (front back : List Char) :
    afterPrefix? word (front ++ c :: back) =
      (afterPrefix? word front).map (· ++ c :: back) := by
  induction word generalizing front with
  | nil => rfl
  | cons w word ih =>
      obtain ⟨hne, hword⟩ : c ≠ w ∧ c ∉ word := by simpa using hc
      cases front with
      | nil => exact if_neg (Ne.symm hne)
      | cons d front =>
          rw [List.cons_append, afterPrefix?, afterPrefix?]
          by_cases hd : w = d
          · rw [if_pos hd, if_pos hd, ih hword]
          · rw [if_neg hd, if_neg hd]
            rfl

/-- A word stands on one side of a character that it does not hold. -/
theorem contains_append_cons (hne : word ≠ []) (hc : c ∉ word) (front back : List Char) :
    contains word (front ++ c :: back) = (contains word front || contains word back) := by
  induction front with
  | nil =>
      obtain ⟨w, word, rfl⟩ := List.exists_cons_of_ne_nil hne
      have hw : w ≠ c := fun heq => hc (heq ▸ List.mem_cons_self)
      rw [List.nil_append, contains, contains, afterPrefix?, afterPrefix?, if_neg hw]
  | cons d front ih =>
      rw [List.cons_append, contains, contains, ih, ← List.cons_append,
        afterPrefix?_append_cons hc, Option.isSome_map, Bool.or_assoc]

/-! ## Cuts -/

section Cuts

variable {p : Char → Bool}

/-- The characters that are taken from a text are those in front of the first that is not. -/
theorem takeWhile_append_of_head? (hfront : ∀ c ∈ front, p c = true)
    (hback : ∀ c ∈ back.head?, p c = false) : (front ++ back).takeWhile p = front := by
  rw [List.takeWhile_append_of_pos hfront]
  cases back with
  | nil => simp
  | cons c back => simp [hback c rfl]

theorem dropWhile_append_of_head? (hfront : ∀ c ∈ front, p c = true)
    (hback : ∀ c ∈ back.head?, p c = false) : (front ++ back).dropWhile p = back := by
  rw [List.dropWhile_append_of_pos hfront]
  cases back with
  | nil => rfl
  | cons c back => simp [hback c rfl]

/-- A cut within the front is not moved by what follows. -/
theorem dropWhile_append_of_ne_nil (h : front.dropWhile p ≠ []) (back : List Char) :
    (front ++ back).dropWhile p = front.dropWhile p ++ back := by
  rw [List.dropWhile_append, if_neg (mt List.isEmpty_iff.mp h)]

theorem dropWhile_append_of_eq_nil (h : front.dropWhile p = []) (back : List Char) :
    (front ++ back).dropWhile p = back.dropWhile p := by
  rw [List.dropWhile_append, if_pos (List.isEmpty_iff.mpr h)]

theorem takeWhile_append_cons (hc : p c = false) (front back : List Char) :
    (front ++ c :: back).takeWhile p = front.takeWhile p := by
  induction front with
  | nil => simp [hc]
  | cons d front ih => rw [List.cons_append, List.takeWhile_cons, List.takeWhile_cons, ih]

theorem dropWhile_append_cons (hc : p c = false) (front back : List Char) :
    (front ++ c :: back).dropWhile p = front.dropWhile p ++ c :: back := by
  induction front with
  | nil => simp [hc]
  | cons d front ih =>
      rw [List.cons_append, List.dropWhile_cons, List.dropWhile_cons, ih]
      split <;> rfl

/-- What is taken from a text ends where a character does not belong to it. -/
theorem head?_dropWhile_eq_false (cs : List Char) : ∀ c ∈ (cs.dropWhile p).head?, p c = false := by
  intro c hc
  have hhead := List.head?_dropWhile_not p cs
  rw [Option.mem_def.mp hc] at hhead
  simpa using hhead

end Cuts

theorem contains_eq_true_iff_infix : contains word cs = true ↔ word <:+: cs := by
  rw [contains_eq_true_iff]
  exact exists_congr fun _ => exists_congr fun _ => eq_comm

theorem lower_append (front back : List Char) : lower (front ++ back) = lower front ++ lower back :=
  List.flatMap_append

/-! ## Matches -/

variable {α : Type} {pattern : List Char → Option (α × List Char)} {a : α}

/-- A match is a piece at the front of the text, with a character at least. -/
def Consumes (pattern : List Char → Option (α × List Char)) : Prop :=
  ∀ {cs : List Char} {a : α} {rest : List Char},
    pattern cs = some (a, rest) → ∃ piece, piece ≠ [] ∧ cs = piece ++ rest

theorem Consumes.length_lt (hpattern : Consumes pattern) (h : pattern cs = some (a, rest)) :
    rest.length < cs.length := by
  obtain ⟨piece, hpiece, rfl⟩ := hpattern h
  have hpos : 0 < piece.length := List.length_pos_iff.mpr hpiece
  rw [List.length_append]
  omega

theorem Consumes.nil (hpattern : Consumes pattern) : pattern [] = none := by
  cases h : pattern [] with
  | none => rfl
  | some found => exact absurd (hpattern.length_lt h) (Nat.not_lt_zero _)

@[simp] theorem findAll_nil : findAll pattern [] = [] := by
  rw [findAll]

/-- The search goes on behind a match. -/
theorem findAll_of_some (hpattern : Consumes pattern) (h : pattern cs = some (a, rest)) :
    findAll pattern cs = a :: findAll pattern rest := by
  have hlt := hpattern.length_lt h
  cases cs with
  | nil => exact absurd hlt (Nat.not_lt_zero _)
  | cons c cs =>
      rw [findAll, h]
      exact if_pos (Nat.lt_succ_iff.mp hlt)

theorem findAll_of_none (h : pattern (c :: cs) = none) :
    findAll pattern (c :: cs) = findAll pattern cs := by
  rw [findAll, h]

/-- The search, step by step: a match begins here, or it goes on after one character. -/
theorem findAll_induction {motive : List Char → Prop} (hpattern : Consumes pattern)
    (nil : motive [])
    (found : ∀ {cs a rest}, pattern cs = some (a, rest) → motive rest → motive cs)
    (passed : ∀ {c cs}, pattern (c :: cs) = none → motive cs → motive (c :: cs))
    (cs : List Char) : motive cs := by
  induction hlength : cs.length using Nat.strong_induction_on generalizing cs with
  | _ n ih =>
      subst hlength
      cases cs with
      | nil => exact nil
      | cons c cs =>
          cases h : pattern (c :: cs) with
          | none => exact passed h (ih cs.length (Nat.lt_succ_self _) cs rfl)
          | some found' =>
              obtain ⟨a, rest⟩ := found'
              exact found h (ih rest.length (hpattern.length_lt h) rest rfl)

/-- The search passes over a text in which no match begins. -/
theorem findAll_append_of_none
    (h : ∀ later, later ≠ [] → later <:+ front → pattern (later ++ cs) = none) :
    findAll pattern (front ++ cs) = findAll pattern cs := by
  induction front with
  | nil => rfl
  | cons c front ih =>
      have hhere : pattern (c :: (front ++ cs)) = none :=
        h (c :: front) (List.cons_ne_nil c front) (List.suffix_refl _)
      rw [List.cons_append, findAll_of_none hhere]
      apply ih
      intro later hne hlater
      exact h later hne (hlater.trans (List.suffix_cons c front))

/-- The search goes through two texts one after the other if no match reaches over the
character between them. -/
theorem findAll_append_cons (hpattern : Consumes pattern)
    (hstops : ∀ front, pattern (front ++ c :: back) =
      (pattern front).map fun found => (found.1, found.2 ++ c :: back))
    (front : List Char) :
    findAll pattern (front ++ c :: back) = findAll pattern front ++ findAll pattern back := by
  induction front using findAll_induction hpattern with
  | nil =>
      have hhere : pattern (c :: back) = none := by
        rw [← List.nil_append (c :: back), hstops, hpattern.nil]
        rfl
      rw [List.nil_append, findAll_of_none hhere, findAll_nil, List.nil_append]
  | @found front a rest h ih =>
      have hwhole : pattern (front ++ c :: back) = some (a, rest ++ c :: back) := by
        rw [hstops, h]
        rfl
      rw [findAll_of_some hpattern hwhole, findAll_of_some hpattern h, ih, List.cons_append]
  | @passed d front h ih =>
      have hwhole : pattern (d :: (front ++ c :: back)) = none := by
        rw [← List.cons_append, hstops, h]
        rfl
      rw [List.cons_append, findAll_of_none hwhole, findAll_of_none h, ih]

end ScaffoldRunner.Text
