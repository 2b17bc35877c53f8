import ScaffoldRunner.Text.Basic

/-!
# Searching a text

Prefix tests and substring tests, exact or ignoring case, on lists of characters. All matches of a
pattern are found from left to right and without overlap; a pattern is a function that looks at
the front of a text and returns what it found there and what follows.
-/

namespace ScaffoldRunner.Text

/-- What follows `word` at the front of the text, when it stands there. -/
def afterPrefix? : List Char → List Char → Option (List Char)
  | [], cs => some cs
  | _ :: _, [] => none
  | w :: ws, c :: cs => if w = c then afterPrefix? ws cs else none

/-- What follows `word` at the front of the text, when it stands there in any letter case. The
word itself is in lower case. -/
def afterPrefixFold? : List Char → List Char → Option (List Char)
  | [], cs => some cs
  | _ :: _, [] => none
  | w :: ws, c :: cs => if w = foldCase c then afterPrefixFold? ws cs else none

/-- Whether `word` stands somewhere in the text. -/
def contains (word : List Char) : List Char → Bool
  | [] => (afterPrefix? word []).isSome
  | c :: cs => (afterPrefix? word (c :: cs)).isSome || contains word cs

/-- Whether the word, given in lower case, stands somewhere in the text in any letter case. -/
def containsFold (word : List Char) : List Char → Bool
  | [] => (afterPrefixFold? word []).isSome
  | c :: cs => (afterPrefixFold? word (c :: cs)).isSome || containsFold word cs

theorem afterPrefix?_eq_some_iff {ws cs rest : List Char} :
    afterPrefix? ws cs = some rest ↔ cs = ws ++ rest := by
  induction ws generalizing cs with
  | nil => simp [afterPrefix?]
  | cons w ws ih =>
      cases cs with
      | nil => simp [afterPrefix?]
      | cons c cs =>
          rw [afterPrefix?]
          split
          · rename_i h; simp [ih, h]
          · rename_i h
            simp only [List.cons_append, List.cons.injEq, reduceCtorEq, false_iff, not_and]
            exact fun e => absurd e.symm h

theorem length_of_afterPrefixFold? {ws cs rest : List Char}
    (h : afterPrefixFold? ws cs = some rest) : cs.length = ws.length + rest.length := by
  induction ws generalizing cs with
  | nil => simp_all [afterPrefixFold?]
  | cons w ws ih =>
      cases cs with
      | nil => simp [afterPrefixFold?] at h
      | cons c cs =>
          rw [afterPrefixFold?] at h
          split at h
          · simp [ih h, Nat.succ_add]
          · cases h

theorem contains_eq_true_iff {ws cs : List Char} :
    contains ws cs = true ↔ ∃ before after, cs = before ++ ws ++ after := by
  induction cs with
  | nil =>
      simp only [contains, Option.isSome_iff_exists, afterPrefix?_eq_some_iff]
      constructor
      · rintro ⟨rest, h⟩
        exact ⟨[], rest, by simpa using h⟩
      · rintro ⟨before, after, h⟩
        refine ⟨after, ?_⟩
        simp_all
  | cons c cs ih =>
      simp only [contains, Bool.or_eq_true, Option.isSome_iff_exists, afterPrefix?_eq_some_iff, ih]
      constructor
      · rintro (⟨rest, h⟩ | ⟨before, after, h⟩)
        · exact ⟨[], rest, by simpa using h⟩
        · exact ⟨c :: before, after, by simp [h]⟩
      · rintro ⟨before, after, h⟩
        cases before with
        | nil => exact Or.inl ⟨after, by simpa using h⟩
        | cons b before =>
            simp only [List.cons_append, List.append_assoc, List.cons.injEq] at h
            exact Or.inr ⟨before, after, by simpa using h.2⟩

/-- All matches of a pattern. A match has to use up at least one character. -/
def findAll {α : Type} (pattern : List Char → Option (α × List Char)) : List Char → List α
  | [] => []
  | c :: cs =>
      match pattern (c :: cs) with
      | some (a, rest) => if rest.length ≤ cs.length then a :: findAll pattern rest else [a]
      | none => findAll pattern cs
termination_by cs => cs.length
decreasing_by
  · simp only [List.length_cons]
    omega
  · simp

end ScaffoldRunner.Text
