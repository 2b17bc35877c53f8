import Mathlib.Data.List.Basic
import ScaffoldRunner.Proofs.Redaction

/-!
# What redaction leaves

In a redacted text every value that is assigned to a secret is hidden by stars, and
no path leads through a sensitive directory.  These are exactly the texts that
redaction leaves alone, so redacting again changes nothing.

Redaction joins texts that were apart before.  It writes equals signs, stars and, for
a path, separators around stars.  No keyword holds any of these, and a path does not
go on over stars, so nothing comes to be an assignment or a path that was none.
-/

namespace ScaffoldRunner.Redaction

variable {cs front back rest word : List Char} {c sep : Char}

/-! ## Assignments and their places -/

/-- Every value that a text assigns to a secret is hidden by stars. -/
def HidesSecrets (cs : List Char) : Prop :=
  ∀ (a : Assignment) (value : List Char), IsValue value → cs = a.text value →
    a.separator = '=' ∧ a.blanks = [] ∧ value = "***".toList

/-- The value that a text assigns at its front, if it does, is hidden by stars. -/
def HidesFirst (cs : List Char) : Prop :=
  ∀ word sep rest, IsKeyword word → IsSeparator sep → cs = word ++ sep :: rest →
    Text.trimStart rest ≠ [] → sep = '=' ∧ ∃ after, rest = "***".toList ++ after ∧ EndsValue after

theorem isSeparator_equals : IsSeparator '=' :=
  .inl rfl

theorem areSolid_stars : AreSolid "***".toList := by
  decide

theorem endsValue_dropValue (cs : List Char) : EndsValue (dropValue cs) := by
  intro c hc
  have hend := Text.head?_dropWhile_eq_false (Text.trimStart cs) c hc
  simpa using hend

/-- A text is cut at a blank, or at its end, in one way only. -/
theorem solid_append_inj {solid solid' after after' : List Char} (hsolid : AreSolid solid)
    (hsolid' : AreSolid solid') (hafter : EndsValue after) (hafter' : EndsValue after')
    (h : solid ++ after = solid' ++ after') : solid = solid' ∧ after = after' := by
  have hrest : after = after' := by
    rw [← dropWhile_solid hsolid hafter, h, dropWhile_solid hsolid' hafter']
  rw [hrest] at h
  exact ⟨List.append_cancel_right h, hrest⟩

/-- A text with a separator is cut at its first one in one way only. -/
theorem separator_append_inj {front' back' : List Char} {sep' : Char}
    (hfront : ∀ c ∈ front, ¬IsSeparator c) (hfront' : ∀ c ∈ front', ¬IsSeparator c)
    (hsep : IsSeparator sep) (hsep' : IsSeparator sep')
    (h : front ++ sep :: back = front' ++ sep' :: back') :
    front = front' ∧ sep = sep' ∧ back = back' := by
  induction front generalizing front' with
  | nil =>
      cases front' with
      | nil => simpa using h
      | cons c front' =>
          obtain ⟨rfl, -⟩ := List.cons.inj h
          exact absurd hsep (hfront' sep List.mem_cons_self)
  | cons c front ih =>
      cases front' with
      | nil =>
          obtain ⟨rfl, -⟩ := List.cons.inj h
          exact absurd hsep' (hfront c List.mem_cons_self)
      | cons c' front' =>
          obtain ⟨rfl, hrest⟩ := List.cons.inj h
          obtain ⟨rfl, hsame⟩ := ih (fun d hd => hfront d (List.mem_cons_of_mem c hd))
            (fun d hd => hfront' d (List.mem_cons_of_mem c hd)) hrest
          exact ⟨rfl, hsame⟩

theorem IsKeyword.not_isSeparator (h : IsKeyword word) : ∀ c ∈ word, ¬IsSeparator c :=
  fun _ hc => not_isSeparator_of_mem h hc

/-- An assignment stands wherever a keyword and a separator are followed by more than
blanks. -/
theorem hidesSecrets_iff : HidesSecrets cs ↔ ∀ later, later <:+ cs → HidesFirst later := by
  constructor
  · rintro h later ⟨before, rfl⟩ word sep rest hword hsep rfl hvalue
    let blanks := rest.takeWhile Text.isBlank
    let value := (Text.trimStart rest).takeWhile fun c => !Text.isBlank c
    have hsplit : rest = blanks ++ (value ++ dropValue rest) := by
      rw [dropValue, List.takeWhile_append_dropWhile]
      exact List.takeWhile_append_dropWhile.symm
    have hsolid : AreSolid value := fun c hc => by
      simpa using List.mem_takeWhile_imp hc
    have hne : value ≠ [] := by
      obtain ⟨c, more, htrim⟩ := List.exists_cons_of_ne_nil hvalue
      have hc : Text.isBlank c = false := Text.head?_trimStart (by rw [htrim]; rfl)
      simp [value, htrim, hc]
    obtain ⟨hequals, hblanks, hstars⟩ : sep = '=' ∧ blanks = [] ∧ value = "***".toList :=
      h ⟨before, word, sep, blanks, dropValue rest, hword, hsep,
          fun c hc => List.mem_takeWhile_imp hc, endsValue_dropValue rest⟩ value ⟨hne, hsolid⟩
        (by rw [Assignment.text]; dsimp only; rw [← hsplit])
    refine ⟨hequals, dropValue rest, ?_, endsValue_dropValue rest⟩
    rwa [hblanks, hstars, List.nil_append] at hsplit
  · rintro h a value hvalue rfl
    have htrim : Text.trimStart (a.blanks ++ (value ++ a.after)) = value ++ a.after := by
      have hblanks : Text.trimStart a.blanks = [] := List.dropWhile_eq_nil_iff.mpr a.areBlanks
      rw [trimStart_append_of_nil hblanks, trimStart_solid hvalue.2 hvalue.1]
    have hne : Text.trimStart (a.blanks ++ (value ++ a.after)) ≠ [] := by
      rw [htrim]
      exact List.append_ne_nil_of_left_ne_nil hvalue.1 a.after
    obtain ⟨hequals, after, hrest, hafter⟩ := h _ (List.suffix_append a.before _) a.keyword
      a.separator _ a.isKeyword a.isSeparator rfl hne
    have hblanks : a.blanks = [] := by
      cases hcase : a.blanks with
      | nil => rfl
      | cons b blanks =>
          have hblank : Text.isBlank b = true := a.areBlanks b (hcase ▸ List.mem_cons_self)
          rw [hcase] at hrest
          obtain ⟨rfl, -⟩ := List.cons.inj hrest
          exact absurd hblank (by decide)
    rw [hblanks, List.nil_append] at hrest
    exact ⟨hequals, hblanks,
      (solid_append_inj hvalue.2 areSolid_stars a.endsValue hafter hrest).1⟩

theorem hidesSecrets_nil : HidesSecrets [] := by
  rintro a value - h
  simp [Assignment.text] at h

theorem hidesSecrets_cons :
    HidesSecrets (c :: cs) ↔ HidesFirst (c :: cs) ∧ HidesSecrets cs := by
  simp only [hidesSecrets_iff, List.suffix_cons_iff, forall_eq_or_imp]

theorem hidesSecrets_append (hcs : HidesSecrets cs)
    (hfront : ∀ later, later ≠ [] → later <:+ front → HidesFirst (later ++ cs)) :
    HidesSecrets (front ++ cs) := by
  induction front with
  | nil => exact hcs
  | cons c front ih =>
      refine hidesSecrets_cons.mpr
        ⟨hfront (c :: front) (List.cons_ne_nil c front) (List.suffix_refl _), ih ?_⟩
      exact fun later hne hlater => hfront later hne (hlater.trans (List.suffix_cons c front))

theorem HidesSecrets.of_suffix (h : HidesSecrets cs) (hrest : rest <:+ cs) :
    HidesSecrets rest :=
  hidesSecrets_iff.mpr fun _ hlater => hidesSecrets_iff.mp h _ (hlater.trans hrest)

/-- No keyword begins with a character that is none of the first letters. -/
theorem hidesFirst_cons (h : ∀ word ∈ keywords, word.head? ≠ some (Text.foldCase c))
    (cs : List Char) : HidesFirst (c :: cs) := by
  intro word sep rest hword _ hcs
  refine absurd ?_ (h _ hword)
  have hhead := congrArg List.head? hcs
  rw [List.head?_append, Option.or_of_isSome hword.isSome_head?, List.head?_cons] at hhead
  rw [List.head?_map, ← hhead]
  rfl

/-! ## Secrets -/

theorem secretAt?_eq_some_iff {after : List Char} :
    secretAt? cs = some (word, after) ↔
      ∃ sep rest, IsKeyword word ∧ IsSeparator sep ∧ cs = word ++ sep :: rest ∧
        Text.trimStart rest ≠ [] ∧ after = dropValue rest := by
  rw [secretAt?_eq]
  constructor
  · intro h
    obtain ⟨⟨word', rest⟩, hfound, hhere⟩ := Option.bind_eq_some_iff.mp h
    obtain ⟨sep, hword, hsep, hcs⟩ := afterSeparator?_eq_some_iff.mp hfound
    by_cases hvalue : Text.trimStart rest = []
    · rw [if_pos hvalue] at hhere
      cases hhere
    · rw [if_neg hvalue] at hhere
      obtain ⟨rfl, rfl⟩ := Prod.mk.inj (Option.some.inj hhere)
      exact ⟨sep, rest, hword, hsep, hcs, hvalue, rfl⟩
  · rintro ⟨sep, rest, hword, hsep, hcs, hvalue, rfl⟩
    rw [afterSeparator?_eq_some_iff.mpr ⟨sep, hword, hsep, hcs⟩]
    exact if_neg hvalue

/-- Where nothing is assigned, the text is kept. -/
theorem redactSecrets_of_secretAt?_none (h : secretAt? (c :: cs) = none) :
    redactSecrets (c :: cs) = c :: redactSecrets cs := by
  rw [redactSecrets.eq_def]
  split
  · next hfound => simp [h] at hfound
  · rfl

theorem redactSecrets_assignment (hword : IsKeyword word) (hsep : IsSeparator sep)
    (hvalue : Text.trimStart rest ≠ []) :
    redactSecrets (word ++ sep :: rest) =
      word ++ '=' :: ("***".toList ++ redactSecrets (dropValue rest)) := by
  rw [redactSecrets_of_some (afterSeparator?_eq_some_iff.mpr ⟨sep, hword, hsep, rfl⟩) hvalue,
    List.append_assoc]
  rfl

/-- Redaction, place by place: there is an assignment, or the text goes on after one
character. -/
theorem secrets_induction {motive : List Char → Prop} (nil : motive [])
    (assigned : ∀ {word sep rest}, IsKeyword word → IsSeparator sep → Text.trimStart rest ≠ [] →
      motive (dropValue rest) → motive (word ++ sep :: rest))
    (passed : ∀ {c cs}, secretAt? (c :: cs) = none → motive cs → motive (c :: cs))
    (cs : List Char) : motive cs := by
  induction cs using redactSecrets.induct with
  | case1 cs word after hfound ih =>
      obtain ⟨sep, rest, hword, hsep, rfl, hvalue, rfl⟩ := secretAt?_eq_some_iff.mp hfound
      exact assigned hword hsep hvalue ih
  | case2 => exact nil
  | case3 c cs hnone ih => exact passed hnone ih

theorem endsValue_redactSecrets (h : EndsValue cs) : EndsValue (redactSecrets cs) := by
  cases cs with
  | nil => simpa using h
  | cons c cs =>
      have hblank : AreBlanks [c] := fun d hd => List.mem_singleton.mp hd ▸ h c rfl
      intro d hd
      rw [← List.singleton_append, redactSecrets_append_of_areBlanks hblank] at hd
      obtain rfl := Option.some.inj hd
      exact h c rfl

theorem trimStart_redactSecrets (h : Text.trimStart cs = []) :
    Text.trimStart (redactSecrets cs) = [] := by
  have hblanks : AreBlanks cs := List.dropWhile_eq_nil_iff.mp h
  have hsame := redactSecrets_append_of_areBlanks hblanks []
  rw [List.append_nil, redactSecrets_nil, List.append_nil] at hsame
  rwa [hsame]

/-- Redaction keeps what stands in front of a separator. -/
theorem exists_of_redactSecrets_eq (hfront : ∀ c ∈ front, ¬IsSeparator c) (hsep : IsSeparator sep)
    (h : redactSecrets cs = front ++ sep :: rest) :
    ∃ sep' rest', IsSeparator sep' ∧ cs = front ++ sep' :: rest' ∧
      (Text.trimStart rest ≠ [] → Text.trimStart rest' ≠ []) := by
  induction cs using secrets_induction generalizing front with
  | nil => simp at h
  | @assigned word sep' rest' hword hsep' hvalue _ =>
      rw [redactSecrets_assignment hword hsep' hvalue] at h
      obtain ⟨rfl, -, -⟩ :=
        separator_append_inj hword.not_isSeparator hfront isSeparator_equals hsep h
      exact ⟨sep', rest', hsep', rfl, fun _ => hvalue⟩
  | @passed c cs hnone ih =>
      rw [redactSecrets_of_secretAt?_none hnone] at h
      cases front with
      | nil =>
          obtain ⟨rfl, rfl⟩ := List.cons.inj h
          exact ⟨c, cs, hsep, rfl, mt trimStart_redactSecrets⟩
      | cons d front =>
          obtain ⟨rfl, htail⟩ := List.cons.inj h
          obtain ⟨sep', rest', hsep', rfl, hvalue⟩ :=
            ih (fun e he => hfront e (List.mem_cons_of_mem c he)) htail
          exact ⟨sep', rest', hsep', rfl, hvalue⟩

/-- A text in which the secrets were redacted assigns nothing but stars. -/
theorem hidesSecrets_redactSecrets (cs : List Char) : HidesSecrets (redactSecrets cs) := by
  induction cs using secrets_induction with
  | nil => rw [redactSecrets_nil]; exact hidesSecrets_nil
  | @assigned word sep rest hword hsep hvalue ih =>
      rw [redactSecrets_assignment hword hsep hvalue]
      have hstars : HidesSecrets ('=' :: ("***".toList ++ redactSecrets (dropValue rest))) := by
        have hplain : ∀ word ∈ keywords, word.head? ≠ some '=' ∧ word.head? ≠ some '*' := by decide
        have hequals := hidesFirst_cons (c := '=') fun word hword => (hplain word hword).1
        have hstar := hidesFirst_cons (c := '*') fun word hword => (hplain word hword).2
        exact hidesSecrets_cons.mpr ⟨hequals _, hidesSecrets_cons.mpr ⟨hstar _,
          hidesSecrets_cons.mpr ⟨hstar _, hidesSecrets_cons.mpr ⟨hstar _, ih⟩⟩⟩⟩
      -- What is left of the keyword and the equals sign are the first place for an assignment.
      refine hidesSecrets_append hstars ?_
      rintro later - hlater other sep' rest' hother hsep' htext -
      have hplain : ∀ c ∈ later, ¬IsSeparator c := fun c hc =>
        hword.not_isSeparator c (hlater.subset hc)
      obtain ⟨-, rfl, rfl⟩ :=
        separator_append_inj hplain hother.not_isSeparator isSeparator_equals hsep' htext
      exact ⟨rfl, _, rfl, endsValue_redactSecrets (endsValue_dropValue rest)⟩
  | @passed c cs hnone ih =>
      rw [redactSecrets_of_secretAt?_none hnone]
      refine hidesSecrets_cons.mpr ⟨?_, ih⟩
      -- An assignment here would have been one before.
      intro word sep rest hword hsep htext hvalue
      rw [← redactSecrets_of_secretAt?_none hnone] at htext
      obtain ⟨sep', rest', hsep', hcs, hmore⟩ :=
        exists_of_redactSecrets_eq hword.not_isSeparator hsep htext
      have hfound : secretAt? (c :: cs) = some (word, dropValue rest') :=
        secretAt?_eq_some_iff.mpr ⟨sep', rest', hword, hsep', hcs, hmore hvalue, rfl⟩
      rw [hnone] at hfound
      cases hfound

/-- A text that assigns nothing but stars stays as it is. -/
theorem redactSecrets_eq_self (h : HidesSecrets cs) : redactSecrets cs = cs := by
  induction cs using secrets_induction with
  | nil => exact redactSecrets_nil
  | @assigned word sep rest hword hsep hvalue ih =>
      obtain ⟨rfl, after, rfl, hafter⟩ := hidesSecrets_iff.mp h _ (List.suffix_refl _) word sep rest
        hword hsep rfl hvalue
      have hdrop : dropValue ("***".toList ++ after) = after := by
        rw [dropValue, trimStart_solid areSolid_stars (by decide),
          dropWhile_solid areSolid_stars hafter]
      have hsuffix : after <:+ word ++ '=' :: ("***".toList ++ after) :=
        (List.suffix_append _ after).trans ((List.suffix_cons _ _).trans (List.suffix_append _ _))
      rw [hdrop] at ih
      rw [redactSecrets_assignment hword hsep hvalue, hdrop, ih (h.of_suffix hsuffix)]
  | @passed c cs hnone ih =>
      rw [redactSecrets_of_secretAt?_none hnone, ih (hidesSecrets_cons.mp h).2]

/-! ## Paths and their places -/

/-- Characters of a path only. -/
def ArePathChars (cs : List Char) : Prop := ∀ c ∈ cs, isPathChar c = true

instance : DecidablePred ArePathChars := fun cs =>
  decidable_of_iff (cs.all isPathChar = true) List.all_eq_true

/-- A path that leads through a sensitive directory, from its first separator on. -/
def IsSensitivePath (path : List Char) : Prop :=
  ∃ front part back, path = '/' :: (front ++ (part ++ back)) ∧ part ∈ sensitiveParts ∧
    front ≠ [] ∧ back ≠ [] ∧ ArePathChars front ∧ ArePathChars back

/-- No path in a text leads through a sensitive directory. -/
def HidesPaths (cs : List Char) : Prop :=
  ∀ before path after, IsSensitivePath path → cs ≠ before ++ (path ++ after)

theorem arePathChars_of_mem_sensitiveParts : ∀ part ∈ sensitiveParts, ArePathChars part := by
  decide

theorem sensitiveHere_iff {path : List Char} :
    sensitiveHere path = true ↔
      ∃ part back, path = part ++ back ∧ part ∈ sensitiveParts ∧ back ≠ [] := by
  rw [sensitiveHere, List.any_eq_true]
  constructor
  · rintro ⟨part, hpart, hhere⟩
    split at hhere
    · next c back hback =>
        exact ⟨part, c :: back, Text.afterPrefix?_eq_some_iff.mp hback, hpart,
          List.cons_ne_nil c back⟩
    · cases hhere
  · rintro ⟨part, back, rfl, hpart, hback⟩
    obtain ⟨c, back, rfl⟩ := List.exists_cons_of_ne_nil hback
    exact ⟨part, hpart, by rw [Text.afterPrefix?_eq_some_iff.mpr rfl]⟩

theorem sensitiveLater_iff {path : List Char} :
    sensitiveLater path = true ↔
      ∃ front part back, path = front ++ (part ++ back) ∧ part ∈ sensitiveParts ∧ back ≠ [] := by
  induction path with
  | nil =>
      refine ⟨fun h => (Bool.false_ne_true h).elim, ?_⟩
      rintro ⟨front, part, back, hpath, -, hback⟩
      exact absurd (List.append_eq_nil_iff.mp (List.append_eq_nil_iff.mp hpath.symm).2).2 hback
  | cons c path ih =>
      rw [sensitiveLater, Bool.or_eq_true, sensitiveHere_iff, ih]
      constructor
      · rintro (⟨part, back, hpath, hpart, hback⟩ | ⟨front, part, back, rfl, hpart, hback⟩)
        · exact ⟨[], part, back, hpath, hpart, hback⟩
        · exact ⟨c :: front, part, back, rfl, hpart, hback⟩
      · rintro ⟨front, part, back, hpath, hpart, hback⟩
        cases front with
        | nil => exact .inl ⟨part, back, hpath, hpart, hback⟩
        | cons d front =>
            obtain ⟨rfl, rfl⟩ := List.cons.inj hpath
            exact .inr ⟨front, part, back, rfl, hpart, hback⟩

theorem isSensitive_iff {path : List Char} :
    isSensitive path = true ↔
      ∃ front part back, path = front ++ (part ++ back) ∧ part ∈ sensitiveParts ∧
        front ≠ [] ∧ back ≠ [] := by
  rw [isSensitive, sensitiveLater_iff]
  constructor
  · rintro ⟨front, part, back, hpath, hpart, hback⟩
    cases path with
    | nil =>
        exact absurd (List.append_eq_nil_iff.mp (List.append_eq_nil_iff.mp hpath.symm).2).2 hback
    | cons c path =>
        exact ⟨c :: front, part, back, congrArg (List.cons c) hpath, hpart,
          List.cons_ne_nil c front, hback⟩
  · rintro ⟨front, part, back, rfl, hpart, hfront, hback⟩
    obtain ⟨c, front, rfl⟩ := List.exists_cons_of_ne_nil hfront
    exact ⟨front, part, back, rfl, hpart, hback⟩

/-- A sensitive path stands wherever the characters behind a separator, as far as they
belong to a path, lead through a sensitive directory. -/
theorem hidesPaths_iff :
    HidesPaths cs ↔
      ∀ rest, '/' :: rest <:+ cs → isSensitive (rest.takeWhile isPathChar) = false := by
  constructor
  · rintro h rest ⟨before, rfl⟩
    by_contra hsensitive
    obtain ⟨front, part, back, hpath, hpart, hfront, hback⟩ :=
      isSensitive_iff.mp (Bool.not_eq_false _ ▸ hsensitive)
    have hchars : ArePathChars (front ++ (part ++ back)) := by
      rw [← hpath]
      exact fun c hc => List.mem_takeWhile_imp hc
    refine h before ('/' :: (front ++ (part ++ back))) (rest.dropWhile isPathChar)
      ⟨front, part, back, rfl, hpart, hfront, hback,
        fun c hc => hchars c (List.mem_append_left _ hc),
        fun c hc => hchars c (List.mem_append_right _ (List.mem_append_right _ hc))⟩ ?_
    rw [← hpath, List.cons_append, List.takeWhile_append_dropWhile]
  · rintro h before path after
      ⟨front, part, back, rfl, hpart, hfront, hback, hfrontChars, hbackChars⟩
      rfl
    have hnone := h (front ++ (part ++ back) ++ after) (List.suffix_append before _)
    have hchars : ∀ c ∈ front ++ (part ++ back), isPathChar c = true := by
      intro c hc
      rcases List.mem_append.mp hc with hc | hc
      · exact hfrontChars c hc
      · rcases List.mem_append.mp hc with hc | hc
        · exact arePathChars_of_mem_sensitiveParts part hpart c hc
        · exact hbackChars c hc
    rw [List.takeWhile_append_of_pos hchars, ← Bool.not_eq_true, isSensitive_iff] at hnone
    refine hnone ⟨front, part, back ++ after.takeWhile isPathChar, by simp, hpart, hfront, ?_⟩
    exact List.append_ne_nil_of_left_ne_nil hback _

theorem hidesPaths_nil : HidesPaths [] := by
  rintro before path after ⟨front, part, back, rfl, -⟩ h
  simp at h

theorem hidesPaths_cons :
    HidesPaths (c :: cs) ↔
      (c = '/' → isSensitive (cs.takeWhile isPathChar) = false) ∧ HidesPaths cs := by
  simp only [hidesPaths_iff, List.suffix_cons_iff, or_imp, forall_and, List.cons.injEq, and_imp]
  refine and_congr_left' ?_
  constructor
  · exact fun h hc => h cs hc.symm rfl
  · rintro h rest rfl rfl
    exact h rfl

theorem hidesPaths_append (hfront : '/' ∉ front) (h : HidesPaths cs) :
    HidesPaths (front ++ cs) := by
  induction front with
  | nil => exact h
  | cons c front ih =>
      obtain ⟨hc, hmore⟩ := List.ne_and_not_mem_of_not_mem_cons hfront
      exact hidesPaths_cons.mpr ⟨fun heq => absurd heq.symm hc, ih hmore⟩

/-! ## Paths -/

@[simp] theorem redactPaths_nil : redactPaths [] = [] := by
  rw [redactPaths]

theorem redactPaths_of_sensitive (h : isSensitive (cs.takeWhile isPathChar) = true) :
    redactPaths ('/' :: cs) =
      "/***REDACTED***/".toList ++ redactPaths (cs.dropWhile isPathChar) := by
  rw [redactPaths, if_pos ⟨rfl, h⟩]

theorem redactPaths_of_not (h : ¬(c = '/' ∧ isSensitive (cs.takeWhile isPathChar) = true)) :
    redactPaths (c :: cs) = c :: redactPaths cs := by
  rw [redactPaths, if_neg h]

theorem redactPaths_of_ne (hc : c ≠ '/') : redactPaths (c :: cs) = c :: redactPaths cs :=
  redactPaths_of_not fun h => hc h.1

/-- A text that is not sensitive from some place on is not sensitive later. -/
theorem isSensitive_of_cons (h : isSensitive (c :: cs) = false) : isSensitive cs = false := by
  cases cs with
  | nil => rfl
  | cons d cs =>
      change sensitiveLater (d :: cs) = false at h
      rw [sensitiveLater, Bool.or_eq_false_iff] at h
      exact h.2

/-- Nothing is redacted in a path that leads through no sensitive directory. -/
theorem takeWhile_redactPaths (h : isSensitive (cs.takeWhile isPathChar) = false) :
    (redactPaths cs).takeWhile isPathChar = cs.takeWhile isPathChar := by
  induction cs with
  | nil => rw [redactPaths_nil]
  | cons c cs ih =>
      by_cases hc : isPathChar c = true
      · rw [List.takeWhile_cons_of_pos hc] at h
        have hrest := isSensitive_of_cons h
        rw [redactPaths_of_not (by simp [hrest]), List.takeWhile_cons_of_pos hc,
          List.takeWhile_cons_of_pos hc, ih hrest]
      · have hne : c ≠ '/' := by rintro rfl; exact hc (by decide)
        rw [redactPaths_of_ne hne, List.takeWhile_cons_of_neg hc, List.takeWhile_cons_of_neg hc]

/-- What follows a path does not become a path. -/
theorem takeWhile_redactPaths_dropWhile (cs : List Char) :
    (redactPaths (cs.dropWhile isPathChar)).takeWhile isPathChar = [] := by
  have hnone : (cs.dropWhile isPathChar).takeWhile isPathChar = [] :=
    Text.takeWhile_append_of_head? (fun _ hc => absurd hc List.not_mem_nil)
      (Text.head?_dropWhile_eq_false cs)
  rw [takeWhile_redactPaths (by rw [hnone]; rfl), hnone]

/-- A text in which the paths were redacted has no sensitive path. -/
theorem hidesPaths_redactPaths (cs : List Char) : HidesPaths (redactPaths cs) := by
  induction cs using redactPaths.induct with
  | case1 => rw [redactPaths_nil]; exact hidesPaths_nil
  | case2 c cs h ih =>
      obtain ⟨rfl, hsensitive⟩ := h
      rw [redactPaths_of_sensitive hsensitive]
      have hlast : HidesPaths ('/' :: redactPaths (cs.dropWhile isPathChar)) :=
        hidesPaths_cons.mpr ⟨fun _ => by rw [takeWhile_redactPaths_dropWhile]; rfl, ih⟩
      have hmark : HidesPaths ("***REDACTED***".toList ++
          '/' :: redactPaths (cs.dropWhile isPathChar)) :=
        hidesPaths_append (by decide) hlast
      exact hidesPaths_cons.mpr ⟨fun _ => rfl, hmark⟩
  | case3 c cs h ih =>
      rw [redactPaths_of_not h]
      refine hidesPaths_cons.mpr ⟨fun hc => ?_, ih⟩
      have hnone : isSensitive (cs.takeWhile isPathChar) = false :=
        Bool.not_eq_true _ ▸ fun hsensitive => h ⟨hc, hsensitive⟩
      rw [takeWhile_redactPaths hnone, hnone]

/-- A text without sensitive paths stays as it is. -/
theorem redactPaths_eq_self (h : HidesPaths cs) : redactPaths cs = cs := by
  induction cs with
  | nil => exact redactPaths_nil
  | cons c cs ih =>
      obtain ⟨hhere, hlater⟩ := hidesPaths_cons.mp h
      rw [redactPaths_of_not (fun hc => by simp [hhere hc.1] at hc), ih hlater]

/-! ## Paths and secrets -/

theorem endsValue_redactPaths (h : EndsValue cs) : EndsValue (redactPaths cs) := by
  cases cs with
  | nil => simpa using h
  | cons c cs =>
      have hblank : Text.isBlank c = true := h c rfl
      have hne : c ≠ '/' := by rintro rfl; exact absurd hblank (by decide)
      rw [redactPaths_of_ne hne]
      intro d hd
      obtain rfl := Option.some.inj hd
      exact hblank

theorem trimStart_redactPaths (h : Text.trimStart cs = []) :
    Text.trimStart (redactPaths cs) = [] := by
  have hblanks : AreBlanks cs := List.dropWhile_eq_nil_iff.mp h
  suffices hsame : redactPaths cs = cs by rwa [hsame]
  refine redactPaths_eq_self (hidesPaths_iff.mpr fun rest hrest => ?_)
  exact absurd (hblanks '/' (hrest.subset List.mem_cons_self)) (by decide)

/-- A text without separators of paths that stands in front of a separator of values was
there before. -/
theorem exists_of_redactPaths_eq (hfront : '/' ∉ front) (hsep : IsSeparator sep)
    (h : redactPaths cs = front ++ sep :: rest) :
    ∃ rest', cs = front ++ sep :: rest' ∧ rest = redactPaths rest' := by
  have hslash : sep ≠ '/' := by rintro rfl; revert hsep; decide
  induction front generalizing cs with
  | nil =>
      cases cs with
      | nil => simp at h
      | cons c cs =>
          by_cases hc : c = '/' ∧ isSensitive (cs.takeWhile isPathChar) = true
          · obtain ⟨rfl, hsensitive⟩ := hc
            rw [redactPaths_of_sensitive hsensitive] at h
            exact absurd (List.cons.inj h).1.symm hslash
          · rw [redactPaths_of_not hc] at h
            obtain ⟨rfl, rfl⟩ := List.cons.inj h
            exact ⟨cs, rfl, rfl⟩
  | cons d front ih =>
      obtain ⟨hd, hmore⟩ := List.ne_and_not_mem_of_not_mem_cons hfront
      cases cs with
      | nil => simp at h
      | cons c cs =>
          by_cases hc : c = '/' ∧ isSensitive (cs.takeWhile isPathChar) = true
          · obtain ⟨rfl, hsensitive⟩ := hc
            rw [redactPaths_of_sensitive hsensitive] at h
            exact absurd (List.cons.inj h).1 hd
          · rw [redactPaths_of_not hc] at h
            obtain ⟨rfl, htail⟩ := List.cons.inj h
            obtain ⟨rest', rfl, hrest⟩ := ih hmore htail
            exact ⟨rest', rfl, hrest⟩

theorem IsKeyword.slash_notMem (h : IsKeyword word) : '/' ∉ word := by
  intro hmem
  have hplain : ∀ word ∈ keywords, '/' ∉ word := by decide
  exact hplain _ h (List.mem_map_of_mem (f := Text.foldCase) hmem)

/-- A keyword does not reach over a separator of paths. -/
theorem hidesFirst_append (hslash : '/' ∈ front) (hplain : ∀ c ∈ front, ¬IsSeparator c) :
    HidesFirst (front ++ cs) := by
  intro word sep rest hword hsep htext _
  rcases List.append_eq_append_iff.mp htext with ⟨more, rfl, -⟩ | ⟨more, rfl, hrest⟩
  · exact absurd (List.mem_append_left more hslash) hword.slash_notMem
  · cases more with
    | nil => exact absurd hslash (by simpa using hword.slash_notMem)
    | cons d more =>
        obtain ⟨rfl, -⟩ := List.cons.inj hrest
        exact absurd hsep (hplain sep (by simp))

/-- Redacting paths brings no assignment about. -/
theorem HidesFirst.redactPaths (h : HidesFirst cs) : HidesFirst (redactPaths cs) := by
  intro word sep rest hword hsep htext hvalue
  obtain ⟨rest', hcs, rfl⟩ := exists_of_redactPaths_eq hword.slash_notMem hsep htext
  obtain ⟨hequals, after, rfl, hafter⟩ :=
    h word sep rest' hword hsep hcs (mt trimStart_redactPaths hvalue)
  have hstars : Redaction.redactPaths ("***".toList ++ after) =
      "***".toList ++ Redaction.redactPaths after := by
    change Redaction.redactPaths ('*' :: '*' :: '*' :: after) = _
    rw [redactPaths_of_ne (by decide), redactPaths_of_ne (by decide), redactPaths_of_ne (by decide)]
    rfl
  exact ⟨hequals, _, hstars, endsValue_redactPaths hafter⟩

theorem HidesSecrets.redactPaths (h : HidesSecrets cs) : HidesSecrets (redactPaths cs) := by
  induction cs using Redaction.redactPaths.induct with
  | case1 => rw [redactPaths_nil]; exact hidesSecrets_nil
  | case2 c cs hc ih =>
      obtain ⟨rfl, hsensitive⟩ := hc
      rw [redactPaths_of_sensitive hsensitive]
      have hrest : cs.dropWhile isPathChar <:+ '/' :: cs :=
        (List.dropWhile_suffix _).trans (List.suffix_cons '/' cs)
      refine hidesSecrets_append (ih (h.of_suffix hrest)) ?_
      -- The mark ends in a separator of paths, and no keyword reaches over that.
      rintro later hne ⟨before, hlater⟩
      have hslash : '/' ∈ later := by
        have hlast : (before ++ later).getLast? = some '/' := by rw [hlater]; rfl
        rw [List.getLast?_append_of_ne_nil before hne] at hlast
        exact List.mem_of_getLast? hlast
      have hmark : ∀ c ∈ "/***REDACTED***/".toList, ¬IsSeparator c := by
        simp [IsSeparator]
      exact hidesFirst_append hslash fun c hc => hmark c (hlater ▸ List.mem_append_right before hc)
  | case3 c cs hc ih =>
      obtain ⟨hhere, hlater⟩ := hidesSecrets_cons.mp h
      have hfirst := hhere.redactPaths
      rw [redactPaths_of_not hc] at hfirst ⊢
      exact hidesSecrets_cons.mpr ⟨hfirst, ih hlater⟩

/-! ## Redacted texts -/

theorem hidesSecrets_redact (cs : List Char) : HidesSecrets (redact cs) :=
  (hidesSecrets_redactSecrets cs).redactPaths

theorem hidesPaths_redact (cs : List Char) : HidesPaths (redact cs) :=
  hidesPaths_redactPaths (redactSecrets cs)

theorem redact_eq_self (hsecrets : HidesSecrets cs) (hpaths : HidesPaths cs) : redact cs = cs := by
  rw [redact, redactSecrets_eq_self hsecrets, redactPaths_eq_self hpaths]

theorem redact_redact (cs : List Char) : redact (redact cs) = redact cs :=
  redact_eq_self (hidesSecrets_redact cs) (hidesPaths_redact cs)

/-- Redaction leaves a text in which every assignment is one of stars and no path is
sensitive, and it changes all texts but those.  Redacting a message again changes
nothing, and neither does sanitizing it again when nothing has to be cut off. -/
theorem redact_leaves (message : String) :
    HidesSecrets (redact message.toList) ∧ HidesPaths (redact message.toList) ∧
      redact (redact message.toList) = redact message.toList ∧
      (redact message.toList = message.toList ↔
        HidesSecrets message.toList ∧ HidesPaths message.toList) ∧
      (Text.utf8Length (redact message.toList) ≤ maxBytes →
        sanitize (sanitize message) = sanitize message) := by
  have hsecrets := hidesSecrets_redact message.toList
  have hpaths := hidesPaths_redact message.toList
  refine ⟨hsecrets, hpaths, redact_redact message.toList, ?_, ?_⟩
  · constructor
    · intro hsame
      rw [hsame] at hsecrets hpaths
      exact ⟨hsecrets, hpaths⟩
    · exact fun ⟨hsecrets, hpaths⟩ => redact_eq_self hsecrets hpaths
  · intro hlength
    rw [sanitize, sanitize, String.toList_ofList, sanitizeChars, sanitizeChars, cap_eq_self hlength,
      redact_redact, cap_eq_self hlength]

/-- A secret, a path that ends in a keyword with a value, and a key without one. -/
def login : String := "login: Secret:\thunter2 in /home/u/.ssh/id_key: rsa, KEY="

/-- The assignment that is left of them. -/
def starred : Assignment where
  before := "login: ".toList
  keyword := "Secret".toList
  separator := '='
  blanks := []
  after := " in /***REDACTED***/=*** KEY=".toList
  isKeyword := by decide
  isSeparator := isSeparator_equals
  areBlanks := by decide
  endsValue := by decide

theorem redact_login_leaves :
    IsValue "***".toList ∧ redact login.toList = starred.text "***".toList ∧
      starred.separator = '=' ∧ starred.blanks = [] ∧
      IsSensitivePath "/home/u/.ssh/id_key".toList ∧
      redact login.toList ≠ "login: ".toList ++ ("/home/u/.ssh/id_key".toList ++ [' ']) ∧
      Text.utf8Length (redact login.toList) ≤ maxBytes ∧
      sanitize (sanitize login) = sanitize login := by
  have hvalue : IsValue "***".toList := by decide
  have htext : redact login.toList = starred.text "***".toList := by decide +kernel
  have hpath : IsSensitivePath "/home/u/.ssh/id_key".toList :=
    ⟨"home/u".toList, "/.ssh/".toList, "id_key".toList, by decide, by decide, by decide, by decide,
      by decide, by decide⟩
  have hlength : Text.utf8Length (redact login.toList) ≤ maxBytes := by decide +kernel
  obtain ⟨hsecrets, hpaths, -, -, hagain⟩ := redact_leaves login
  obtain ⟨hequals, hblanks, -⟩ := hsecrets starred _ hvalue htext
  exact ⟨hvalue, htext, hequals, hblanks, hpath, hpaths _ _ _ hpath, hlength, hagain hlength⟩

end ScaffoldRunner.Redaction
