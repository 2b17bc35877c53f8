import Mathlib.Data.List.DropRight
import ScaffoldRunner.Stage

/-!
# The texts that name a stage

A stage is named by its number or by its key.  A numeral may have a plus sign and
zeros in front, a key is written in any letter case, and blanks around either of
them do not count.  Reading a stage accepts exactly these texts: a numeral is never
a key, so it makes no difference that numerals are looked for first.
-/

namespace ScaffoldRunner

/-! ## Blanks around a text -/

namespace Text

/-- A text without the blanks at the ends of another one. -/
structure IsTrimmed (t cs : List Char) : Prop where
  surrounded : ∃ front back, cs = front ++ t ++ back ∧ (∀ c ∈ front, isBlank c = true) ∧
    ∀ c ∈ back, isBlank c = true
  head : ∀ c, t.head? = some c → isBlank c = false
  last : ∀ c, t.getLast? = some c → isBlank c = false

theorem trimEnd_eq_rdropWhile (cs : List Char) : trimEnd cs = cs.rdropWhile isBlank :=
  rfl

theorem trimStart_append {front : List Char} (hfront : ∀ c ∈ front, isBlank c = true)
    (cs : List Char) : trimStart (front ++ cs) = trimStart cs :=
  List.dropWhile_append_of_pos hfront

theorem trimEnd_append {back : List Char} (hback : ∀ c ∈ back, isBlank c = true)
    (cs : List Char) : trimEnd (cs ++ back) = trimEnd cs := by
  have hreverse : ∀ c ∈ back.reverse, isBlank c = true := by
    intro c hc
    exact hback c (List.mem_reverse.mp hc)
  rw [trimEnd, trimEnd, List.reverse_append, List.dropWhile_append_of_pos hreverse]

theorem isTrimmed_trimChars (cs : List Char) : IsTrimmed (trimChars cs) cs where
  surrounded := by
    refine ⟨cs.takeWhile isBlank, (trimStart cs).rtakeWhile isBlank, ?_, ?_, ?_⟩
    · calc cs
        _ = cs.takeWhile isBlank ++ trimStart cs := List.takeWhile_append_dropWhile.symm
        _ = cs.takeWhile isBlank ++
            (trimChars cs ++ (trimStart cs).rtakeWhile isBlank) := by
          rw [trimChars, trimEnd_eq_rdropWhile, List.rdropWhile_append_rtakeWhile]
        _ = _ := (List.append_assoc ..).symm
    · exact fun c hc => List.mem_takeWhile_imp hc
    · exact fun c hc => List.mem_rtakeWhile_imp hc
  head _ := head?_trimChars
  last _ := getLast?_trimEnd

/-- Every text is trimmed in one way. -/
theorem isTrimmed_iff {t cs : List Char} : IsTrimmed t cs ↔ t = trimChars cs := by
  constructor
  · intro h
    obtain ⟨front, back, rfl, hfront, hback⟩ := h.surrounded
    rw [trimChars, List.append_assoc, trimStart_append hfront]
    by_cases ht : t = []
    · have hblank : trimStart back = [] := List.dropWhile_eq_nil_iff.mpr hback
      rw [ht, List.nil_append, hblank]
      rfl
    · have hstart : trimStart (t ++ back) = t ++ back := by
        apply trimStart_eq_self
        intro c hc
        rw [List.head?_append_of_ne_nil _ ht] at hc
        exact h.head c hc
      rw [hstart, trimEnd_append hback, trimEnd_eq_self h.last]
  · rintro rfl
    exact isTrimmed_trimChars cs

end Text

namespace Stage

/-! ## Numerals -/

/-- A numeral is made of ASCII digits, at least one, perhaps behind a plus sign. -/
def IsNumeral (cs : List Char) (n : Nat) : Prop :=
  ∃ digits, (cs = digits ∨ cs = '+' :: digits) ∧ digits ≠ [] ∧
    (∀ d ∈ digits, d.isDigit = true) ∧ Nat.ofDigitChars 10 digits 0 = n

theorem foldl_digits_eq (digits : List Char) (n : Nat) :
    digits.foldl (fun n d => n * 10 + (d.toNat - '0'.toNat)) n =
      Nat.ofDigitChars 10 digits n := by
  induction digits generalizing n with
  | nil => rfl
  | cons d digits ih =>
      rw [List.foldl_cons, ih, Nat.ofDigitChars_cons, Nat.mul_comm n 10]

theorem byteValue?_eq_some_iff {digits : List Char} {n : Nat} :
    byteValue? digits = some n ↔
      digits ≠ [] ∧ (∀ d ∈ digits, d.isDigit = true) ∧
        Nat.ofDigitChars 10 digits 0 = n ∧ n < 256 := by
  rw [byteValue?, foldl_digits_eq]
  by_cases hdigits : digits = [] ∨ ¬∀ d ∈ digits, d.isDigit = true
  · have hrefused : (digits.isEmpty || !digits.all Char.isDigit) = true := by
      simpa using hdigits
    rw [if_pos hrefused]
    constructor
    · intro h
      cases h
    · rintro ⟨hne, hall, -⟩
      exact absurd hdigits (not_or.mpr ⟨hne, not_not.mpr hall⟩)
  · have haccepted : ¬(digits.isEmpty || !digits.all Char.isDigit) = true := by
      simpa using hdigits
    rw [not_or, not_not] at hdigits
    rw [if_neg haccepted]
    by_cases hsmall : Nat.ofDigitChars 10 digits 0 < 256
    · simp only [if_pos hsmall, Option.some.injEq]
      constructor
      · rintro rfl
        exact ⟨hdigits.1, hdigits.2, rfl, hsmall⟩
      · exact fun h => h.2.2.1
    · simp only [if_neg hsmall]
      constructor
      · intro h
        cases h
      · rintro ⟨-, -, rfl, hlt⟩
        exact absurd hlt hsmall

/-- A plus sign is no digit, so it is the sign of what follows it. -/
theorem isNumeral_plus_iff {digits : List Char} {n : Nat} :
    IsNumeral ('+' :: digits) n ↔
      digits ≠ [] ∧ (∀ d ∈ digits, d.isDigit = true) ∧ Nat.ofDigitChars 10 digits 0 = n := by
  constructor
  · rintro ⟨others, rfl | hsigned, hne, hall, hvalue⟩
    · exact absurd (hall '+' List.mem_cons_self) (by decide)
    · obtain rfl := (List.cons.inj hsigned).2
      exact ⟨hne, hall, hvalue⟩
  · rintro ⟨hne, hall, hvalue⟩
    exact ⟨digits, .inr rfl, hne, hall, hvalue⟩

theorem isNumeral_iff_of_head {cs : List Char} {n : Nat} (hsign : cs.head? ≠ some '+') :
    IsNumeral cs n ↔
      cs ≠ [] ∧ (∀ d ∈ cs, d.isDigit = true) ∧ Nat.ofDigitChars 10 cs 0 = n := by
  constructor
  · rintro ⟨digits, rfl | rfl, hdigits⟩
    · exact hdigits
    · exact absurd rfl hsign
  · intro h
    exact ⟨cs, .inl rfl, h⟩

/-- The numbers that are read are those of numerals, as far as they fit a byte. -/
theorem numberOf?_eq_some_iff {cs : List Char} {n : Nat} :
    numberOf? cs = some n ↔ IsNumeral cs n ∧ n < 256 := by
  by_cases hsign : cs.head? = some '+'
  · obtain ⟨digits, rfl⟩ := List.head?_eq_some_iff.mp hsign
    change byteValue? digits = some n ↔ _
    rw [byteValue?_eq_some_iff, isNumeral_plus_iff]
    simp only [and_assoc]
  · have hunsigned : numberOf? cs = byteValue? cs := by
      unfold numberOf?
      split
      · exact absurd rfl hsign
      · rfl
    rw [hunsigned, byteValue?_eq_some_iff, isNumeral_iff_of_head hsign]
    simp only [and_assoc]

/-- A numeral has one value. -/
theorem IsNumeral.value_unique {cs : List Char} {m n : Nat} (hm : IsNumeral cs m)
    (hn : IsNumeral cs n) : m = n := by
  by_cases hsign : cs.head? = some '+'
  · obtain ⟨digits, rfl⟩ := List.head?_eq_some_iff.mp hsign
    obtain ⟨-, -, rfl⟩ := isNumeral_plus_iff.mp hm
    exact (isNumeral_plus_iff.mp hn).2.2
  · obtain ⟨-, -, rfl⟩ := (isNumeral_iff_of_head hsign).mp hm
    exact ((isNumeral_iff_of_head hsign).mp hn).2.2

/-- A numeral holds nothing but digits and the plus sign. -/
theorem IsNumeral.code_of_mem {cs : List Char} {n : Nat} (h : IsNumeral cs n) {c : Char}
    (hc : c ∈ cs) : c.toNat = 43 ∨ (48 ≤ c.toNat ∧ c.toNat ≤ 57) := by
  obtain ⟨digits, rfl | rfl, -, hdigits, -⟩ := h
  · exact .inr (Char.isDigit_iff_toNat.mp (hdigits c hc))
  · rcases List.mem_cons.mp hc with rfl | hc
    · exact .inl rfl
    · exact .inr (Char.isDigit_iff_toNat.mp (hdigits c hc))

theorem IsNumeral.exists_digit {cs : List Char} {n : Nat} (h : IsNumeral cs n) :
    ∃ d ∈ cs, d.isDigit = true := by
  obtain ⟨digits, hcs, hne, hdigits, -⟩ := h
  obtain ⟨d, hd⟩ := List.exists_mem_of_ne_nil digits hne
  refine ⟨d, ?_, hdigits d hd⟩
  rcases hcs with rfl | rfl
  · exact hd
  · exact List.mem_cons_of_mem '+' hd

/-! ## Stages by number and by key -/

theorem mem_all (stage : Stage) : stage ∈ all := by
  cases stage <;> decide

theorem number_injective {a b : Stage} (h : a.number = b.number) : a = b := by
  cases a <;> cases b <;> first | rfl | exact absurd h (by decide)

theorem number_pos (stage : Stage) : 1 ≤ stage.number := by
  cases stage <;> decide

theorem number_le (stage : Stage) : stage.number ≤ 10 := by
  cases stage <;> decide

theorem key_injective {a b : Stage} (h : a.key = b.key) : a = b := by
  cases a <;> cases b <;> first | rfl | exact absurd h (by decide)

/-- A stage is found by what tells it from the others. -/
theorem find?_all_eq_some_iff {α : Type} [BEq α] [LawfulBEq α] {f : Stage → α}
    (hf : ∀ {a b : Stage}, f a = f b → a = b) {value : α} {stage : Stage} :
    (all.find? fun s => f s == value) = some stage ↔ f stage = value := by
  constructor
  · intro h
    have hfound := List.find?_some h
    exact eq_of_beq hfound
  · rintro rfl
    cases hfound : all.find? fun s => f s == f stage with
    | none =>
        have hmissing := List.find?_eq_none.mp hfound stage (mem_all stage)
        exact absurd (beq_self_eq_true (f stage)) hmissing
    | some other =>
        have hsame := List.find?_some hfound
        rw [hf (eq_of_beq hsame)]

theorem ofNumber?_eq_some_iff {n : Nat} {stage : Stage} :
    ofNumber? n = some stage ↔ stage.number = n :=
  find?_all_eq_some_iff number_injective

theorem ofKey?_eq_some_iff {key : String} {stage : Stage} :
    ofKey? key = some stage ↔ stage.key = key :=
  find?_all_eq_some_iff key_injective

theorem ofKey?_key (stage : Stage) : ofKey? stage.key = some stage :=
  ofKey?_eq_some_iff.mpr rfl

/-- A key is made of small letters and underscores. -/
theorem code_of_mem_key (stage : Stage) :
    stage.key.toList ≠ [] ∧
      ∀ c ∈ stage.key.toList, c.toLower = c ∧ 95 ≤ c.toNat ∧ c.toNat ≤ 122 := by
  have hall : (stage.key.toList.all fun c => c.toLower = c ∧ 95 ≤ c.toNat ∧ c.toNat ≤ 122) := by
    cases stage <;> decide
  refine ⟨by cases stage <;> decide, fun c hc => ?_⟩
  simpa using List.all_eq_true.mp hall c hc

theorem map_toLower_key (stage : Stage) :
    stage.key.toList.map Char.toLower = stage.key.toList := by
  have hsame : ∀ c ∈ stage.key.toList, c.toLower = id c := by
    intro c hc
    exact ((code_of_mem_key stage).2 c hc).1
  rw [List.map_congr_left hsame, List.map_id]

/-- What is small when its case is changed lies among the letters. -/
theorem code_of_toLower {c : Char} (h : 95 ≤ c.toLower.toNat ∧ c.toLower.toNat ≤ 122) :
    65 ≤ c.toNat ∧ c.toNat ≤ 122 := by
  by_cases hupper : c.val ≥ 'A'.val ∧ c.val ≤ 'Z'.val
  · have hlow : 65 ≤ c.toNat := UInt32.le_iff_toNat_le.mp hupper.1
    have hhigh : c.toNat ≤ 90 := UInt32.le_iff_toNat_le.mp hupper.2
    omega
  · have hsame : c.toLower = c := dif_neg hupper
    rw [hsame] at h
    omega

/-! ## What names a stage -/

/-- A text names a stage by a numeral or by the key in any letter case. -/
def IsNamedBy (stage : Stage) (t : List Char) : Prop :=
  IsNumeral t stage.number ∨ t.map Char.toLower = stage.key.toList.map Char.toLower

variable {t : List Char} {stage : Stage} {n : Nat}

theorem code_of_isKey (h : t.map Char.toLower = stage.key.toList.map Char.toLower) {c : Char}
    (hc : c ∈ t) : 65 ≤ c.toNat ∧ c.toNat ≤ 122 := by
  rw [map_toLower_key] at h
  have hlower : c.toLower ∈ stage.key.toList := h ▸ List.mem_map_of_mem hc
  exact code_of_toLower ((code_of_mem_key stage).2 _ hlower).2

theorem IsNumeral.not_isKey (h : IsNumeral t n) :
    t.map Char.toLower ≠ stage.key.toList.map Char.toLower := by
  intro hkey
  obtain ⟨d, hd, hdigit⟩ := h.exists_digit
  have hletter := code_of_isKey hkey hd
  have hcode : 48 ≤ d.toNat ∧ d.toNat ≤ 57 := Char.isDigit_iff_toNat.mp hdigit
  omega

/-- The characters of the texts that name a stage: the plus sign, digits, and letters with
what stands between them. -/
theorem IsNamedBy.code_of_mem (h : stage.IsNamedBy t) {c : Char} (hc : c ∈ t) :
    c.toNat = 43 ∨ (48 ≤ c.toNat ∧ c.toNat ≤ 57) ∨ (65 ≤ c.toNat ∧ c.toNat ≤ 122) := by
  rcases h with hnumeral | hkey
  · exact (hnumeral.code_of_mem hc).imp_right .inl
  · exact .inr (.inr (code_of_isKey hkey hc))

/-- A text of signs alone, also an empty one, names nothing. -/
theorem not_isNamedBy_of_signs (h : ∀ c ∈ t, c = '+' ∨ c = '-') : ¬stage.IsNamedBy t := by
  rintro (hnumeral | hkey)
  · obtain ⟨d, hd, hdigit⟩ := hnumeral.exists_digit
    rcases h d hd with rfl | rfl
    · exact absurd hdigit (by decide)
    · exact absurd hdigit (by decide)
  · have hne : t ≠ [] := by
      rintro rfl
      rw [map_toLower_key] at hkey
      exact (code_of_mem_key stage).1 hkey.symm
    obtain ⟨c, hc⟩ := List.exists_mem_of_ne_nil t hne
    have hletter := code_of_isKey hkey hc
    rcases h c hc with rfl | rfl
    · exact absurd hletter (by decide)
    · exact absurd hletter (by decide)

/-- A numeral names the stage of its value and no other one. -/
theorem isNamedBy_iff_of_isNumeral (h : IsNumeral t n) : stage.IsNamedBy t ↔ stage.number = n := by
  constructor
  · rintro (hnumeral | hkey)
    · exact hnumeral.value_unique h
    · exact absurd hkey h.not_isKey
  · rintro rfl
    exact .inl h

theorem isNamedBy_iff_of_numberOf?_eq_none (h : numberOf? t = none) :
    stage.IsNamedBy t ↔ t.map Char.toLower = stage.key.toList := by
  have hlarge : ¬IsNumeral t stage.number := by
    intro hnumeral
    have hsmall : stage.number < 256 := Nat.lt_of_le_of_lt stage.number_le (by decide)
    have hread := numberOf?_eq_some_iff.mpr ⟨hnumeral, hsmall⟩
    rw [h] at hread
    cases hread
  rw [IsNamedBy, or_iff_right hlarge, map_toLower_key]

theorem parse?_eq_some_iff {text : String} :
    parse? text = some stage ↔ stage.IsNamedBy (Text.trimChars text.toList) := by
  rw [parse?]
  cases hnumber : numberOf? (Text.trimChars text.toList) with
  | some n =>
      obtain ⟨hnumeral, -⟩ := numberOf?_eq_some_iff.mp hnumber
      rw [isNamedBy_iff_of_isNumeral hnumeral]
      exact ofNumber?_eq_some_iff
  | none =>
      rw [isNamedBy_iff_of_numberOf?_eq_none hnumber]
      refine ofKey?_eq_some_iff.trans ?_
      rw [← String.toList_inj, String.toList_ofList, eq_comm]
      exact Iff.rfl

theorem parse?_eq_none_of_forall {text : String}
    (h : ∀ stage : Stage, ¬stage.IsNamedBy (Text.trimChars text.toList)) : parse? text = none := by
  cases hparse : parse? text with
  | none => rfl
  | some stage => exact absurd (parse?_eq_some_iff.mp hparse) (h stage)

/-- Reading a stage accepts the texts that name one, and with the blanks at its ends
taken away a text names one stage at most.  Numerals of other values are refused, as are
signs alone, blanks inside and characters beyond ASCII. -/
theorem parse?_accepts_names (text : String) :
    ∃ t, (∀ u, Text.IsTrimmed u text.toList ↔ u = t) ∧
      (∀ stage, parse? text = some stage ↔ stage.IsNamedBy t) ∧
      (∀ stage other : Stage, stage.IsNamedBy t → other.IsNamedBy t → stage = other) ∧
      (∀ n, IsNumeral t n → n = 0 ∨ 10 < n → parse? text = none) ∧
      ((∀ c ∈ t, c = '+' ∨ c = '-') → parse? text = none) ∧
      ∀ c ∈ t, Text.isBlank c = true ∨ 127 < c.toNat → parse? text = none := by
  refine ⟨Text.trimChars text.toList, fun u => Text.isTrimmed_iff,
    fun stage => parse?_eq_some_iff, ?_, ?_, ?_, ?_⟩
  · intro stage other hstage hother
    have hread := parse?_eq_some_iff.mpr hstage
    rw [parse?_eq_some_iff.mpr hother] at hread
    exact (Option.some.inj hread).symm
  · intro n hnumeral hrange
    refine parse?_eq_none_of_forall fun stage hnamed => ?_
    have hnumber := (isNamedBy_iff_of_isNumeral hnumeral).mp hnamed
    have hpos := stage.number_pos
    have hle := stage.number_le
    omega
  · intro hsigns
    exact parse?_eq_none_of_forall fun stage => not_isNamedBy_of_signs hsigns
  · intro c hc hforeign
    refine parse?_eq_none_of_forall fun stage hnamed => ?_
    have hcode := hnamed.code_of_mem hc
    rcases hforeign with hblank | hbeyond
    · simp only [Text.isBlank, Bool.or_eq_true, Bool.and_eq_true, decide_eq_true_eq,
        beq_iff_eq] at hblank
      omega
    · omega

example : parse? "\u2003+0010 " = some .pushRemote := by decide

end Stage

end ScaffoldRunner
