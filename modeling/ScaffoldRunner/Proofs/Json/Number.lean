import Mathlib.Tactic.IntervalCases
import ScaffoldRunner.Json.Number
import ScaffoldRunner.Json.Printer
import ScaffoldRunner.Proofs.Text.Search

/-!
# Numbers that are written and read

Every number is written as an optional sign, digits, an optional fraction and an
optional exponent.  What is read from such a text does not depend on what stands
behind it, as long as that is nothing that a number could go on with.
-/

namespace ScaffoldRunner.Json

/-- A list of digits that is not empty. -/
structure AreDigits (ds : List Char) : Prop where
  ne_nil : ds ≠ []
  digit : ∀ c ∈ ds, isDigit c = true

/-- A text that does not go on with a number. -/
structure EndsNumber (rest : List Char) : Prop where
  digit : ∀ c ∈ rest.head?, isDigit c = false
  point : ∀ c ∈ rest.head?, c ≠ '.'
  exponent : ∀ c ∈ rest.head?, c ≠ 'e' ∧ c ≠ 'E'

theorem endsNumber_nil : EndsNumber [] := ⟨nofun, nofun, nofun⟩

theorem endsNumber_cons {c : Char} (h : isDigit c = false ∧ c ≠ '.' ∧ c ≠ 'e' ∧ c ≠ 'E')
    (rest : List Char) : EndsNumber (c :: rest) := by
  obtain ⟨hdigit, hpoint, hexponent⟩ := h
  constructor <;> simpa

theorem areDigits_toDigits (n : Nat) : AreDigits (Nat.toDigits 10 n) where
  ne_nil := Nat.toDigits_ne_nil
  digit c hc := by
    have h := Nat.isDigit_of_mem_toDigits (by decide) (by decide) hc
    simp only [Char.isDigit, Bool.and_eq_true, decide_eq_true_eq] at h
    simp only [isDigit, Bool.and_eq_true, decide_eq_true_eq]
    exact h

namespace AreDigits

variable {ds rest : List Char}

theorem takeWhile_append (h : AreDigits ds) (hrest : ∀ c ∈ rest.head?, isDigit c = false) :
    (ds ++ rest).takeWhile isDigit = ds :=
  Text.takeWhile_append_of_head? h.digit hrest

theorem dropWhile_append (h : AreDigits ds) (hrest : ∀ c ∈ rest.head?, isDigit c = false) :
    (ds ++ rest).dropWhile isDigit = rest :=
  Text.dropWhile_append_of_head? h.digit hrest

end AreDigits

/-! ## Parts of a number -/

/-- The text of a sign. -/
def signChars (negative : Bool) : List Char := if negative then ['-'] else []

/-- The text of a fraction. -/
def fractionChars : Option (List Char) → List Char
  | none => []
  | some ds => '.' :: ds

/-- The text of an exponent with its sign. -/
def exponentChars : Option (Bool × List Char) → List Char
  | none => []
  | some (negative, ds) => 'e' :: (if negative then '-' else '+') :: ds

def exponentValue (e : Bool × List Char) : Int :=
  if e.1 then -Int.ofNat (digitsValue e.2) else Int.ofNat (digitsValue e.2)

theorem exponentPart_exponentChars {exponent : Option (Bool × List Char)}
    (h : ∀ e ∈ exponent, AreDigits e.2) {rest : List Char} (hrest : EndsNumber rest) :
    exponentPart (exponentChars exponent ++ rest) = some (exponent.map exponentValue, rest) := by
  cases exponent with
  | none =>
      cases rest with
      | nil => rfl
      | cons c rest =>
          have hc := hrest.exponent c rfl
          simp [exponentChars, exponentPart, hc.1, hc.2]
  | some e =>
      obtain ⟨negative, ds⟩ := e
      have hds := h _ rfl
      have htake := hds.takeWhile_append hrest.digit
      have hdrop := hds.dropWhile_append hrest.digit
      have hne : ds ≠ [] := hds.ne_nil
      cases negative <;>
        simp [exponentChars, exponentPart, exponentValue, htake, hdrop, hne]

theorem fractionPart_fractionChars {fraction : Option (List Char)}
    (h : ∀ ds ∈ fraction, AreDigits ds) {rest : List Char}
    (hdigit : ∀ c ∈ rest.head?, isDigit c = false) (hpoint : ∀ c ∈ rest.head?, c ≠ '.') :
    fractionPart (fractionChars fraction ++ rest) = some (fraction, rest) := by
  cases fraction with
  | none =>
      cases rest with
      | nil => rfl
      | cons c rest =>
          have hc := hpoint c rfl
          simp only [fractionChars, List.nil_append]
          unfold fractionPart
          split
          · next heq => exact absurd (List.cons.inj heq).1 hc
          · rfl
  | some ds =>
      have hds := h ds rfl
      have hne : ds ≠ [] := hds.ne_nil
      simp [fractionChars, fractionPart, hds.takeWhile_append hdigit,
        hds.dropWhile_append hdigit, hne]

/-! ## Texts of numbers -/

/-- The text of a number with given parts. -/
def numberChars (negative : Bool) (whole : List Char) (fraction : Option (List Char))
    (exponent : Option (Bool × List Char)) : List Char :=
  signChars negative ++ (whole ++ (fractionChars fraction ++ exponentChars exponent))

/-- A text in the form of a number. -/
inductive IsNumber : List Char → Prop
  | mk (negative : Bool) {whole : List Char} {fraction : Option (List Char)}
      {exponent : Option (Bool × List Char)} :
      AreDigits whole → (∀ ds ∈ fraction, AreDigits ds) → (∀ e ∈ exponent, AreDigits e.2) →
      IsNumber (numberChars negative whole fraction exponent)

theorem head?_exponentChars_append (exponent : Option (Bool × List Char)) {rest : List Char}
    (hrest : EndsNumber rest) :
    ∀ c ∈ (exponentChars exponent ++ rest).head?, isDigit c = false ∧ c ≠ '.' := by
  cases exponent with
  | none => exact fun c hc => ⟨hrest.digit c hc, hrest.point c hc⟩
  | some e =>
      intro c hc
      obtain rfl : 'e' = c := Option.some.inj hc
      decide

theorem head?_fractionChars_append (fraction : Option (List Char)) {rest : List Char}
    (hrest : ∀ c ∈ rest.head?, isDigit c = false) :
    ∀ c ∈ (fractionChars fraction ++ rest).head?, isDigit c = false := by
  cases fraction with
  | none => exact hrest
  | some ds =>
      intro c hc
      obtain rfl : '.' = c := Option.some.inj hc
      decide

/-- Whether the integer part of a number has a zero in front. -/
def hasLeadingZero : List Char → Bool
  | d :: ds => d = '0' && !ds.isEmpty
  | [] => false

/-- Split off a number behind its sign. -/
def unsignedText? (negative : Bool) (cs : List Char) : Option (NumberText × List Char) := do
  let whole := cs.takeWhile isDigit
  match whole with
  | [] => none
  | d :: ds => if d = '0' ∧ ds ≠ [] then none else pure ()
  let (fraction, cs) ← fractionPart (cs.dropWhile isDigit)
  let (exponent, cs) ← exponentPart cs
  return (⟨negative, whole, fraction, exponent⟩, cs)

theorem numberText?_signChars (negative : Bool) {cs : List Char} (h : cs.head? ≠ some '-') :
    numberText? (signChars negative ++ cs) = unsignedText? negative cs := by
  cases negative with
  | true => rfl
  | false =>
      rw [signChars, if_neg Bool.false_ne_true, List.nil_append]
      unfold numberText?
      split
      next negative rest hsign =>
        split at hsign
        · exact absurd rfl h
        · obtain ⟨rfl, rfl⟩ := Prod.mk.inj hsign
          rfl

/-- A number is split into its parts, unless it has a zero in front. -/
theorem numberText?_numberChars (negative : Bool) {whole : List Char}
    {fraction : Option (List Char)} {exponent : Option (Bool × List Char)}
    (hwhole : AreDigits whole) (hfraction : ∀ ds ∈ fraction, AreDigits ds)
    (hexponent : ∀ e ∈ exponent, AreDigits e.2) {rest : List Char} (hrest : EndsNumber rest) :
    numberText? (numberChars negative whole fraction exponent ++ rest) =
      if hasLeadingZero whole then none
      else some (⟨negative, whole, fraction, exponent.map exponentValue⟩, rest) := by
  have hend := head?_exponentChars_append exponent hrest
  have hbehind := head?_fractionChars_append fraction fun c hc => (hend c hc).1
  have htake := hwhole.takeWhile_append hbehind
  have hdrop := hwhole.dropWhile_append hbehind
  have hfractionPart := fractionPart_fractionChars hfraction (fun c hc => (hend c hc).1)
    fun c hc => (hend c hc).2
  have hhead : (whole ++ (fractionChars fraction ++
      (exponentChars exponent ++ rest))).head? ≠ some '-' := by
    obtain ⟨d, ds, rfl⟩ := List.exists_cons_of_ne_nil hwhole.ne_nil
    intro hd
    obtain rfl : d = '-' := Option.some.inj hd
    exact absurd (hwhole.digit _ List.mem_cons_self) (by decide)
  simp only [numberChars, List.append_assoc]
  rw [numberText?_signChars negative hhead, unsignedText?, htake, hdrop, hfractionPart]
  obtain ⟨d, ds, rfl⟩ := List.exists_cons_of_ne_nil hwhole.ne_nil
  by_cases hzero : d = '0' ∧ ds ≠ []
  · simp [hasLeadingZero, hzero]
  · have hkeeps : hasLeadingZero (d :: ds) = false := by
      simpa [hasLeadingZero] using hzero
    simp [hkeeps, hzero, exponentPart_exponentChars hexponent hrest]

theorem numberText?_append {cs rest : List Char} (h : IsNumber cs) (hrest : EndsNumber rest) :
    numberText? (cs ++ rest) = (numberText? cs).map fun p => (p.1, rest) := by
  obtain ⟨negative, hwhole, hfraction, hexponent⟩ := h
  have halone := numberText?_numberChars negative hwhole hfraction hexponent endsNumber_nil
  rw [List.append_nil] at halone
  rw [numberText?_numberChars negative hwhole hfraction hexponent hrest, halone]
  split <;> rfl

theorem head?_of_isNumber {cs : List Char} (h : IsNumber cs) :
    ∃ c rest, cs = c :: rest ∧ (c = '-' ∨ isDigit c = true) := by
  obtain ⟨negative, hwhole, _, _⟩ := h
  obtain ⟨d, ds, rfl⟩ := List.exists_cons_of_ne_nil hwhole.ne_nil
  cases negative with
  | true => exact ⟨_, _, rfl, .inl rfl⟩
  | false => exact ⟨_, _, rfl, .inr (hwhole.digit d List.mem_cons_self)⟩

/-! ## Numbers that are written -/

theorem isNumber_signChars (negative : Bool) {cs : List Char} {fraction : Option (List Char)}
    {exponent : Option (Bool × List Char)} {whole : List Char} (hwhole : AreDigits whole)
    (hfraction : ∀ ds ∈ fraction, AreDigits ds) (hexponent : ∀ e ∈ exponent, AreDigits e.2)
    (h : cs = whole ++ (fractionChars fraction ++ exponentChars exponent)) :
    IsNumber (signChars negative ++ cs) :=
  h ▸ .mk negative hwhole hfraction hexponent

theorem intChars_eq (i : Int) :
    intChars i = numberChars (i < 0) (Nat.toDigits 10 i.natAbs) none none := by
  rw [intChars]
  split
  · next h => simp [numberChars, signChars, fractionChars, exponentChars, h]
  · next h => simp [numberChars, signChars, fractionChars, exponentChars, h]

theorem isNumber_intChars (i : Int) : IsNumber (intChars i) :=
  intChars_eq i ▸ .mk _ (areDigits_toDigits _) nofun nofun

theorem AreDigits.append {ds more : List Char} (h : AreDigits ds)
    (hmore : ∀ c ∈ more, isDigit c = true) : AreDigits (ds ++ more) where
  ne_nil := by simp [h.ne_nil]
  digit := List.forall_mem_append.mpr ⟨h.digit, hmore⟩

theorem AreDigits.sublist {ds part : List Char} (h : AreDigits ds) (hne : part ≠ [])
    (hpart : part ⊆ ds) : AreDigits part where
  ne_nil := hne
  digit c hc := h.digit c (hpart hc)

theorem isDigit_of_mem_replicate {n : Nat} {c : Char} (h : c ∈ List.replicate n '0') :
    isDigit c = true := by
  rw [List.eq_of_mem_replicate h]
  decide

/-- Positional notation has digits on both sides of the point. -/
theorem positional_eq (d : Decimal) :
    ∃ whole fraction, AreDigits whole ∧ AreDigits fraction ∧
      d.positional = whole ++ '.' :: fraction := by
  have hdigits : AreDigits (Decimal.digitChars d.digits) := areDigits_toDigits d.digits
  have hzero : AreDigits ['0'] := areDigits_toDigits 0
  -- The point comes behind all digits, between two of them or before them.
  rw [Decimal.positional]
  split
  · exact ⟨_, ['0'], hdigits.append fun c => isDigit_of_mem_replicate, hzero, rfl⟩
  · dsimp only
    split
    · next hplaces =>
        refine ⟨_, _, hdigits.sublist ?_ (List.take_subset _ _),
          hdigits.sublist ?_ (List.drop_subset _ _), rfl⟩
        · rw [Ne, List.take_eq_nil_iff]
          simp [hdigits.ne_nil]
          omega
        · rw [Ne, List.drop_eq_nil_iff]
          omega
    · refine ⟨['0'], _, hzero, ⟨?_, ?_⟩, rfl⟩
      · simp [hdigits.ne_nil]
      · exact List.forall_mem_append.mpr ⟨fun c => isDigit_of_mem_replicate, hdigits.digit⟩

/-- A mantissa has digits, and more of them behind a point if there are several. -/
theorem mantissa_eq (ds : List Char) : AreDigits ds →
    ∃ whole fraction, AreDigits whole ∧ (∀ ds ∈ fraction, AreDigits ds) ∧
      (match ds with
        | c :: c' :: cs => c :: '.' :: c' :: cs
        | ds => ds) = whole ++ fractionChars fraction := by
  intro h
  match ds with
  | [] => exact absurd rfl h.ne_nil
  | [c] => exact ⟨[c], none, h, nofun, rfl⟩
  | c :: c' :: cs =>
      refine ⟨[c], some (c' :: cs), h.sublist (by simp) (by simp), ?_, rfl⟩
      simpa using h.sublist (by simp) (by simp)

theorem scientific_eq (d : Decimal) :
    ∃ whole fraction exponent, AreDigits whole ∧ (∀ ds ∈ fraction, AreDigits ds) ∧
      AreDigits exponent.2 ∧
      d.scientific = whole ++ (fractionChars fraction ++ exponentChars (some exponent)) := by
  obtain ⟨whole, fraction, hwhole, hfraction, hmantissa⟩ :=
    mantissa_eq _ (areDigits_toDigits d.digits)
  let e := d.exponent + Int.ofNat (Decimal.digitChars d.digits).length - 1
  refine ⟨whole, fraction, (e < 0, Nat.toDigits 10 e.natAbs), hwhole, hfraction,
    areDigits_toDigits _, ?_⟩
  have hsign : (if 0 ≤ e then ['+'] else ['-']) = [if decide (e < 0) then '-' else '+'] := by
    by_cases he : 0 ≤ e
    · simp [he, Int.not_lt.mpr he]
    · simp [he, Int.not_le.mp he]
  change _ ++ 'e' :: (if 0 ≤ e then ['+'] else ['-']) ++ Nat.toDigits 10 e.natAbs = _
  rw [hsign]
  change (match Nat.toDigits 10 d.digits with
    | c :: c' :: cs => c :: '.' :: c' :: cs
    | ds => ds) ++ _ ++ _ = _
  rw [hmantissa]
  simp [exponentChars]

theorem isNumber_render (x : Float) : IsNumber (Decimal.render x) := by
  have hsigned {body : List Char} (h : IsNumber (signChars (Decimal.isNegative x) ++ body)) :
      IsNumber (if Decimal.isNegative x then '-' :: body else body) := by
    rw [signChars] at h
    split at h <;> simpa [*] using h
  rw [Decimal.render]
  apply hsigned
  split
  · obtain ⟨whole, fraction, hwhole, hfraction, htext⟩ := positional_eq (Decimal.shortest x)
    have hsome : ∀ ds ∈ some fraction, AreDigits ds := by simpa using hfraction
    have hnone : ∀ e ∈ (none : Option (Bool × List Char)), AreDigits e.2 := nofun
    rw [htext]
    exact isNumber_signChars _ hwhole hsome hnone (by simp [fractionChars, exponentChars])
  · obtain ⟨whole, fraction, exponent, hwhole, hfraction, hexponent, htext⟩ :=
      scientific_eq (Decimal.shortest x)
    have hsome : ∀ e ∈ some exponent, AreDigits e.2 := by simpa using hexponent
    exact isNumber_signChars _ hwhole hfraction hsome htext

/-! ## Numbers that are read back -/

/-- The number that is read from a text. -/
def number? (cs : List Char) : Option Json := (numberText? cs).bind fun p => p.1.value?

theorem le_ofDigitChars (n : Nat) (ds : List Char) : n ≤ Nat.ofDigitChars 10 ds n := by
  induction ds generalizing n with
  | nil => exact Nat.le_refl n
  | cons d ds ih =>
      rw [Nat.ofDigitChars_cons]
      exact Nat.le_trans (by omega) (ih _)

/-- A significand takes all digits of a number of 64 bits. -/
theorem extendSignificand_eq {n : Nat} {ds : List Char}
    (h : Nat.ofDigitChars 10 ds n < twoTo 64) :
    extendSignificand n ds = (Nat.ofDigitChars 10 ds n, []) := by
  induction ds generalizing n with
  | nil => rfl
  | cons d ds ih =>
      have hstep : n * 10 + digitValue d = 10 * n + (d.toNat - '0'.toNat) := by
        rw [digitValue, Nat.mul_comm]
      rw [Nat.ofDigitChars_cons] at h ⊢
      have hfits : 10 * n + (d.toNat - '0'.toNat) < twoTo 64 :=
        Nat.lt_of_le_of_lt (le_ofDigitChars _ ds) h
      rw [extendSignificand, hstep]
      simp only [if_pos hfits]
      exact ih h

theorem head?_toDigits_ne {n : Nat} (hn : 0 < n) : (Nat.toDigits 10 n).head? ≠ some '0' := by
  induction n using Nat.strongRecOn with
  | ind n ih =>
      by_cases hsmall : n < 10
      · rw [Nat.toDigits_of_lt_base hsmall]
        interval_cases n <;> decide
      · rw [Nat.toDigits_of_base_le (by decide) (by omega), List.head?_append]
        have hfront := ih (n / 10) (by omega) (by omega)
        cases hdigits : Nat.toDigits 10 (n / 10) with
        | nil => exact absurd hdigits Nat.toDigits_ne_nil
        | cons d ds =>
            rw [hdigits] at hfront
            simpa using hfront

theorem hasLeadingZero_toDigits (n : Nat) : hasLeadingZero (Nat.toDigits 10 n) = false := by
  rcases Nat.eq_zero_or_pos n with rfl | hn
  · rfl
  · have hhead := head?_toDigits_ne hn
    cases hdigits : Nat.toDigits 10 n with
    | nil => rfl
    | cons d ds =>
        rw [hdigits] at hhead
        have hd : d ≠ '0' := by simpa using hhead
        simp [hasLeadingZero, hd]

/-- An integer that fits 64 bits, with or without a sign, is read back. -/
theorem number?_intChars {i : Int} (hlow : -Int.ofNat (twoTo 63) ≤ i)
    (hhigh : i < Int.ofNat (twoTo 64)) : number? (intChars i) = some (.int i) := by
  have hpowers : Int.ofNat (twoTo 64) = 2 * Int.ofNat (twoTo 63) := rfl
  have hbound : i.natAbs < twoTo 64 := by
    simp only [Int.ofNat_eq_natCast] at hlow hhigh hpowers
    omega
  have htext : numberText? (intChars i) =
      some (⟨i < 0, Nat.toDigits 10 i.natAbs, none, none⟩, []) := by
    have hparts := numberText?_numberChars (i < 0) (areDigits_toDigits i.natAbs)
      (nofun : ∀ ds ∈ none, AreDigits ds) (nofun : ∀ e ∈ none, AreDigits (Prod.snd e))
      endsNumber_nil
    rwa [List.append_nil, ← intChars_eq, hasLeadingZero_toDigits] at hparts
  have hdigits : extendSignificand 0 (Nat.toDigits 10 i.natAbs) = (i.natAbs, []) := by
    rw [extendSignificand_eq (by rwa [Nat.ofDigitChars_ten_toDigits]),
      Nat.ofDigitChars_ten_toDigits]
  rw [number?, htext]
  simp only [Option.bind_some, NumberText.value?, hdigits]
  by_cases hneg : i < 0
  · have hsize : 1 ≤ i.natAbs ∧ i.natAbs ≤ twoTo 63 := by
      rw [Int.ofNat_eq_natCast] at hlow
      omega
    simp [hneg, hsize, abs_of_neg hneg]
  · simp [hneg, Int.natAbs_of_nonneg (Int.not_lt.mp hneg)]

end ScaffoldRunner.Json
