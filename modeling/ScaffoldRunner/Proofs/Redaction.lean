import Mathlib.Data.List.TakeWhile
import ScaffoldRunner.Proofs.Text.Search
import ScaffoldRunner.Proofs.Text.Utf8
import ScaffoldRunner.Redaction

/-!
# Redacted messages

A message in a report is cut to a length, and the values that it assigns to secrets are
redacted.  A secret is redacted when its assignment is found from its start.  The search
goes from left to right and a value reaches up to the next blank, so one thing can hide
an assignment: an earlier one whose value is still open where it begins.  The keyword and
the separator are then taken for that value, and what stands after the next blank is left
as it is.
-/

namespace ScaffoldRunner

namespace Redaction

/-! ## The length of a message -/

/-- The mark at the end of a message takes up a part of the bytes. -/
theorem utf8Length_cutMark : Text.utf8Length cutMark = cutMark.length := by
  decide

theorem cap_eq_self {cs : List Char} (h : Text.utf8Length cs ≤ maxBytes) : cap cs = cs :=
  if_pos h

theorem utf8Length_cap_le (cs : List Char) : Text.utf8Length (cap cs) ≤ maxBytes := by
  rw [cap]
  split
  · assumption
  · have hfront := Text.utf8Length_takeBytes_le (maxBytes - cutMark.length) cs
    have hmark : cutMark.length ≤ maxBytes := by decide
    rw [Text.utf8Length_append, utf8Length_cutMark]
    omega

/-- No message in a report is longer than the limit. -/
theorem utf8ByteSize_sanitize_le (message : String) :
    (sanitize message).utf8ByteSize ≤ maxBytes := by
  rw [sanitize, Text.utf8ByteSize_ofList]
  exact utf8Length_cap_le _

section Length

variable {message : String}

/-- A message without its secrets and its sensitive paths, at full length. -/
def redactedText (message : String) : String := String.ofList (redact message.toList)

/-- What stands in front of the mark when a message is cut. -/
def keptText (message : String) : String :=
  String.ofList (Text.takeBytes (maxBytes - cutMark.length) (redact message.toList))

theorem utf8ByteSize_redactedText (message : String) :
    (redactedText message).utf8ByteSize = Text.utf8Length (redact message.toList) :=
  Text.utf8ByteSize_ofList _

theorem sanitize_eq_redactedText (h : (redactedText message).utf8ByteSize ≤ maxBytes) :
    sanitize message = redactedText message := by
  rw [utf8ByteSize_redactedText] at h
  rw [sanitize, sanitizeChars, cap_eq_self h, redactedText]

theorem sanitize_eq_append (h : maxBytes < (redactedText message).utf8ByteSize) :
    sanitize message = keptText message ++ String.ofList cutMark := by
  rw [utf8ByteSize_redactedText] at h
  rw [sanitize, sanitizeChars, cap, if_neg (Nat.not_le_of_lt h), String.ofList_append, keptText]

/-- A redacted message of at most 500 bytes is left as it is.  Of a longer one the longest
front of at most 486 bytes is kept and marked.  It ends at the edge of a character, which
is found at most three bytes in front of the limit, so that the message in the report has
497 bytes at least, and never more than 500. -/
theorem sanitize_cutsAtEdge (message : String) :
    ((redactedText message).utf8ByteSize ≤ 500 → sanitize message = redactedText message) ∧
      (500 < (redactedText message).utf8ByteSize → ∃ kept cut,
        sanitize message = kept ++ "...[truncated]" ∧
        Text.IsLongestFront 486 kept (redactedText message) ∧
        Text.edgeFrom? (redactedText message) 486 = some cut ∧
        cut ≤ 486 ∧ 486 ≤ cut + 3 ∧
        kept.toByteArray = (redactedText message).toByteArray.extract 0 cut ∧
        497 ≤ (sanitize message).utf8ByteSize) ∧
      (sanitize message).utf8ByteSize ≤ 500 := by
  refine ⟨sanitize_eq_redactedText, fun hlong => ?_, utf8ByteSize_sanitize_le message⟩
  have hcut := sanitize_eq_append hlong
  have hlength : 486 ≤ Text.utf8Length (redact message.toList) := by
    rw [utf8ByteSize_redactedText] at hlong
    omega
  have hsteps := Text.le_utf8Length_takeBytes hlength
  have hsize : (sanitize message).utf8ByteSize =
      Text.utf8Length (Text.takeBytes 486 (redact message.toList)) + 14 := by
    rw [hcut, String.utf8ByteSize_append, keptText, Text.utf8ByteSize_ofList]
    rfl
  refine ⟨keptText message, _, hcut, Text.isLongestFront_takeBytes 486 _,
    Text.edgeFrom?_ofList 486 _, Text.utf8Length_takeBytes_le 486 _, hsteps,
    Text.toByteArray_takeBytes 486 _, ?_⟩
  omega

end Length

/-! ## What is assigned -/

/-- A word that names a secret, in any letter case. -/
def IsKeyword (word : List Char) : Prop := word.map Text.foldCase ∈ keywords
deriving Decidable

/-- What separates a keyword from its value. -/
def IsSeparator (c : Char) : Prop := c = '=' ∨ c = ':'
deriving Decidable

def AreBlanks (cs : List Char) : Prop := ∀ c ∈ cs, Text.isBlank c = true

instance : DecidablePred AreBlanks := fun cs =>
  decidable_of_iff (cs.all Text.isBlank = true) List.all_eq_true

def AreSolid (cs : List Char) : Prop := ∀ c ∈ cs, Text.isBlank c = false

instance : DecidablePred AreSolid := fun cs =>
  decidable_of_iff (cs.all (fun c => !Text.isBlank c) = true) (by simp [AreSolid])

/-- The end of a text, or a blank. -/
def EndsValue (cs : List Char) : Prop := ∀ c ∈ cs.head?, Text.isBlank c = true

instance : DecidablePred EndsValue := fun cs =>
  decidable_of_iff (cs.head?.all Text.isBlank = true) (Option.all_eq_true Text.isBlank cs.head?)

/-! ## Keywords -/

variable {word other cs rest : List Char} {c sep : Char}

/-- Of two keywords neither ends in the other, and they differ in their first letter. -/
theorem keywords_apart :
    ∀ word ∈ keywords, ∀ other ∈ keywords,
      (word.head? = other.head? → word = other) ∧ (other <:+ word → word = other) := by
  decide

theorem not_isSeparator_of_mem (h : IsKeyword word) (hc : c ∈ word) : ¬IsSeparator c := by
  have hplain : ∀ word ∈ keywords, '=' ∉ word ∧ ':' ∉ word := by decide
  obtain ⟨hequals, hcolon⟩ := hplain _ h
  have hfold := List.mem_map_of_mem (f := Text.foldCase) hc
  rintro (rfl | rfl)
  · exact hequals hfold
  · exact hcolon hfold

/-- Folding the case keeps blanks. -/
theorem isBlank_foldCase {c : Char} (h : Text.isBlank c = true) :
    Text.isBlank (Text.foldCase c) = true := by
  have hkelvin : c ≠ '\u212A' := by rintro rfl; revert h; decide
  have hlong : c ≠ '\u017F' := by rintro rfl; revert h; decide
  rw [Text.foldCase, if_neg hkelvin, if_neg hlong]
  change Text.isBlank (dite _ _ _) = true
  split
  · next hupper =>
      have hrange : 65 ≤ c.toNat ∧ c.toNat ≤ 90 := hupper
      simp [Text.isBlank] at h
      omega
  · exact h

theorem IsKeyword.areSolid (h : IsKeyword word) : AreSolid word := by
  have hplain : ∀ word ∈ keywords, AreSolid word := by decide
  intro c hc
  have hfold := hplain _ h (Text.foldCase c) (List.mem_map_of_mem hc)
  exact Bool.eq_false_iff.mpr fun hblank => by simp [isBlank_foldCase hblank] at hfold

theorem IsSeparator.isBlank (h : IsSeparator c) : Text.isBlank c = false := by
  rcases h with rfl | rfl <;> decide

theorem IsKeyword.ne_nil (h : IsKeyword word) : word ≠ [] := by
  rintro rfl
  revert h
  unfold IsKeyword
  decide

theorem IsKeyword.isSome_head? (h : IsKeyword word) : word.head?.isSome = true :=
  List.isSome_head?.mpr h.ne_nil

theorem IsKeyword.eq_nil_of_append {front : List Char} (h : IsKeyword (front ++ word))
    (hword : IsKeyword word) : front = [] := by
  have hsuffix : word.map Text.foldCase <:+ (front ++ word).map Text.foldCase :=
    (List.suffix_append front word).map Text.foldCase
  have hlength := congrArg List.length ((keywords_apart _ h _ hword).2 hsuffix)
  rw [List.length_map, List.length_map, List.length_append] at hlength
  exact List.length_eq_zero_iff.mp (by omega)

/-- A text begins with one keyword at most. -/
theorem IsKeyword.append_inj {rest' : List Char} (hword : IsKeyword word)
    (hother : IsKeyword other) (h : word ++ rest = other ++ rest') :
    word = other ∧ rest = rest' := by
  have hhead : word.head? = other.head? := by
    have hfirst := congrArg List.head? h
    rwa [List.head?_append, List.head?_append, Option.or_of_isSome hword.isSome_head?,
      Option.or_of_isSome hother.isSome_head?] at hfirst
  have hfold : word.map Text.foldCase = other.map Text.foldCase := by
    refine (keywords_apart _ hword _ hother).1 ?_
    rw [List.head?_map, List.head?_map, hhead]
  have hlength := congrArg List.length hfold
  rw [List.length_map, List.length_map] at hlength
  exact List.append_inj h hlength

theorem keywordAt?_eq_some_iff :
    keywordAt? cs = some (word, rest) ↔ IsKeyword word ∧ cs = word ++ rest := by
  have hfound : ∀ {word rest}, keywordAt? cs = some (word, rest) →
      IsKeyword word ∧ cs = word ++ rest := by
    intro word rest h
    obtain ⟨lower, hlower, hhere⟩ := List.exists_of_findSome?_eq_some h
    obtain ⟨after, hafter, heq⟩ := Option.map_eq_some_iff.mp hhere
    obtain ⟨front, rfl, rfl⟩ := Text.afterPrefixFold?_eq_some_iff.mp hafter
    rw [List.length_map, List.take_left, Prod.mk.injEq] at heq
    obtain ⟨rfl, rfl⟩ := heq
    exact ⟨hlower, rfl⟩
  refine ⟨hfound, ?_⟩
  rintro ⟨hword, hcs⟩
  have hhere : Text.afterPrefixFold? (word.map Text.foldCase) cs = some rest :=
    Text.afterPrefixFold?_eq_some_iff.mpr ⟨word, hcs, rfl⟩
  cases hcase : keywordAt? cs with
  | none =>
      have hnone := List.findSome?_eq_none_iff.mp hcase _ hword
      rw [hhere] at hnone
      cases hnone
  | some found =>
      obtain ⟨hfoundWord, hfoundText⟩ := hfound hcase
      obtain ⟨hsame, hrest⟩ := hfoundWord.append_inj hword (hfoundText.symm.trans hcs)
      rw [← hsame, ← hrest]

/-! ## Assignments at the front of a text -/

/-- The keyword at the front of a text that is followed by a separator, and what
follows that. -/
def afterSeparator? (cs : List Char) : Option (List Char × List Char) :=
  match keywordAt? cs with
  | some (word, c :: rest) => if c = '=' ∨ c = ':' then some (word, rest) else none
  | _ => none

/-- What follows the value that a text begins with, blanks in front of it aside. -/
def dropValue (cs : List Char) : List Char :=
  (Text.trimStart cs).dropWhile fun c => !Text.isBlank c

theorem afterSeparator?_eq_some_iff :
    afterSeparator? cs = some (word, rest) ↔
      ∃ sep, IsKeyword word ∧ IsSeparator sep ∧ cs = word ++ sep :: rest := by
  unfold afterSeparator?
  constructor
  · intro h
    split at h
    · next found c after hfound =>
        obtain ⟨hword, hcs⟩ := keywordAt?_eq_some_iff.mp hfound
        split at h
        · next hsep =>
            obtain ⟨rfl, rfl⟩ := Prod.mk.inj (Option.some.inj h)
            exact ⟨c, hword, hsep, hcs⟩
        · cases h
    · cases h
  · rintro ⟨sep, hword, hsep, hcs⟩
    have hfound : keywordAt? cs = some (word, sep :: rest) :=
      keywordAt?_eq_some_iff.mpr ⟨hword, hcs⟩
    rw [hfound]
    exact if_pos hsep

theorem secretAt?_eq (cs : List Char) :
    secretAt? cs = (afterSeparator? cs).bind fun found =>
      if Text.trimStart found.2 = [] then none else some (found.1, dropValue found.2) := by
  unfold secretAt? afterSeparator?
  cases keywordAt? cs with
  | none => rfl
  | some found =>
      obtain ⟨word, rest⟩ := found
      cases rest with
      | nil => rfl
      | cons c rest =>
          change (afterValue? (c :: rest)).bind _ = _
          rw [afterValue?]
          by_cases hsep : c = '=' ∨ c = ':'
          · simp only [if_pos hsep, Option.bind_some, dropValue]
            cases Text.trimStart rest <;> rfl
          · simp only [if_neg hsep, Option.bind_none]

theorem length_dropValue_le (cs : List Char) : (dropValue cs).length ≤ cs.length :=
  ((List.dropWhile_sublist _).trans (List.dropWhile_sublist _)).length_le

theorem length_dropValue_lt (h : afterSeparator? cs = some (word, rest)) :
    (dropValue rest).length < cs.length := by
  obtain ⟨sep, -, -, rfl⟩ := afterSeparator?_eq_some_iff.mp h
  have hle := length_dropValue_le rest
  rw [List.length_append, List.length_cons]
  omega

/-! ## What is redacted -/

@[simp] theorem redactSecrets_nil : redactSecrets [] = [] := by
  rw [redactSecrets.eq_def]
  rfl

theorem redactSecrets_of_some (h : afterSeparator? cs = some (word, rest))
    (hvalue : Text.trimStart rest ≠ []) :
    redactSecrets cs = word ++ "=***".toList ++ redactSecrets (dropValue rest) := by
  have hsecret : secretAt? cs = some (word, dropValue rest) := by
    rw [secretAt?_eq, h]
    exact if_neg hvalue
  rw [redactSecrets.eq_def]
  split
  · next found after hfound =>
      obtain ⟨rfl, rfl⟩ := Prod.mk.inj (Option.some.inj (hsecret.symm.trans hfound))
      rfl
  · next hnone => simp [hsecret] at hnone

theorem redactSecrets_of_none (h : afterSeparator? (c :: cs) = none) :
    redactSecrets (c :: cs) = c :: redactSecrets cs := by
  have hsecret : secretAt? (c :: cs) = none := by
    rw [secretAt?_eq, h]
    rfl
  rw [redactSecrets.eq_def]
  split
  · next found after hfound => simp [hsecret] at hfound
  · rfl

/-- No assignment begins with a letter that no keyword begins with. -/
theorem afterSeparator?_eq_none (h : ∀ word, IsKeyword word → word.head? ≠ some c) :
    afterSeparator? (c :: cs) = none := by
  cases hfound : afterSeparator? (c :: cs) with
  | none => rfl
  | some found =>
      obtain ⟨sep, hword, -, htext⟩ := afterSeparator?_eq_some_iff.mp hfound
      refine absurd ?_ (h _ hword)
      have hhead := congrArg List.head? htext
      rw [List.head?_append, Option.or_of_isSome hword.isSome_head?] at hhead
      exact hhead.symm

theorem redactSecrets_append_of_areBlanks {blanks : List Char} (h : AreBlanks blanks)
    (cs : List Char) : redactSecrets (blanks ++ cs) = blanks ++ redactSecrets cs := by
  induction blanks with
  | nil => rfl
  | cons b blanks ih =>
      have hnone : afterSeparator? (b :: (blanks ++ cs)) = none := by
        refine afterSeparator?_eq_none fun word hword hhead => ?_
        have hsolid := hword.areSolid b (List.mem_of_mem_head? hhead)
        rw [h b List.mem_cons_self] at hsolid
        cases hsolid
      rw [List.cons_append, redactSecrets_of_none hnone,
        ih fun c hc => h c (List.mem_cons_of_mem b hc), List.cons_append]

/-! ## Values that are cut off -/

variable {front solid after : List Char}

theorem trimStart_append (h : Text.trimStart front ≠ []) (after : List Char) :
    Text.trimStart (front ++ after) = Text.trimStart front ++ after :=
  Text.dropWhile_append_of_ne_nil h after

theorem trimStart_append_of_nil (h : Text.trimStart front = []) (after : List Char) :
    Text.trimStart (front ++ after) = Text.trimStart after :=
  Text.dropWhile_append_of_eq_nil h after

theorem trimStart_ne_nil_of_dropValue (h : dropValue cs ≠ []) : Text.trimStart cs ≠ [] := by
  intro hnil
  rw [dropValue, hnil] at h
  exact h rfl

/-- A value that has ended is not touched by what follows. -/
theorem dropValue_append (h : dropValue front ≠ []) (after : List Char) :
    dropValue (front ++ after) = dropValue front ++ after := by
  rw [dropValue, trimStart_append (trimStart_ne_nil_of_dropValue h)]
  exact Text.dropWhile_append_of_ne_nil h after

theorem trimStart_solid (hsolid : AreSolid solid) (hne : solid ≠ []) (after : List Char) :
    Text.trimStart (solid ++ after) = solid ++ after := by
  refine Text.trimStart_eq_self fun c hc => ?_
  cases solid with
  | nil => exact absurd rfl hne
  | cons d solid =>
      obtain rfl := Option.some.inj hc
      exact hsolid d List.mem_cons_self

theorem dropWhile_solid (hsolid : AreSolid solid) (hafter : EndsValue after) :
    (solid ++ after).dropWhile (fun c => !Text.isBlank c) = after := by
  have hall : ∀ c ∈ solid, (!Text.isBlank c) = true := fun c hc => by rw [hsolid c hc]; rfl
  have hend : ∀ c ∈ after.head?, (!Text.isBlank c) = false := fun c hc => by rw [hafter c hc]; rfl
  exact Text.dropWhile_append_of_head? hall hend

/-- A value that is still open goes on to the next blank. -/
theorem dropValue_append_of_nil (h : dropValue front = []) (hsolid : AreSolid solid)
    (hne : solid ≠ []) (hafter : EndsValue after) :
    Text.trimStart (front ++ (solid ++ after)) ≠ [] ∧
      dropValue (front ++ (solid ++ after)) = after := by
  by_cases htrim : Text.trimStart front = []
  · rw [dropValue, trimStart_append_of_nil htrim, trimStart_solid hsolid hne]
    exact ⟨List.append_ne_nil_of_left_ne_nil hne after, dropWhile_solid hsolid hafter⟩
  · rw [dropValue, trimStart_append htrim, Text.dropWhile_append_of_eq_nil h]
    exact ⟨List.append_ne_nil_of_left_ne_nil htrim _, dropWhile_solid hsolid hafter⟩

/-! ## Texts that end in an open value -/

/-- Whether a text ends within a value that is redacted, or in front of it: what
follows without a blank would be taken for a part of that value. -/
def endsOpen (cs : List Char) : Bool :=
  match _h : afterSeparator? cs with
  | some (_, rest) => (dropValue rest).isEmpty || endsOpen (dropValue rest)
  | none =>
      match cs with
      | [] => false
      | _ :: cs => endsOpen cs
termination_by cs.length
decreasing_by
  · exact length_dropValue_lt _h
  · simp

theorem endsOpen_of_some (h : afterSeparator? cs = some (word, rest)) :
    endsOpen cs = ((dropValue rest).isEmpty || endsOpen (dropValue rest)) := by
  rw [endsOpen.eq_def]
  split
  · next found after hfound =>
      obtain ⟨rfl, rfl⟩ := Prod.mk.inj (Option.some.inj (h.symm.trans hfound))
      rfl
  · next hnone => simp [h] at hnone

theorem endsOpen_of_none (h : afterSeparator? (c :: cs) = none) :
    endsOpen (c :: cs) = endsOpen cs := by
  rw [endsOpen.eq_def]
  split
  · next found after hfound => simp [h] at hfound
  · rfl

@[simp] theorem endsOpen_nil : endsOpen [] = false := by
  rw [endsOpen.eq_def]
  rfl

theorem afterSeparator?_append (h : afterSeparator? cs = some (word, rest)) (after : List Char) :
    afterSeparator? (cs ++ after) = some (word, rest ++ after) := by
  obtain ⟨sep, hword, hsep, rfl⟩ := afterSeparator?_eq_some_iff.mp h
  exact afterSeparator?_eq_some_iff.mpr ⟨sep, hword, hsep, by simp⟩

/-- A keyword with its separator that appears when a text goes on reaches over its
end. -/
theorem exists_of_afterSeparator?_append (h : afterSeparator? cs = none)
    (hlater : afterSeparator? (cs ++ after) = some (word, rest)) :
    ∃ back sep, IsKeyword word ∧ IsSeparator sep ∧ word = cs ++ back ∧
      after = back ++ sep :: rest := by
  obtain ⟨sep, hword, hsep, htext⟩ := afterSeparator?_eq_some_iff.mp hlater
  rcases List.append_eq_append_iff.mp htext with ⟨back, hback, hafter⟩ | ⟨back, hback, hafter⟩
  · exact ⟨back, sep, hword, hsep, hback, hafter⟩
  · cases back with
    | nil => exact ⟨[], sep, hword, hsep, by simpa using hback.symm, by simpa using hafter.symm⟩
    | cons d back =>
        obtain ⟨rfl, -⟩ := List.cons.inj hafter
        have hhere : afterSeparator? cs = some (word, back) :=
          afterSeparator?_eq_some_iff.mpr ⟨sep, hword, hsep, hback⟩
        simp [h] at hhere

/-- An assignment does not begin in front of another one and end in it. -/
theorem afterSeparator?_append_assignment (hcs : cs ≠ []) (h : afterSeparator? cs = none)
    (hother : IsKeyword other) (hsep : IsSeparator sep) (after : List Char) :
    afterSeparator? (cs ++ (other ++ sep :: after)) = none := by
  cases hlater : afterSeparator? (cs ++ (other ++ sep :: after)) with
  | none => rfl
  | some found =>
      obtain ⟨back, sep', hword, hsep', hback, hafter⟩ :=
        exists_of_afterSeparator?_append h hlater
      rcases List.append_eq_append_iff.mp hafter with ⟨more, hmore, hrest⟩ | ⟨more, hmore, hrest⟩
      · cases more with
        | nil =>
            rw [List.append_nil] at hmore
            rw [hback, hmore] at hword
            exact absurd (hword.eq_nil_of_append hother) hcs
        | cons d more =>
            obtain ⟨rfl, -⟩ := List.cons.inj hrest
            refine absurd hsep (not_isSeparator_of_mem hword ?_)
            rw [hback, hmore]
            simp
      · cases more with
        | nil =>
            rw [List.append_nil] at hmore
            rw [hback, ← hmore] at hword
            exact absurd (hword.eq_nil_of_append hother) hcs
        | cons d more =>
            obtain ⟨rfl, -⟩ := List.cons.inj hrest
            refine absurd hsep' (not_isSeparator_of_mem hother ?_)
            rw [hmore]
            simp

/-- A keyword that reaches over the end of a text leaves no room for a separator in it. -/
theorem afterSeparator?_append_of_separator (h : afterSeparator? cs = none)
    (hsep : ∃ c ∈ cs, IsSeparator c) (after : List Char) :
    afterSeparator? (cs ++ after) = none := by
  cases hlater : afterSeparator? (cs ++ after) with
  | none => rfl
  | some found =>
      obtain ⟨c, hc, hsep⟩ := hsep
      obtain ⟨back, -, hword, -, hback, -⟩ := exists_of_afterSeparator?_append h hlater
      refine absurd hsep (not_isSeparator_of_mem hword ?_)
      rw [hback]
      exact List.mem_append_left back hc

/-- The search for assignments, place by place: there is an assignment that ends or
one that is still open, or the search goes on after one character. -/
theorem search_induction {motive : List Char → Prop}
    (nil : motive [])
    (ended : ∀ {cs word rest}, afterSeparator? cs = some (word, rest) → dropValue rest ≠ [] →
      motive (dropValue rest) → motive cs)
    (opened : ∀ {cs word rest}, afterSeparator? cs = some (word, rest) → dropValue rest = [] →
      motive cs)
    (passed : ∀ {c cs}, afterSeparator? (c :: cs) = none → motive cs → motive (c :: cs))
    (cs : List Char) : motive cs := by
  induction hn : cs.length using Nat.strongRecOn generalizing cs with
  | ind n ih =>
      subst hn
      cases h : afterSeparator? cs with
      | some found =>
          obtain ⟨word, rest⟩ := found
          by_cases hend : dropValue rest = []
          · exact opened h hend
          · exact ended h hend (ih _ (length_dropValue_lt h) _ rfl)
      | none =>
          cases cs with
          | nil => exact nil
          | cons c cs => exact passed h (ih _ (Nat.lt_succ_self _) cs rfl)

theorem exists_isSeparator_of_endsOpen (h : endsOpen cs = true) : ∃ c ∈ cs, IsSeparator c := by
  induction cs using search_induction with
  | nil => simp at h
  | ended hfound _ _ | opened hfound _ =>
      obtain ⟨sep, -, hsep, rfl⟩ := afterSeparator?_eq_some_iff.mp hfound
      exact ⟨sep, by simp, hsep⟩
  | passed hnone ih =>
      rw [endsOpen_of_none hnone] at h
      obtain ⟨c, hc, hsep⟩ := ih h
      exact ⟨c, List.mem_cons_of_mem _ hc, hsep⟩

/-! ## Texts that lead to an assignment -/

/-- After a text that does not end open, an assignment is found from its start. -/
theorem redactSecrets_append_of_closed (hclosed : endsOpen cs = false) (hword : IsKeyword word)
    (hsep : IsSeparator sep) (after : List Char) :
    redactSecrets (cs ++ (word ++ sep :: after)) =
      redactSecrets cs ++ redactSecrets (word ++ sep :: after) := by
  induction cs using search_induction with
  | nil => simp
  | ended hfound hend ih =>
      rw [endsOpen_of_some hfound] at hclosed
      have hrest := ih (Bool.or_eq_false_iff.mp hclosed).2
      have hvalue := trimStart_ne_nil_of_dropValue hend
      rw [redactSecrets_of_some hfound hvalue,
        redactSecrets_of_some (afterSeparator?_append hfound _)
          (trimStart_append hvalue _ ▸ List.append_ne_nil_of_left_ne_nil hvalue _),
        dropValue_append hend, hrest, ← List.append_assoc]
  | opened hfound hend =>
      rw [endsOpen_of_some hfound, hend] at hclosed
      simp at hclosed
  | @passed c cs hnone ih =>
      rw [endsOpen_of_none hnone] at hclosed
      have hlater := afterSeparator?_append_assignment (List.cons_ne_nil c cs) hnone hword hsep
        after
      rw [List.cons_append] at hlater ⊢
      rw [redactSecrets_of_none hlater, redactSecrets_of_none hnone, ih hclosed,
        List.cons_append]

/-- After a text that ends open, whatever follows up to a blank is lost, an
assignment included. -/
theorem redactSecrets_append_of_open (hopen : endsOpen cs = true) :
    ∃ front, ∀ solid after, AreSolid solid → solid ≠ [] → EndsValue after →
      redactSecrets (cs ++ (solid ++ after)) = front ++ redactSecrets after := by
  induction cs using search_induction with
  | nil => simp at hopen
  | @ended cs word rest hfound hend ih =>
      have hrest : endsOpen (dropValue rest) = true := by
        rw [endsOpen_of_some hfound] at hopen
        simpa [hend] using hopen
      obtain ⟨front, hfront⟩ := ih hrest
      have hvalue := trimStart_ne_nil_of_dropValue hend
      refine ⟨word ++ "=***".toList ++ front, fun solid after hsolid hne hafter => ?_⟩
      rw [redactSecrets_of_some (afterSeparator?_append hfound _)
          (trimStart_append hvalue _ ▸ List.append_ne_nil_of_left_ne_nil hvalue _),
        dropValue_append hend, hfront solid after hsolid hne hafter, ← List.append_assoc]
  | @opened cs word rest hfound hend =>
      refine ⟨word ++ "=***".toList, fun solid after hsolid hne hafter => ?_⟩
      obtain ⟨hvalue, hdrop⟩ := dropValue_append_of_nil hend hsolid hne hafter
      rw [redactSecrets_of_some (afterSeparator?_append hfound _) hvalue, hdrop]
  | @passed c cs hnone ih =>
      have hsep := exists_isSeparator_of_endsOpen hopen
      rw [endsOpen_of_none hnone] at hopen
      obtain ⟨front, hfront⟩ := ih hopen
      refine ⟨c :: front, fun solid after hsolid hne hafter => ?_⟩
      have hlater := afterSeparator?_append_of_separator hnone hsep (solid ++ after)
      rw [List.cons_append] at hlater ⊢
      rw [redactSecrets_of_none hlater, hfront solid after hsolid hne hafter, List.cons_append]

/-! ## Assignments within a text -/

/-- What can be assigned to a secret. -/
def IsValue (value : List Char) : Prop := value ≠ [] ∧ AreSolid value
deriving Decidable

/-- A text that assigns to a secret, its value left out. -/
structure Assignment where
  before : List Char
  keyword : List Char
  separator : Char
  blanks : List Char
  after : List Char
  isKeyword : IsKeyword keyword
  isSeparator : IsSeparator separator
  areBlanks : AreBlanks blanks
  endsValue : EndsValue after

namespace Assignment

variable {a : Assignment} {value value' : List Char}

/-- The text with a value in its place. -/
def text (a : Assignment) (value : List Char) : List Char :=
  a.before ++ (a.keyword ++ a.separator :: (a.blanks ++ (value ++ a.after)))

/-- The text with a value in its place, as a message. -/
def message (a : Assignment) (value : List Char) : String := String.ofList (a.text value)

/-- Whether the value stands in the same word as its keyword, or the text in front of
that keyword leaves no value open. -/
def IsClosed (a : Assignment) : Prop := endsOpen a.before = false ∨ a.blanks = []

theorem redactSecrets_assigned (a : Assignment) (hvalue : IsValue value) :
    redactSecrets (a.keyword ++ a.separator :: (a.blanks ++ (value ++ a.after))) =
      a.keyword ++ "=***".toList ++ redactSecrets a.after := by
  have hfound : afterSeparator? (a.keyword ++ a.separator :: (a.blanks ++ (value ++ a.after))) =
      some (a.keyword, a.blanks ++ (value ++ a.after)) :=
    afterSeparator?_eq_some_iff.mpr ⟨_, a.isKeyword, a.isSeparator, rfl⟩
  have hblanks : Text.trimStart a.blanks = [] := by
    rw [Text.trimStart, List.dropWhile_eq_nil_iff]
    exact a.areBlanks
  have hopen : dropValue a.blanks = [] := by
    rw [dropValue, hblanks]
    rfl
  obtain ⟨hne, hdrop⟩ := dropValue_append_of_nil hopen hvalue.2 hvalue.1 a.endsValue
  rw [redactSecrets_of_some hfound hne, hdrop]

/-- No value of a closed assignment is seen in the redacted text. -/
theorem redactSecrets_text_of_isClosed (hclosed : a.IsClosed) (hvalue : IsValue value)
    (hvalue' : IsValue value') : redactSecrets (a.text value) = redactSecrets (a.text value') := by
  cases hbefore : endsOpen a.before with
  | false =>
      rw [text, text, redactSecrets_append_of_closed hbefore a.isKeyword a.isSeparator,
        redactSecrets_append_of_closed hbefore a.isKeyword a.isSeparator,
        a.redactSecrets_assigned hvalue, a.redactSecrets_assigned hvalue']
  | true =>
      have hblanks : a.blanks = [] := hclosed.resolve_left (by simp [hbefore])
      obtain ⟨front, hfront⟩ := redactSecrets_append_of_open hbefore
      -- Keyword, separator and value are one word, which the open value takes in.
      have hword : ∀ {value}, IsValue value →
          redactSecrets (a.text value) = front ++ redactSecrets a.after := by
        intro value hvalue
        have hsolid : AreSolid (a.keyword ++ a.separator :: value) := by
          intro c hc
          rcases List.mem_append.mp hc with hc | hc
          · exact a.isKeyword.areSolid c hc
          · rcases List.mem_cons.mp hc with rfl | hc
            · exact a.isSeparator.isBlank
            · exact hvalue.2 c hc
        rw [← hfront _ _ hsolid (by simp) a.endsValue, text, hblanks, List.nil_append,
          List.append_assoc, List.cons_append]
      rw [hword hvalue, hword hvalue']

/-- The value of an assignment that is not closed stands in the redacted text, for
the search to begin anew in front of it. -/
theorem redactSecrets_text_of_not_isClosed (hopen : ¬a.IsClosed) :
    ∃ front, ∀ value, redactSecrets (a.text value) =
      front ++ (a.blanks ++ redactSecrets (value ++ a.after)) := by
  obtain ⟨hbefore, hne⟩ := not_or.mp hopen
  obtain ⟨front, hfront⟩ := redactSecrets_append_of_open (Bool.not_eq_false _ ▸ hbefore)
  have hsolid : AreSolid (a.keyword ++ [a.separator]) := by
    intro c hc
    rcases List.mem_append.mp hc with hc | hc
    · exact a.isKeyword.areSolid c hc
    · exact List.mem_singleton.mp hc ▸ a.isSeparator.isBlank
  refine ⟨front, fun value => ?_⟩
  have hends : EndsValue (a.blanks ++ (value ++ a.after)) := by
    intro c hc
    cases hblanks : a.blanks with
    | nil => exact absurd hblanks hne
    | cons b blanks =>
        rw [hblanks] at hc
        obtain rfl := Option.some.inj hc
        exact a.areBlanks b (by rw [hblanks]; exact List.mem_cons_self)
  rw [← redactSecrets_append_of_areBlanks a.areBlanks, ← hfront _ _ hsolid (by simp) hends, text,
    List.append_assoc]
  rfl

/-- The redacted text is the same for all values exactly if the assignment is closed. -/
theorem redactSecrets_text_eq_iff :
    (∀ value value', IsValue value → IsValue value' →
      redactSecrets (a.text value) = redactSecrets (a.text value')) ↔ a.IsClosed := by
  constructor
  · intro h
    by_contra hopen
    obtain ⟨front, hfront⟩ := redactSecrets_text_of_not_isClosed hopen
    have hsame := h "a".toList "b".toList (by decide) (by decide)
    have hfirst : ∀ word ∈ keywords, word.head? ≠ some 'a' ∧ word.head? ≠ some 'b' := by decide
    have hnone : ∀ {c}, Text.foldCase c = c → (∀ word ∈ keywords, word.head? ≠ some c) →
        ∀ cs, afterSeparator? (c :: cs) = none := by
      intro c hfold hc cs
      refine afterSeparator?_eq_none fun word hword hhead => hc _ hword ?_
      rw [List.head?_map, hhead, Option.map_some, hfold]
    rw [hfront, hfront] at hsame
    have hrest := List.append_cancel_left (List.append_cancel_left hsame)
    rw [show "a".toList ++ a.after = 'a' :: a.after from rfl,
      show "b".toList ++ a.after = 'b' :: a.after from rfl,
      redactSecrets_of_none (hnone (by decide) (fun word hword => (hfirst word hword).1) _),
      redactSecrets_of_none (hnone (by decide) (fun word hword => (hfirst word hword).2) _)]
      at hrest
    exact absurd (List.cons.inj hrest).1 (by decide)
  · exact fun h value value' => redactSecrets_text_of_isClosed h

/-- No value of a closed assignment reaches the message in a report. -/
theorem sanitize_message_eq (a : Assignment) (hclosed : a.IsClosed) (hvalue : IsValue value)
    (hvalue' : IsValue value') : sanitize (a.message value) = sanitize (a.message value') := by
  have hsame := redactSecrets_text_of_isClosed hclosed hvalue hvalue'
  rw [sanitize, sanitize, message, message, String.toList_ofList, String.toList_ofList,
    sanitizeChars, sanitizeChars, redact, redact, hsame]

/-- A password that is assigned after another secret. -/
def spaced : Assignment where
  before := "key=k1 failed, ".toList
  keyword := "PassWord".toList
  separator := ':'
  blanks := " \t".toList
  after := " at the gate".toList
  isKeyword := by decide
  isSeparator := by decide
  areBlanks := by decide
  endsValue := by decide

theorem sanitize_spaced_message_eq :
    spaced.IsClosed ∧ IsValue "hunter2".toList ∧ IsValue "token=t".toList ∧
      sanitize (spaced.message "hunter2".toList) = sanitize (spaced.message "token=t".toList) := by
  have hclosed : spaced.IsClosed := .inl (by decide +kernel)
  have hvalue : IsValue "hunter2".toList := by decide
  have hvalue' : IsValue "token=t".toList := by decide
  exact ⟨hclosed, hvalue, hvalue', sanitize_message_eq spaced hclosed hvalue hvalue'⟩

/-- A token whose keyword stands in the place of a password. -/
def swallowed : Assignment where
  before := "password=".toList
  keyword := "token".toList
  separator := '='
  blanks := " ".toList
  after := []
  isKeyword := by decide
  isSeparator := by decide
  areBlanks := by decide
  endsValue := by decide

/-- The token is taken for the password, and its value stays. -/
theorem sanitize_swallowed_message_ne :
    IsValue "hunter2".toList ∧ IsValue "***".toList ∧
      sanitize (swallowed.message "hunter2".toList) = "password=*** hunter2" ∧
      sanitize (swallowed.message "hunter2".toList) ≠
        sanitize (swallowed.message "***".toList) := by
  decide +kernel

end Assignment

end Redaction

end ScaffoldRunner
