import ScaffoldRunner.Json.Skip
import ScaffoldRunner.Proofs.Dict
import ScaffoldRunner.Proofs.Json.Number

/-!
# JSON that is written and read

A text that was written is read back value by value.  `Json.reread?` is what comes
out: numbers may come out as others, and objects in the order of their names.  A
value nested too deep is not read at all.  The induction is on the fuel of the
reader, which goes down with every call; two of it for every character written
are enough.
-/

namespace ScaffoldRunner.Json

/-! ## What comes back -/

mutual

/-- What is read of a value that was written. -/
def reread? : Json → Option Json
  | null => some null
  | bool b => some (bool b)
  | int i => number? (intChars i)
  | float x => number? (Decimal.render x)
  | str s => some (str s)
  | arr items => (rereadItems? items).map arr
  | obj members => (rereadMembers? members).map fun members => obj (Dict.ofList members)

/-- What is read of items that were written. -/
def rereadItems? : List Json → Option (List Json)
  | [] => some []
  | a :: as => (reread? a).bind fun a => (rereadItems? as).map (a :: ·)

/-- What is read of members that were written. -/
def rereadMembers? : List (String × Json) → Option (List (String × Json))
  | [] => some []
  | (k, a) :: as => (reread? a).bind fun a => (rereadMembers? as).map ((k, a) :: ·)

end

/-! ## Blanks -/

theorem skipSpace_cons {c : Char} (h : isSpace c = false) (cs : List Char) :
    skipSpace (c :: cs) = c :: cs := by
  simp [skipSpace, h]

theorem isSpace_of_isDigit {c : Char} (h : isDigit c = true) : isSpace c = false := by
  rw [← Bool.not_eq_true]
  intro hspace
  simp only [isSpace, Bool.or_eq_true, decide_eq_true_eq] at hspace
  rcases hspace with ((rfl | rfl) | rfl) | rfl <;> exact absurd h (by decide)

theorem skipSpace_indent (level : Nat) (cs : List Char) :
    skipSpace (indent level ++ cs) = skipSpace cs := by
  have hblank : ∀ c ∈ indent level, isSpace c = true := by
    intro c hc
    rcases List.mem_cons.mp hc with rfl | hc
    · decide
    · rw [List.eq_of_mem_replicate hc]
      decide
  rw [skipSpace, List.dropWhile_append_of_pos hblank, skipSpace]

/-! ## Texts -/

theorem hexFour?_hexDigit {n : Nat} (h : n < 32) (cs : List Char) :
    hexFour? ('0' :: '0' :: hexDigit (n / 16) :: hexDigit (n % 16) :: cs) = some (n, cs) := by
  have hdigit : ∀ d < 16, hexValue? (hexDigit d) = some d := by decide
  have hzero : hexValue? '0' = some 0 := by decide
  have hvalue : n / 16 * 16 + n % 16 = n := by omega
  simp [hexFour?, hzero, hdigit (n / 16) (by omega), hdigit (n % 16) (by omega), hvalue]

/-- An escaped character is read as itself. -/
theorem stringBody_escapeChar (fuel : Nat) (acc : List Char) (c : Char) (cs : List Char) :
    stringBody (fuel + 1) acc (escapeChar c ++ cs) = stringBody fuel (c :: acc) cs := by
  unfold escapeChar
  split
  · next h => subst h; simp [stringBody, letterEscape?]
  split
  · next h => subst h; simp [stringBody, letterEscape?]
  split
  · next h => subst h; simp [stringBody, letterEscape?]
  split
  · next h => subst h; simp [stringBody, letterEscape?]
  split
  · next h => subst h; simp [stringBody, letterEscape?]
  split
  · next h => subst h; simp [stringBody, letterEscape?]
  split
  · next h => subst h; simp [stringBody, letterEscape?]
  split
  · next h =>
      have hcode : codeEscape? ('0' :: '0' :: hexDigit (c.toNat / 16) ::
          hexDigit (c.toNat % 16) :: cs) = some (c, cs) := by
        have hlow : ¬(55296 ≤ c.toNat) := by omega
        have hhigh : ¬(56320 ≤ c.toNat) := by omega
        simp [codeEscape?, hexFour?_hexDigit h, hlow, hhigh, Char.ofNat_toNat]
      simp [stringBody, hcode]
  · rw [stringBody.eq_def]
    split <;> simp_all

theorem stringBody_flatMap {s : List Char} {fuel : Nat} (hfuel : s.length < fuel)
    (acc rest : List Char) :
    stringBody fuel acc (s.flatMap escapeChar ++ '"' :: rest) =
      some (String.ofList (acc.reverse ++ s), rest) := by
  obtain ⟨fuel, rfl⟩ := Nat.exists_eq_succ_of_ne_zero (Nat.ne_of_gt (Nat.zero_lt_of_lt hfuel))
  induction s generalizing fuel acc with
  | nil => simp [stringBody]
  | cons c s ih =>
      rw [List.flatMap_cons, List.append_assoc, stringBody_escapeChar]
      obtain ⟨fuel, rfl⟩ : ∃ more, fuel = more + 1 := by
        refine ⟨fuel - 1, ?_⟩
        rw [List.length_cons] at hfuel
        omega
      rw [ih (c :: acc) fuel (by simpa using hfuel)]
      simp

theorem length_le_flatMap (s : List Char) : s.length ≤ (s.flatMap escapeChar).length := by
  induction s with
  | nil => exact Nat.le_refl 0
  | cons c s ih =>
      have hc : 0 < (escapeChar c).length := by
        unfold escapeChar
        repeat' split
        all_goals simp
      rw [List.flatMap_cons, List.length_append, List.length_cons]
      omega

/-! ## Lengths -/

theorem length_pos_of_isNumber {cs : List Char} (h : IsNumber cs) : 0 < cs.length := by
  obtain ⟨c, rest, rfl, -⟩ := head?_of_isNumber h
  exact Nat.zero_lt_succ _

mutual

/-- A value takes at least one character. -/
theorem length_prettyOnto (level : Nat) (j : Json) (rest : List Char) :
    rest.length < (prettyOnto level j rest).length := by
  match j with
  | null | bool true | bool false =>
      simp only [prettyOnto, compactOnto, List.length_cons]
      omega
  | int i =>
      have := length_pos_of_isNumber (isNumber_intChars i)
      simp only [prettyOnto, compactOnto, List.length_append]
      omega
  | float x =>
      have := length_pos_of_isNumber (isNumber_render x)
      simp only [prettyOnto, compactOnto, List.length_append]
      omega
  | str s =>
      simp only [prettyOnto, compactOnto, quoteChars, List.length_append, List.length_cons]
      omega
  | arr [] | obj [] =>
      simp only [prettyOnto, List.length_cons]
      omega
  | arr (a :: as) =>
      have hfirst := length_prettyOnto (level + 1) a (prettyItemsOnto level as rest)
      have hmore := length_prettyItemsOnto level as rest
      simp only [prettyOnto, List.length_append, List.length_cons]
      omega
  | obj ((k, a) :: as) =>
      have hfirst := length_prettyOnto (level + 1) a (prettyMembersOnto level as rest)
      have hmore := length_prettyMembersOnto level as rest
      simp only [prettyOnto, List.length_append, List.length_cons]
      omega

theorem length_prettyItemsOnto (level : Nat) (as : List Json) (rest : List Char) :
    rest.length < (prettyItemsOnto level as rest).length := by
  match as with
  | [] =>
      simp only [prettyItemsOnto, List.length_append, List.length_cons]
      omega
  | a :: as =>
      have hfirst := length_prettyOnto (level + 1) a (prettyItemsOnto level as rest)
      have hmore := length_prettyItemsOnto level as rest
      simp only [prettyItemsOnto, List.length_append, List.length_cons]
      omega

theorem length_prettyMembersOnto (level : Nat) (as : List (String × Json)) (rest : List Char) :
    rest.length < (prettyMembersOnto level as rest).length := by
  match as with
  | [] =>
      simp only [prettyMembersOnto, List.length_append, List.length_cons]
      omega
  | (k, a) :: as =>
      have hfirst := length_prettyOnto (level + 1) a (prettyMembersOnto level as rest)
      have hmore := length_prettyMembersOnto level as rest
      simp only [prettyMembersOnto, List.length_append, List.length_cons]
      omega

end

theorem endsNumber_prettyItemsOnto (level : Nat) (as : List Json) (rest : List Char) :
    EndsNumber (prettyItemsOnto level as rest) := by
  cases as <;> exact endsNumber_cons (by decide) _

theorem endsNumber_prettyMembersOnto (level : Nat) (as : List (String × Json))
    (rest : List Char) : EndsNumber (prettyMembersOnto level as rest) := by
  cases as <;> exact endsNumber_cons (by decide) _

/-- No value begins with a blank or a closing bracket. -/
theorem exists_prettyOnto_eq_cons (level : Nat) (j : Json) (rest : List Char) :
    ∃ c cs, prettyOnto level j rest = c :: cs ∧ isSpace c = false ∧ c ≠ ']' := by
  have hnumber {text : List Char} (h : IsNumber text) :
      ∃ c cs, text ++ rest = c :: cs ∧ isSpace c = false ∧ c ≠ ']' := by
    obtain ⟨c, cs, rfl, rfl | hc⟩ := head?_of_isNumber h
    · exact ⟨_, _, rfl, by decide, by decide⟩
    · refine ⟨c, _, rfl, isSpace_of_isDigit hc, ?_⟩
      rintro rfl
      exact absurd hc (by decide)
  match j with
  | null => exact ⟨_, _, rfl, by decide, by decide⟩
  | bool true | bool false => exact ⟨_, _, rfl, by decide, by decide⟩
  | int i => exact hnumber (isNumber_intChars i)
  | float x => exact hnumber (isNumber_render x)
  | str s => exact ⟨_, _, rfl, by decide, by decide⟩
  | arr [] | arr (_ :: _) => exact ⟨_, _, rfl, by decide, by decide⟩
  | obj [] | obj (_ :: _) => exact ⟨_, _, rfl, by decide, by decide⟩

theorem skipSpace_prettyOnto (level : Nat) (j : Json) (rest : List Char) :
    skipSpace (prettyOnto level j rest) = prettyOnto level j rest := by
  obtain ⟨c, cs, htext, hspace, -⟩ := exists_prettyOnto_eq_cons level j rest
  rw [htext, skipSpace_cons hspace]

theorem skipSpace_indent_prettyOnto (level inner : Nat) (j : Json) (rest : List Char) :
    skipSpace (indent level ++ prettyOnto inner j rest) = prettyOnto inner j rest :=
  (skipSpace_indent ..).trans (skipSpace_prettyOnto ..)

/-! ## Values -/

/-- Fuel that is enough for reading what was written in front of a rest. -/
def Suffices (fuel : Nat) (text rest : List Char) : Prop :=
  2 * text.length ≤ 2 * rest.length + fuel

/-- With some fuel a value is read back. -/
def ReadsValues (fuel : Nat) : Prop :=
  ∀ (depth : Nat) {level : Nat} {j : Json} {cs rest : List Char}, EndsNumber rest →
    skipSpace cs = prettyOnto level j rest → Suffices fuel (prettyOnto level j rest) rest →
    value fuel depth cs = if j.depth ≤ depth then (reread? j).map (·, rest) else none

/-- With some fuel the items of an array are read back. -/
def ReadsItems (fuel : Nat) : Prop :=
  ∀ (depth : Nat) {level : Nat} {a : Json} {as : List Json} {cs rest : List Char},
    skipSpace cs = prettyOnto (level + 1) a (prettyItemsOnto level as rest) →
    Suffices fuel (prettyOnto (level + 1) a (prettyItemsOnto level as rest)) rest →
    items fuel depth cs =
      if depthItems (a :: as) ≤ depth then (rereadItems? (a :: as)).map (·, rest) else none

/-- The text of members, the first one without a comma. -/
def membersText (level : Nat) (k : String) (a : Json) (as : List (String × Json))
    (rest : List Char) : List Char :=
  quoteChars k.toList ++ ':' :: ' ' :: prettyOnto (level + 1) a (prettyMembersOnto level as rest)

theorem skipSpace_membersText (level : Nat) (k : String) (a : Json)
    (as : List (String × Json)) (rest : List Char) :
    skipSpace (membersText level k a as rest) = membersText level k a as rest :=
  skipSpace_cons (by decide) _

theorem skipSpace_indent_membersText (inner level : Nat) (k : String) (a : Json)
    (as : List (String × Json)) (rest : List Char) :
    skipSpace (indent inner ++ membersText level k a as rest) = membersText level k a as rest :=
  (skipSpace_indent ..).trans (skipSpace_membersText ..)

/-- With some fuel the members of an object are read back. -/
def ReadsMembers (fuel : Nat) : Prop :=
  ∀ (depth : Nat) {level : Nat} {k : String} {a : Json} {as : List (String × Json)}
    {cs rest : List Char},
    skipSpace cs = membersText level k a as rest →
    Suffices fuel (membersText level k a as rest) rest →
    members fuel depth cs =
      if depthMembers ((k, a) :: as) ≤ depth then
        (rereadMembers? ((k, a) :: as)).map (·, rest)
      else none

theorem value_number {text rest cs : List Char} (h : IsNumber text) (hrest : EndsNumber rest)
    (hcs : skipSpace cs = text ++ rest) (fuel depth : Nat) :
    value (fuel + 1) depth cs = (number? text).map (·, rest) := by
  have happend := numberText?_append h hrest
  obtain ⟨c, more, rfl, hc⟩ := head?_of_isNumber h
  have hplain : c ≠ 'n' ∧ c ≠ 't' ∧ c ≠ 'f' ∧ c ≠ '"' ∧ c ≠ '[' ∧ c ≠ '{' := by
    rcases hc with rfl | hc
    · decide
    · refine ⟨?_, ?_, ?_, ?_, ?_, ?_⟩ <;>
        (rintro rfl; exact absurd hc (by decide))
  unfold value
  rw [hcs, List.cons_append] at *
  split <;> try simp_all
  rw [number?]
  cases numberText? (c :: more) <;> rfl

/-- A text is read up to its closing quote. -/
theorem stringBody_quoteChars {s : String} {fuel : Nat} {rest : List Char}
    (h : Suffices (fuel + 1) (quoteChars s.toList ++ rest) rest) :
    stringBody fuel [] (s.toList.flatMap escapeChar ++ '"' :: rest) = some (s, rest) := by
  have hlength := length_le_flatMap s.toList
  simp only [Suffices, quoteChars, List.length_append, List.length_cons, List.length_nil] at h
  rw [stringBody_flatMap (by omega)]
  simp

theorem value_str {s : String} {fuel : Nat} {cs rest : List Char}
    (hcs : skipSpace cs = quoteChars s.toList ++ rest)
    (h : Suffices (fuel + 1) (quoteChars s.toList ++ rest) rest) (depth : Nat) :
    value (fuel + 1) depth cs = some (str s, rest) := by
  have hquoted : quoteChars s.toList ++ rest =
      '"' :: (s.toList.flatMap escapeChar ++ '"' :: rest) := by
    simp [quoteChars]
  unfold value
  rw [hcs, hquoted]
  simp only [stringBody_quoteChars h, Option.map_some]

theorem value_arr {cs more text : List Char} (hcs : skipSpace cs = '[' :: more)
    (hmore : skipSpace more = text) (htext : text.head? ≠ some ']') (fuel depth : Nat) :
    value (fuel + 1) depth cs =
      if depth = 0 then none
      else (items fuel (depth - 1) text).map fun (as, cs) => (arr as, cs) := by
  unfold value
  rw [hcs]
  simp only [hmore]
  split
  · rfl
  · split
    · exact absurd rfl htext
    · rfl

theorem value_obj {cs more text : List Char} (hcs : skipSpace cs = '{' :: more)
    (hmore : skipSpace more = text) (htext : text.head? ≠ some '}') (fuel depth : Nat) :
    value (fuel + 1) depth cs =
      if depth = 0 then none
      else (members fuel (depth - 1) text).map fun (as, cs) => (obj (Dict.ofList as), cs) := by
  unfold value
  rw [hcs]
  simp only [hmore]
  split
  · rfl
  · split
    · exact absurd rfl htext
    · rfl

/-- One level is taken off the room for nesting before what lies inside is read. -/
theorem map_ite_depth {α β : Type} (inside depth : Nat) (read : Option α) (f : α → β) :
    (if depth = 0 then none else (if inside ≤ depth - 1 then read else none).map f) =
      if inside + 1 ≤ depth then read.map f else none := by
  by_cases hdepth : depth = 0
  · rw [if_pos hdepth, if_neg (by omega)]
  · rw [if_neg hdepth]
    by_cases hinside : inside ≤ depth - 1
    · rw [if_pos hinside, if_pos (by omega)]
    · rw [if_neg hinside, if_neg (by omega), Option.map_none]

theorem readsValues_succ {fuel : Nat} (hitems : ReadsItems fuel) (hmembers : ReadsMembers fuel) :
    ReadsValues (fuel + 1) := by
  intro depth level j cs rest hrest hcs hfuel
  match j with
  | null | bool true | bool false =>
      unfold value
      rw [hcs]
      simp [prettyOnto, compactOnto, reread?, Json.depth]
  | int i =>
      simpa [reread?, Json.depth] using
        value_number (isNumber_intChars i) hrest hcs fuel depth
  | float x =>
      simpa [reread?, Json.depth] using
        value_number (isNumber_render x) hrest hcs fuel depth
  | str s => simpa [reread?, Json.depth] using value_str hcs hfuel depth
  | arr [] | obj [] =>
      unfold value
      rw [hcs]
      cases depth <;> simp [prettyOnto, reread?, rereadItems?, rereadMembers?, Json.depth,
        depthItems, depthMembers, skipSpace, isSpace, Dict.ofList, Dict.overlay]
  | arr (a :: as) =>
      have hhead : (prettyOnto (level + 1) a (prettyItemsOnto level as rest)).head? ≠
          some ']' := by
        obtain ⟨c, _, htext, _, hc⟩ :=
          exists_prettyOnto_eq_cons (level + 1) a (prettyItemsOnto level as rest)
        simpa [htext] using hc
      have hinside : Suffices fuel (prettyOnto (level + 1) a (prettyItemsOnto level as rest))
          rest := by
        simp only [Suffices, prettyOnto, List.length_cons, List.length_append] at hfuel ⊢
        omega
      rw [value_arr hcs (skipSpace_indent_prettyOnto ..) hhead,
        hitems _ (skipSpace_prettyOnto ..) hinside, map_ite_depth]
      simp only [Json.depth, reread?, Option.map_map]
      rfl
  | obj ((k, a) :: as) =>
      have hinside : Suffices fuel (membersText level k a as rest) rest := by
        simp only [Suffices, membersText, prettyOnto, List.length_cons, List.length_append]
          at hfuel ⊢
        omega
      rw [value_obj hcs (skipSpace_indent_membersText ..) (by simp [membersText, quoteChars]),
        hmembers _ (skipSpace_membersText ..) hinside, map_ite_depth]
      simp only [Json.depth, reread?, Option.map_map]
      rfl

theorem readsItems_succ {fuel : Nat} (hvalue : ReadsValues fuel) (hitems : ReadsItems fuel) :
    ReadsItems (fuel + 1) := by
  intro depth level a as cs rest hcs hfuel
  have hlonger := length_prettyOnto (level + 1) a (prettyItemsOnto level as rest)
  have hfirst : Suffices fuel (prettyOnto (level + 1) a (prettyItemsOnto level as rest))
      (prettyItemsOnto level as rest) := by
    have := length_prettyItemsOnto level as rest
    simp only [Suffices] at hfuel ⊢
    omega
  rw [items, hvalue _ (endsNumber_prettyItemsOnto ..) hcs hfirst, depthItems, rereadItems?]
  by_cases hdepth : a.depth ≤ depth
  · rw [if_pos hdepth]
    cases reread? a with
    | none => simp
    | some b =>
        cases as with
        | nil =>
            simp [prettyItemsOnto, skipSpace_indent, skipSpace_cons, isSpace, depthItems, hdepth,
              rereadItems?]
        | cons a' as =>
            have hmore : Suffices fuel
                (prettyOnto (level + 1) a' (prettyItemsOnto level as rest)) rest := by
              simp only [Suffices, prettyItemsOnto, List.length_cons, List.length_append]
                at hfuel hlonger ⊢
              omega
            have hread := hitems depth
              (skipSpace_indent_prettyOnto (level + 1) ..) hmore
            simp only [prettyItemsOnto, Option.map_some,
              skipSpace_cons (by decide : isSpace ',' = false), hread, max_le_iff, hdepth, true_and]
            split
            · cases rereadItems? (a' :: as) <;> rfl
            · rfl
  · rw [if_neg hdepth, if_neg (by omega)]

/-- The name of a member takes fuel for its own text only. -/
theorem suffices_key {fuel level : Nat} {k : String} {a : Json} {as : List (String × Json)}
    {rest : List Char} (h : Suffices fuel (membersText level k a as rest) rest) :
    ∀ text, Suffices fuel (quoteChars k.toList ++ text) text := by
  have hfirst := length_prettyOnto (level + 1) a (prettyMembersOnto level as rest)
  have hmore := length_prettyMembersOnto level as rest
  intro text
  simp only [Suffices, membersText, List.length_append, List.length_cons] at h ⊢
  omega

theorem not_suffices_zero (level : Nat) (k : String) (a : Json) (as : List (String × Json))
    (rest : List Char) : ¬Suffices 0 (membersText level k a as rest) rest := by
  intro h
  have hkey := suffices_key h []
  simp [Suffices, quoteChars] at hkey

/-- The value of a member takes less fuel than the member. -/
theorem suffices_member {fuel level : Nat} {k : String} {a : Json} {as : List (String × Json)}
    {rest : List Char} (h : Suffices (fuel + 1) (membersText level k a as rest) rest) :
    Suffices fuel (prettyOnto (level + 1) a (prettyMembersOnto level as rest))
      (prettyMembersOnto level as rest) := by
  have hmore := length_prettyMembersOnto level as rest
  simp only [Suffices, membersText, List.length_append, List.length_cons] at h ⊢
  omega

/-- The members behind a member take less fuel than all of them. -/
theorem suffices_more {fuel level : Nat} {k k' : String} {a a' : Json}
    {as : List (String × Json)} {rest : List Char}
    (h : Suffices (fuel + 1) (membersText level k a ((k', a') :: as) rest) rest) :
    Suffices fuel (membersText level k' a' as rest) rest := by
  have hlonger := length_prettyOnto (level + 1) a (prettyMembersOnto level ((k', a') :: as) rest)
  simp only [Suffices, membersText, prettyMembersOnto, List.length_append, List.length_cons]
    at h hlonger ⊢
  omega

theorem members_succ {k : String} {level fuel depth : Nat} {a : Json}
    {as : List (String × Json)} {cs rest : List Char}
    (hcs : skipSpace cs = membersText level k a as rest)
    (hfuel : Suffices (fuel + 1) (membersText level k a as rest) rest) :
    members (fuel + 1) depth cs =
      (value fuel depth
          (' ' :: prettyOnto (level + 1) a (prettyMembersOnto level as rest))).bind fun (a, cs) =>
        match skipSpace cs with
        | '}' :: cs => some ([(k, a)], cs)
        | ',' :: cs => (members fuel depth cs).map fun (as, cs) => ((k, a) :: as, cs)
        | _ => none := by
  have hkey := stringBody_quoteChars (suffices_key hfuel
    (':' :: ' ' :: prettyOnto (level + 1) a (prettyMembersOnto level as rest)))
  have htext : membersText level k a as rest = '"' :: (k.toList.flatMap escapeChar ++ '"' ::
      ':' :: ' ' :: prettyOnto (level + 1) a (prettyMembersOnto level as rest)) := by
    simp [membersText, quoteChars]
  rw [members, hcs, htext]
  simp only [hkey, skipSpace_cons (by decide : isSpace ':' = false)]
  cases value fuel depth _ <;> rfl

theorem readsMembers_succ {fuel : Nat} (hvalue : ReadsValues fuel)
    (hmembers : ReadsMembers fuel) : ReadsMembers (fuel + 1) := by
  intro depth level k a as cs rest hcs hfuel
  have hblank : skipSpace (' ' :: prettyOnto (level + 1) a (prettyMembersOnto level as rest)) =
      prettyOnto (level + 1) a (prettyMembersOnto level as rest) :=
    skipSpace_prettyOnto ..
  rw [members_succ hcs hfuel,
    hvalue _ (endsNumber_prettyMembersOnto ..) hblank (suffices_member hfuel), depthMembers,
    rereadMembers?]
  by_cases hdepth : a.depth ≤ depth
  · rw [if_pos hdepth]
    cases reread? a with
    | none => simp
    | some b =>
        match as with
        | [] =>
            simp [prettyMembersOnto, skipSpace_indent, skipSpace_cons, isSpace, depthMembers,
              hdepth, rereadMembers?]
        | (k', a') :: as =>
            have hread := hmembers depth
              (skipSpace_indent_membersText (level + 1) ..) (suffices_more hfuel)
            simp only [prettyMembersOnto, Option.map_some, Option.bind_some,
              skipSpace_cons (by decide : isSpace ',' = false), max_le_iff, hdepth, true_and]
            change (members fuel depth (indent (level + 1) ++
              membersText level k' a' as rest)).map _ = _
            rw [hread]
            split
            · cases rereadMembers? ((k', a') :: as) <;> rfl
            · rfl
  · rw [if_neg hdepth, if_neg (by omega), Option.bind_none]

/-- Enough fuel reads back whatever was written. -/
theorem reads (fuel : Nat) : ReadsValues fuel ∧ ReadsItems fuel ∧ ReadsMembers fuel := by
  -- A reader calls the others with one less, so the three go up together.
  induction fuel with
  | zero =>
      refine ⟨?_, ?_, ?_⟩
      · intro depth level j cs rest _ _ hfuel
        have := length_prettyOnto level j rest
        simp only [Suffices] at hfuel
        omega
      · intro depth level a as cs rest _ hfuel
        have := length_prettyOnto (level + 1) a (prettyItemsOnto level as rest)
        have := length_prettyItemsOnto level as rest
        simp only [Suffices] at hfuel
        omega
      · intro depth level k a as cs rest _ hfuel
        exact (not_suffices_zero level k a as rest hfuel).elim
  | succ fuel ih =>
      obtain ⟨hvalue, hitems, hmembers⟩ := ih
      exact ⟨readsValues_succ hitems hmembers, readsItems_succ hvalue hitems,
        readsMembers_succ hvalue hmembers⟩

/-! ## Whole texts -/

/-- A text that was written is read back, unless it is nested too deep. -/
theorem parse?_pretty (j : Json) :
    parse? j.pretty = if j.depth ≤ maxDepth then j.reread? else none := by
  have hread := (reads (2 * (prettyOnto 0 j []).length + 2)).1 maxDepth
    endsNumber_nil (skipSpace_prettyOnto 0 j []) (by simp [Suffices])
  rw [parse?, pretty, String.toList_ofList, parseChars?, hread]
  by_cases hdepth : j.depth ≤ maxDepth
  · rw [if_pos hdepth, if_pos hdepth]
    cases j.reread? <;> rfl
  · rw [if_neg hdepth, if_neg hdepth]

theorem wantedMembers_succ {wanted : List String} {k : String} {level fuel : Nat} {a : Json}
    {as found : List (String × Json)} {cs rest : List Char} (hwanted : k ∈ wanted)
    (hfresh : k ∉ found.map Prod.fst) (hcs : skipSpace cs = membersText level k a as rest)
    (hfuel : Suffices (fuel + 1) (membersText level k a as rest) rest) :
    wantedMembers wanted (fuel + 1) found cs =
      match (value fuel (maxDepth - 1)
          (' ' :: prettyOnto (level + 1) a (prettyMembersOnto level as rest))).map
          fun (j, cs) => (found ++ [(k, j)], cs) with
      | none => none
      | some (found, cs) =>
          match skipSpace cs with
          | '}' :: cs => some (found, cs)
          | ',' :: cs => wantedMembers wanted fuel found cs
          | _ => none := by
  have hkey := stringBody_quoteChars (suffices_key hfuel
    (':' :: ' ' :: prettyOnto (level + 1) a (prettyMembersOnto level as rest)))
  have htext : membersText level k a as rest = '"' :: (k.toList.flatMap escapeChar ++ '"' ::
      ':' :: ' ' :: prettyOnto (level + 1) a (prettyMembersOnto level as rest)) := by
    simp [membersText, quoteChars]
  have hmissing : Dict.has found k = false := by
    rw [Dict.has, List.any_eq_false]
    intro e he hk
    exact hfresh (List.mem_map.mpr ⟨e, he, by simpa using hk⟩)
  rw [wantedMembers, hcs, htext]
  simp only [hkey, skipSpace_cons (by decide : isSpace ':' = false), hmissing,
    List.contains_iff_mem.mpr hwanted, if_true, Bool.false_eq_true, if_false]
  rfl

/-- Members that are wanted, each once, are read one after another. -/
theorem wantedMembers_membersText {wanted : List String} {fuel level : Nat} {k : String}
    {a : Json} {as : List (String × Json)} {cs rest : List Char} (found : List (String × Json))
    (hwanted : ∀ name ∈ k :: as.map Prod.fst, name ∈ wanted)
    (hfresh : (found.map Prod.fst ++ k :: as.map Prod.fst).Nodup)
    (hcs : skipSpace cs = membersText level k a as rest)
    (hfuel : Suffices fuel (membersText level k a as rest) rest) :
    wantedMembers wanted fuel found cs =
      if depthMembers ((k, a) :: as) ≤ maxDepth - 1 then
        (rereadMembers? ((k, a) :: as)).map fun read => (found ++ read, rest)
      else none := by
  -- The found members grow at the end, and `hfresh` keeps their names apart from those to come.
  induction fuel generalizing k a as found cs with
  | zero => exact (not_suffices_zero level k a as rest hfuel).elim
  | succ fuel ih =>
      have hk : k ∉ found.map Prod.fst := fun hmem =>
        (List.nodup_append.mp hfresh).2.2 k hmem k List.mem_cons_self rfl
      have hblank : skipSpace (' ' :: prettyOnto (level + 1) a
          (prettyMembersOnto level as rest)) = _ :=
        skipSpace_prettyOnto ..
      rw [wantedMembers_succ (hwanted k List.mem_cons_self) hk hcs hfuel,
        (reads fuel).1 _ (endsNumber_prettyMembersOnto ..) hblank (suffices_member hfuel),
        depthMembers, rereadMembers?]
      by_cases hdepth : a.depth ≤ maxDepth - 1
      · rw [if_pos hdepth]
        cases reread? a with
        | none => simp
        | some b =>
            match as with
            | [] =>
                simp [prettyMembersOnto, skipSpace_indent, skipSpace_cons, isSpace, depthMembers,
                  hdepth, rereadMembers?]
            | (k', a') :: as =>
                have hrest : ((found ++ [(k, b)]).map Prod.fst ++
                    k' :: as.map Prod.fst).Nodup := by
                  simpa using hfresh
                have hread := ih (found ++ [(k, b)])
                  (fun name hname => hwanted name (List.mem_cons_of_mem k hname)) hrest
                  (skipSpace_indent_membersText (level + 1) ..) (suffices_more hfuel)
                simp only [prettyMembersOnto, Option.map_some,
                  skipSpace_cons (by decide : isSpace ',' = false), max_le_iff, hdepth, true_and]
                change wantedMembers wanted fuel (found ++ [(k, b)]) (indent (level + 1) ++
                  membersText level k' a' as rest) = _
                rw [hread]
                split
                · cases rereadMembers? ((k', a') :: as) <;> simp
                · rfl
      · rw [if_neg hdepth, if_neg (by omega)]
        rfl

/-- Of a record with a member, only the wanted members are read. -/
theorem parseRecord?_of_quoted (wanted : List String) {text : String} {cs tail : List Char}
    (htext : text.toList = '{' :: cs) (hcs : skipSpace cs = '"' :: tail) :
    parseRecord? wanted text =
      (wantedMembers wanted (2 * text.toList.length + 2) [] ('"' :: tail)).bind fun found =>
        if (skipSpace found.2).isEmpty then some (obj found.1) else none := by
  rw [parseRecord?]
  simp only [htext, skipSpace_cons (by decide : isSpace '{' = false), hcs]
  split
  · next found rest hbody =>
      change wantedMembers wanted _ [] ('"' :: tail) = _ at hbody
      rw [hbody]
      rfl
  · next hbody =>
      change wantedMembers wanted _ [] ('"' :: tail) = _ at hbody
      rw [hbody]
      rfl

/-- A record whose members are wanted is read back member by member, in the order in
which it was written. -/
theorem parseRecord?_pretty (wanted : List String) {members : List (String × Json)}
    (hne : members ≠ []) (hwanted : ∀ name ∈ members.map Prod.fst, name ∈ wanted)
    (hnames : (members.map Prod.fst).Nodup) :
    parseRecord? wanted (obj members).pretty =
      if depthMembers members ≤ maxDepth - 1 then (rereadMembers? members).map obj else none := by
  obtain ⟨⟨k, a⟩, as, rfl⟩ := List.exists_cons_of_ne_nil hne
  have htext : (obj ((k, a) :: as)).pretty.toList =
      '{' :: (indent 1 ++ membersText 0 k a as []) := by
    rw [pretty, String.toList_ofList]
    rfl
  have hfuel : Suffices (2 * (obj ((k, a) :: as)).pretty.toList.length + 2)
      (membersText 0 k a as []) [] := by
    rw [htext, Suffices, List.length_cons, List.length_append]
    omega
  obtain ⟨tail, htail⟩ : ∃ tail, membersText 0 k a as [] = '"' :: tail := ⟨_, rfl⟩
  have hread := wantedMembers_membersText [] hwanted hnames
    (skipSpace_membersText 0 k a as []) hfuel
  rw [htail] at hread
  rw [parseRecord?_of_quoted wanted htext ((skipSpace_indent_membersText ..).trans htail), hread]
  by_cases hdepth : depthMembers ((k, a) :: as) ≤ maxDepth - 1
  · rw [if_pos hdepth, if_pos hdepth]
    cases rereadMembers? ((k, a) :: as) <;> rfl
  · rw [if_neg hdepth, if_neg hdepth]
    rfl

/-! ## Values that come back unchanged -/

mutual

/-- A value that its text gives back: its integers fit 64 bits, its floating-point
numbers have texts that are read as the same numbers, and the members of its objects
are in the order of their names. -/
def IsValue : Json → Prop
  | int i => -Int.ofNat (twoTo 63) ≤ i ∧ i < Int.ofNat (twoTo 64)
  | float x => number? (Decimal.render x) = some (float x)
  | arr items => AreValues items
  | obj members => Dict.Sorted members ∧ HoldsValues members
  | null | bool _ | str _ => True

def AreValues : List Json → Prop
  | [] => True
  | a :: as => a.IsValue ∧ AreValues as

def HoldsValues : List (String × Json) → Prop
  | [] => True
  | (_, a) :: as => a.IsValue ∧ HoldsValues as

end

mutual

theorem IsValue.reread? {j : Json} (h : j.IsValue) : j.reread? = some j := by
  match j with
  | null | bool _ | str _ => rfl
  | int i =>
      obtain ⟨hlow, hhigh⟩ := h
      exact number?_intChars hlow hhigh
  | float x => exact h
  | arr as => rw [Json.reread?, AreValues.rereadItems? h, Option.map_some]
  | obj as =>
      obtain ⟨hsorted, hmembers⟩ := h
      rw [Json.reread?, HoldsValues.rereadMembers? hmembers, Option.map_some,
        Dict.ofList_of_sorted hsorted]

theorem AreValues.rereadItems? {as : List Json} (h : AreValues as) :
    Json.rereadItems? as = some as := by
  match as with
  | [] => rfl
  | a :: as =>
      obtain ⟨hfirst, hmore⟩ := h
      rw [Json.rereadItems?, hfirst.reread?, AreValues.rereadItems? hmore]
      rfl

theorem HoldsValues.rereadMembers? {as : List (String × Json)} (h : HoldsValues as) :
    Json.rereadMembers? as = some as := by
  match as with
  | [] => rfl
  | (k, a) :: as =>
      obtain ⟨hfirst, hmore⟩ := h
      rw [Json.rereadMembers?, hfirst.reread?, HoldsValues.rereadMembers? hmore]
      rfl

end

/-- A member is nested less deep than its object. -/
theorem depth_lt_of_get? {members : Members} {key : String} {a : Json}
    (h : Dict.get? members key = some a) : a.depth < (obj members).depth := by
  rw [depth]
  induction members with
  | nil => simp at h
  | cons m members ih =>
      rw [Dict.get?_cons] at h
      rw [depthMembers]
      split at h
      · obtain rfl := Option.some.inj h
        omega
      · have := ih h
        omega

/-- Arrays inside each other. -/
def nested : Nat → Json
  | 0 => null
  | n + 1 => arr [nested n]

theorem depth_nested (n : Nat) : (nested n).depth = n := by
  induction n with
  | zero => rfl
  | succ n ih => simp [nested, depth, depthItems, ih]

theorem isValue_nested (n : Nat) : (nested n).IsValue := by
  induction n with
  | zero => trivial
  | succ n ih => exact ⟨ih, trivial⟩

end ScaffoldRunner.Json
