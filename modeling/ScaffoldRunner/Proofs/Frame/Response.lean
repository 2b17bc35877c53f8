import Mathlib.Data.List.DropRight
import ScaffoldRunner.Frame.Response
import ScaffoldRunner.Proofs.Json.Reading
import ScaffoldRunner.Proofs.Redaction
import ScaffoldRunner.Proofs.Workspace.Path

/-!
# The object on the last lines

The lines of an output are looked through from its end.  The answer is the last one of
them that holds an object, and an object that is printed on a line of its own is found
unless too many lines follow it.
-/

namespace ScaffoldRunner

namespace Text

theorem isBlank_of_isSpace {c : Char} (h : Json.isSpace c = true) : isBlank c = true := by
  simp only [Json.isSpace, Bool.or_eq_true, decide_eq_true_eq] at h
  rcases h with ((rfl | rfl) | rfl) | rfl <;> decide

/-- The return at the end of a line is a blank of its own. -/
theorem trimChars_dropReturn (line : List Char) :
    trimChars (dropReturn line) = trimChars line := by
  unfold dropReturn
  split
  · next hlast =>
      obtain ⟨front, rfl⟩ := List.getLast?_eq_some_iff.mp hlast
      rw [List.dropLast_concat, trimChars, trimChars]
      by_cases hblank : trimStart front = []
      · rw [Redaction.trimStart_append_of_nil hblank, hblank]
        rfl
      · rw [Redaction.trimStart_append hblank]
        exact (List.rdropWhile_concat_pos isBlank _ _ (by decide)).symm
  · rfl

theorem lineChars_of_splitAt {cs last : List Char} {front : List (List Char)}
    (h : splitAt '\n' cs = front ++ [last]) :
    lineChars cs = front.map dropReturn ++ if last = [] then [] else [last] := by
  rw [lineChars, h]
  simp only [List.getLast?_concat, List.dropLast_concat]
  cases last with
  | nil => exact (List.append_nil _).symm
  | cons c last => rfl

end Text

namespace Response

/-! ## Lines -/

/-- The pieces of a text without their outer blanks, those that are left with nothing
dropped. -/
def solid (pieces : List (List Char)) : List (List Char) :=
  (pieces.map Text.trimChars).filter fun line => !line.isEmpty

theorem solid_append (front back : List (List Char)) :
    solid (front ++ back) = solid front ++ solid back := by
  rw [solid, List.map_append, List.filter_append]
  rfl

/-- How a line ends does not show in it. -/
theorem solidLines_eq (stdout : String) :
    solidLines stdout = solid (Text.splitAt '\n' stdout.toList) := by
  obtain ⟨front, last, hsplit⟩ :=
    (List.eq_nil_or_concat' _).resolve_left (Text.splitAt_ne_nil '\n' stdout.toList)
  have hfront : solid (front.map Text.dropReturn) = solid front := by
    have htrim : Text.trimChars ∘ Text.dropReturn = Text.trimChars :=
      funext Text.trimChars_dropReturn
    rw [solid, List.map_map, htrim, solid]
  change solid (Text.lineChars stdout.toList) = _
  -- What follows the last line feed is a line unless it is empty, and then it is dropped anyway.
  rw [Text.lineChars_of_splitAt hsplit, hsplit, solid_append, solid_append, hfront]
  cases last <;> rfl

theorem solidLines_lineFeed (before after : String) :
    solidLines (before ++ "\n" ++ after) = solidLines before ++ solidLines after := by
  have htext : (before ++ "\n" ++ after).toList = before.toList ++ '\n' :: after.toList := by
    simp
  rw [solidLines_eq, htext, Text.splitAt_append, solid_append, solidLines_eq, solidLines_eq]

/-- The object that a line holds. -/
def parsed? (line : List Char) : Option Members :=
  (Json.parseChars? line).bind Json.members?

theorem parsed?_eq_some {line : List Char} {r : Members} (h : parsed? line = some r) :
    Json.parseChars? line = some (.obj r) := by
  obtain ⟨j, hj, hr⟩ := Option.bind_eq_some_iff.mp h
  cases j <;> cases hr
  exact hj

/-- No line with an object on it is passed over for the looks of its ends. -/
theorem looksLikeObject_of_parsed? {stdout : String} {line : List Char}
    (hline : line ∈ solidLines stdout) (h : (parsed? line).isSome) : looksLikeObject line := by
  obtain ⟨raw, -, rfl⟩ := List.mem_map.mp (List.mem_of_mem_filter hline)
  obtain ⟨r, hr⟩ := Option.isSome_iff_exists.mp h
  have hsolid {c : Char} (hc : Text.isBlank c = false) : Json.isSpace c = false :=
    Bool.eq_false_iff.mpr fun hspace => by simp [Text.isBlank_of_isSpace hspace] at hc
  obtain ⟨hfirst, hlast⟩ := Json.braces_of_parseChars? (parsed?_eq_some hr)
    (fun c hc => hsolid (Text.head?_trimChars hc)) (fun c hc => hsolid (Text.getLast?_trimEnd hc))
  rw [looksLikeObject, hfirst, hlast]
  rfl

theorem objectOn?_eq_parsed? {stdout : String} {line : List Char}
    (hline : line ∈ solidLines stdout) : objectOn? line = parsed? line := by
  rw [objectOn?]
  split
  · rfl
  · next hlooks =>
      have hnone := mt (looksLikeObject_of_parsed? hline) hlooks
      exact (Option.not_isSome_iff_eq_none.mp hnone).symm

/-! ## The answer -/

theorem lastObject?_eq_findSome? (stdout : String) (window : Nat) :
    lastObject? stdout window = ((solidLines stdout).reverse.take window).findSome? parsed? := by
  rw [lastObject?, ← List.head?_filterMap, ← List.head?_filterMap]
  refine congrArg List.head? (List.filterMap_congr fun line hline => ?_)
  exact objectOn?_eq_parsed? (List.mem_reverse.mp (List.mem_of_mem_take hline))

/-- The last object that the last lines of an output hold, read from the front. -/
def lastParsed? (stdout : String) (window : Nat) : Option Members :=
  (((solidLines stdout).rtake window).filterMap parsed?).getLast?

theorem lastObject?_eq_lastParsed? (stdout : String) (window : Nat) :
    lastObject? stdout window = lastParsed? stdout window := by
  rw [lastObject?_eq_findSome?, lastParsed?, List.rtake_eq_reverse_take_reverse,
    List.filterMap_reverse, List.getLast?_reverse, List.head?_filterMap]

/-- What an output answers: an object on a line behind which fewer lines follow than are
looked through, none of them with an object. -/
def IsAnswer (stdout : String) (window : Nat) (r : Members) : Prop :=
  ∃ before line after, solidLines stdout = before ++ line :: after ∧ after.length < window ∧
    parsed? line = some r ∧ ∀ later ∈ after, parsed? later = none

theorem lastObject?_eq_some_iff {stdout : String} {window : Nat} {r : Members} :
    lastObject? stdout window = some r ↔ IsAnswer stdout window r := by
  rw [lastObject?_eq_findSome?, List.findSome?_eq_some_iff]
  constructor
  · rintro ⟨newer, line, older, hsplit, hline, hnewer⟩
    have hlines := congrArg List.reverse
      (List.take_append_drop window (solidLines stdout).reverse)
    rw [hsplit, List.reverse_reverse] at hlines
    refine ⟨((solidLines stdout).reverse.drop window).reverse ++ older.reverse, line,
      newer.reverse, ?_, ?_, hline, fun later hlater => hnewer later (List.mem_reverse.mp hlater)⟩
    · simpa using hlines.symm
    · have hlength := List.length_take_le window (solidLines stdout).reverse
      rw [hsplit, List.length_append, List.length_cons] at hlength
      rw [List.length_reverse]
      omega
  · rintro ⟨before, line, after, hlines, hlength, hline, hafter⟩
    obtain ⟨more, rfl⟩ := Nat.exists_eq_add_of_lt hlength
    refine ⟨after.reverse, line, before.reverse.take more, ?_, hline,
      fun later hlater => hafter later (List.mem_reverse.mp hlater)⟩
    rw [hlines, List.reverse_append, List.reverse_cons, List.append_assoc, Nat.add_assoc,
      ← List.length_reverse, List.take_length_add_append]
    rfl

theorem IsAnswer.ordered {stdout : String} {window : Nat} {r : Members}
    (h : IsAnswer stdout window r) : (Json.obj r).Everywhere Json.IsOrdered := by
  obtain ⟨_, line, _, -, -, hline, -⟩ := h
  exact Json.everywhere_of_parseChars? (parsed?_eq_some hline)

/-! ## Printed objects -/

/-- A printed object is a line of its own without blanks at its ends. -/
theorem solidLines_compact {members : Members} (hvalue : (Json.obj members).IsValue) :
    solidLines (Json.obj members).compact = [(Json.obj members).compact.toList] := by
  obtain ⟨hfirst, hlast⟩ := Json.braces_of_compactOnto hvalue
  have hstart : Text.trimStart (Json.compactOnto (.obj members) []) =
      Json.compactOnto (.obj members) [] := by
    refine Text.trimStart_eq_self fun c hc => ?_
    obtain rfl := Option.some.inj (hfirst.symm.trans hc)
    decide
  have hend : Text.trimEnd (Json.compactOnto (.obj members) []) =
      Json.compactOnto (.obj members) [] := by
    refine Text.trimEnd_eq_self fun c hc => ?_
    obtain rfl := Option.some.inj (hlast.symm.trans hc)
    decide
  have hline := Text.splitAt_of_notMem
    (Json.lineFeed_notMem_compactOnto (j := .obj members) List.not_mem_nil)
  rw [solidLines_eq, Json.compact, String.toList_ofList, hline, solid, List.map_singleton,
    Text.trimChars, hstart, hend]
  refine List.filter_cons_of_pos ?_
  cases members <;> rfl

theorem parsed?_compact {members : Members} (hvalue : (Json.obj members).IsValue)
    (hdepth : (Json.obj members).depth ≤ Json.maxDepth) :
    parsed? (Json.obj members).compact.toList = some members := by
  rw [parsed?, Json.compact, String.toList_ofList, Json.parseChars?_compactOnto hvalue hdepth]
  rfl

/-- Nothing is found among lines without an object. -/
theorem lastObject?_eq_none {stdout : String} {window : Nat}
    (h : ∀ line ∈ (solidLines stdout).rtake window, parsed? line = none) :
    lastObject? stdout window = none := by
  rw [lastObject?_eq_lastParsed?, lastParsed?, List.getLast?_eq_none_iff,
    List.filterMap_eq_nil_iff]
  exact h

/-- Only the lines at the end are looked at. -/
theorem mem_of_mem_rtake {α : Type} {front back : List α} {n : Nat} {a : α}
    (hlong : n ≤ back.length) (h : a ∈ (front ++ back).rtake n) : a ∈ back := by
  rw [List.rtake, List.length_append, Nat.add_sub_assoc hlong, List.drop_length_add_append] at h
  exact List.mem_of_mem_drop h

/-- The answer is the last object on the last lines, whatever its line looks like, and an
object that is printed on a line of its own is found unless too many lines follow it. -/
theorem lastObject?_inverts_printing :
    (∀ stdout window, lastObject? stdout window = lastParsed? stdout window) ∧
      (∀ stdout, ∀ line ∈ solidLines stdout, (parsed? line).isSome → looksLikeObject line) ∧
      ∀ (window : Nat) (members : Members) (before after : String),
        (Json.obj members).IsValue → (Json.obj members).depth ≤ 127 →
        (∀ line ∈ solidLines after, parsed? line = none) →
        lastObject? (before ++ "\n" ++ (Json.obj members).compact ++ "\n" ++ after) window =
          if (solidLines after).length < window then some members else none := by
  refine ⟨lastObject?_eq_lastParsed?, fun _ _ => looksLikeObject_of_parsed?, ?_⟩
  intro window members before after hvalue hdepth hafter
  have hlines : solidLines (before ++ "\n" ++ (Json.obj members).compact ++ "\n" ++ after) =
      solidLines before ++ (Json.obj members).compact.toList :: solidLines after := by
    rw [solidLines_lineFeed, solidLines_lineFeed, solidLines_compact hvalue, List.append_assoc]
    rfl
  by_cases hwindow : (solidLines after).length < window
  · rw [if_pos hwindow, lastObject?_eq_some_iff]
    exact ⟨_, _, _, hlines, hwindow, parsed?_compact hvalue hdepth, hafter⟩
  · rw [if_neg hwindow]
    refine lastObject?_eq_none fun line hline => hafter line ?_
    rw [hlines, List.append_cons] at hline
    exact mem_of_mem_rtake (Nat.le_of_not_lt hwindow) hline

/-- An object whose text has a line feed that is escaped when it is printed. -/
def noted : Members := [("count", .int 1), ("text", .str "a\nb")]

theorem lastObject?_noted :
    lastObject? ("draft \x7b" ++ "\n" ++ (Json.obj noted).compact ++ "\n" ++ "done\r\n\r\n") 2 =
      some noted := by
  have hvalue : (Json.obj noted).IsValue := by
    refine ⟨by decide, ⟨by decide, by decide⟩, trivial, trivial⟩
  have hafter : ∀ line ∈ solidLines "done\r\n\r\n", parsed? line = none := by
    decide +kernel
  rw [lastObject?_inverts_printing.2.2 2 noted "draft \x7b" _ hvalue (by decide) hafter]
  exact if_pos (by decide +kernel)

/-! ## Reported failures -/

/-- A response that says that it failed and why. -/
def ReportsFailure (r : Members) : Prop :=
  r.get? "success" = some (.bool false) ∧ (r.get? "error").isSome

instance : DecidablePred ReportsFailure := fun r =>
  inferInstanceAs (Decidable (r.get? "success" = some (.bool false) ∧ (r.get? "error").isSome))

theorem reportedFailure?_eq_none_iff {r : Members} :
    reportedFailure? r = none ↔ ¬ReportsFailure r := by
  rw [reportedFailure?, ReportsFailure]
  by_cases hsuccess : r.get? "success" = some (.bool false)
  · rw [if_pos hsuccess, Option.map_eq_none_iff, Option.isSome_iff_ne_none]
    simp [hsuccess]
  · rw [if_neg hsuccess]
    simp [hsuccess]

/-- The reason that a response gives for a failure, as a text. -/
def reasonText : Json → String
  | .str s => s
  | j => j.compact

theorem reportedFailure?_of_reports {r : Members} {reason : Json}
    (hsuccess : r.get? "success" = some (.bool false)) (hreason : r.get? "error" = some reason) :
    reportedFailure? r = some (reasonText reason) := by
  rw [reportedFailure?, if_pos hsuccess, hreason, Option.map_some]
  cases reason <;> rfl

theorem normalize_eq_ok_iff {r o : Members} :
    normalize r = .ok o ↔ ¬ReportsFailure r ∧ flatten r = o := by
  rw [← reportedFailure?_eq_none_iff, normalize]
  cases reportedFailure? r <;> simp

theorem exists_normalize_eq_error_iff {r : Members} :
    (∃ e, normalize r = .error e) ↔ ReportsFailure r := by
  rw [← not_not (a := ReportsFailure r), ← reportedFailure?_eq_none_iff, normalize]
  cases reportedFailure? r <;> simp

def nested? (r : Members) : Option Members := (r.get? "result").bind Json.members?

theorem nested?_eq_some_iff {r inner : Members} :
    nested? r = some inner ↔ r.get? "result" = some (.obj inner) := by
  rw [nested?, Option.bind_eq_some_iff]
  constructor
  · rintro ⟨j, hj, hinner⟩
    cases j <;> cases hinner
    exact hj
  · exact fun h => ⟨_, h, rfl⟩

theorem flatten_eq (r : Members) :
    flatten r = (nested? r).elim r (Dict.overlay r) := by
  unfold flatten
  split
  · next inner hinner => rw [nested?_eq_some_iff.mpr hinner, Option.elim_some]
  · next hplain =>
      have hnone : nested? r = none :=
        Option.eq_none_iff_forall_ne_some.mpr fun inner h => hplain inner (nested?_eq_some_iff.mp h)
      rw [hnone, Option.elim_none]

/-- A name is looked up in the nested result first, and then in the response. -/
theorem get?_flatten {r : Members} (hr : (Json.obj r).Everywhere Json.IsOrdered) (key : String) :
    (flatten r).get? key = ((nested? r).bind (Dict.get? · key)).or (r.get? key) := by
  rw [flatten_eq]
  cases hnested : nested? r with
  | none => rfl
  | some inner =>
      have hmember := Dict.mem_of_get? (nested?_eq_some_iff.mp hnested)
      have hsorted : Dict.Sorted inner := ((Json.everywhere_obj.mp hr).2 _ hmember).self
      rw [Option.elim_some, Option.bind_some, Dict.get?_overlay, hsorted.last?_eq]

/-- The output that comes of a response: the response itself, or, where its nested result
has a name, with the value that this gives to the name. -/
structure IsOverlaid (r o : Members) : Prop where
  sorted : o.Sorted
  lookup : ∀ key, o.get? key = ((nested? r).bind (Dict.get? · key)).or (r.get? key)

theorem isOverlaid_iff {r o : Members} (hr : (Json.obj r).Everywhere Json.IsOrdered) :
    IsOverlaid r o ↔ flatten r = o := by
  have hsorted : Dict.Sorted (flatten r) := by
    rw [flatten_eq]
    cases nested? r with
    | none => exact hr.self
    | some inner => exact Dict.sorted_overlay hr.self inner
  constructor
  · intro h
    exact hsorted.ext h.sorted fun key => (get?_flatten hr key).trans (h.lookup key).symm
  · rintro rfl
    exact ⟨hsorted, get?_flatten hr⟩

/-- An accepted response does not report a failure itself.  What becomes of it does, and
would not be accepted again, when its nested result reports a failure, with the reason in
either of the two, or brings the reason for a failure that the response gave none for. -/
theorem normalize_reports_iff {r o : Members} (hr : (Json.obj r).Everywhere Json.IsOrdered)
    (h : normalize r = .ok o) :
    ¬ReportsFailure r ∧ ((∃ e, normalize o = .error e) ↔ ReportsFailure o) ∧
      (ReportsFailure o ↔ ∃ inner : Members, r.get? "result" = some (.obj inner) ∧
        (inner.get? "success" = some (.bool false) ∧
            ((inner.get? "error").isSome ∨ (r.get? "error").isSome) ∨
          inner.get? "success" = none ∧ r.get? "success" = some (.bool false) ∧
            (inner.get? "error").isSome)) := by
  obtain ⟨hreported, rfl⟩ := normalize_eq_ok_iff.mp h
  refine ⟨hreported, exists_normalize_eq_error_iff, ?_⟩
  simp only [← nested?_eq_some_iff]
  rw [ReportsFailure] at hreported
  rw [ReportsFailure, get?_flatten hr, get?_flatten hr, Option.isSome_or, Bool.or_eq_true]
  cases nested? r with
  | none => simpa using hreported
  | some inner =>
      simp only [Option.bind_some, Option.some.injEq, exists_eq_left']
      -- What the nested result says of success stands for the response, if it says anything.
      cases hsuccess : inner.get? "success" with
      | none =>
          simp only [Option.none_or, reduceCtorEq, false_and, true_and, false_or]
          constructor
          · rintro ⟨hfalse, hinner | houter⟩
            · exact ⟨hfalse, hinner⟩
            · exact absurd ⟨hfalse, houter⟩ hreported
          · exact fun ⟨hfalse, hinner⟩ => ⟨hfalse, .inl hinner⟩
      | some j => simp only [Option.some_or, reduceCtorEq, false_and, or_false]

/-- A response whose nested result does not agree with it. -/
def contradictory : Members :=
  [("result", .obj [("error", .str "x"), ("success", .bool false)]), ("success", .bool true)]

theorem reportsFailure_contradictory : ReportsFailure (flatten contradictory) :=
  (normalize_reports_iff (r := contradictory) (by decide) rfl).2.2.mpr
    ⟨_, rfl, .inl (by decide)⟩

/-- A nested result can say that it failed although the response does not. -/
theorem normalize_accepts_failure :
    ¬∀ r o : Members, (Json.obj r).Everywhere Json.IsOrdered → normalize r = .ok o →
      ¬ReportsFailure o := by
  intro h
  exact h contradictory _ (by decide) rfl (by decide)

end Response

end ScaffoldRunner
