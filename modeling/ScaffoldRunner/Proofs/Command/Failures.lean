import Mathlib.Data.List.Forall2
import Mathlib.Data.List.Induction
import ScaffoldRunner.Command.Diagnosis
import ScaffoldRunner.Proofs.Report.Counts
import ScaffoldRunner.Publication

/-!
# Failures in a history

The summary of a history and the diagnosis of the failures in it are drawn up apart from
each other, and they agree: on how many failures there are, on how many of each kind, on
how many are urgent and on what to do.  What a summary counts is counted for each
history by itself when two of them follow one another.

What to do is a list of texts, of which the first of equal ones is kept.  It is the same
list whether it is freed of duplicates once or several times while it is gathered.
-/

namespace ScaffoldRunner

/-! ## Lists without duplicates -/

section Distinct

variable {kept xs ys : List String} {x y : String}

theorem distinctOnto_append (kept xs ys : List String) :
    distinctOnto kept (xs ++ ys) = distinctOnto (distinctOnto kept xs) ys := by
  induction xs generalizing kept with
  | nil => rfl
  | cons x xs ih => exact ih _

theorem mem_distinctOnto : x ∈ distinctOnto kept xs ↔ x ∈ kept ∨ x ∈ xs := by
  induction xs generalizing kept with
  | nil => simp [distinctOnto]
  | cons y xs ih =>
      rw [distinctOnto, ih, List.mem_cons]
      by_cases hy : kept.contains y = true
      · have hmem : y ∈ kept := List.contains_iff_mem.mp hy
        rw [if_pos hy]
        constructor
        · exact Or.imp_right .inr
        · rintro (hx | rfl | hx)
          · exact .inl hx
          · exact .inl hmem
          · exact .inr hx
      · rw [if_neg hy, List.mem_append, List.mem_singleton, or_assoc]

theorem distinctOnto_concat_of_mem (h : x ∈ distinctOnto kept xs) :
    distinctOnto kept (xs ++ [x]) = distinctOnto kept xs := by
  rw [distinctOnto_append]
  exact if_pos (List.contains_iff_mem.mpr h)

theorem distinctOnto_concat_of_notMem (h : x ∉ distinctOnto kept xs) :
    distinctOnto kept (xs ++ [x]) = distinctOnto kept xs ++ [x] := by
  rw [distinctOnto_append]
  exact if_neg (mt List.contains_iff_mem.mp h)

/-- Duplicates that are left out do not matter later on. -/
theorem distinctOnto_distinct (kept xs : List String) :
    distinctOnto kept (distinct xs) = distinctOnto kept xs := by
  induction xs using List.reverseRecOn with
  | nil => rfl
  | append_singleton xs x ih =>
      by_cases hx : x ∈ distinctOnto [] xs
      · have hagain : x ∈ distinctOnto kept xs :=
          mem_distinctOnto.mpr (.inr ((mem_distinctOnto.mp hx).resolve_left (List.not_mem_nil)))
        rw [distinct, distinctOnto_concat_of_mem hx, ← distinct, ih,
          distinctOnto_concat_of_mem hagain]
      · rw [distinct, distinctOnto_concat_of_notMem hx, ← distinct, distinctOnto_append, ih,
          ← distinctOnto_append]

theorem distinct_append (xs ys : List String) :
    distinct (distinct xs ++ distinct ys) = distinct (xs ++ ys) := by
  rw [distinct, distinctOnto_append, distinctOnto_distinct, distinctOnto_distinct,
    ← distinctOnto_append, ← distinct]

theorem nodup_distinctOnto (h : kept.Nodup) (xs : List String) : (distinctOnto kept xs).Nodup := by
  induction xs generalizing kept with
  | nil => exact h
  | cons x xs ih =>
      rw [distinctOnto]
      by_cases hx : kept.contains x = true
      · rw [if_pos hx]
        exact ih h
      · rw [if_neg hx]
        have hnew : x ∉ kept := mt List.contains_iff_mem.mpr hx
        refine ih (List.nodup_append.mpr ⟨h, List.pairwise_singleton _ x, ?_⟩)
        rintro y hy _ hlast rfl
        exact hnew (List.mem_singleton.mp hlast ▸ hy)

theorem nodup_distinct (xs : List String) : (distinct xs).Nodup :=
  nodup_distinctOnto List.nodup_nil xs

theorem distinctOnto_eq (kept xs : List String) :
    distinctOnto kept xs = kept ++ (xs.filter fun x => !kept.contains x).eraseDups := by
  induction xs generalizing kept with
  | nil => simp [distinctOnto]
  | cons x xs ih =>
      rw [distinctOnto, ih, List.filter_cons]
      by_cases hx : kept.contains x = true
      · simp only [hx, if_true, Bool.not_true, Bool.false_eq_true, if_false]
      · rw [if_neg hx, if_pos (by simpa using hx), List.eraseDups_cons, List.filter_filter,
          List.append_assoc, List.singleton_append]
        congr 3
        refine List.filter_congr fun y _ => ?_
        rw [← Bool.not_or, List.contains_append, List.contains_cons, List.contains_nil,
          Bool.or_false, Bool.or_comm]

/-- Of equal texts the first one is kept. -/
theorem distinct_eq_eraseDups (xs : List String) : distinct xs = xs.eraseDups := by
  rw [distinct, distinctOnto_eq, List.nil_append]
  congr 1
  exact List.filter_eq_self.mpr fun _ _ => rfl

theorem mem_distinct : x ∈ distinct xs ↔ x ∈ xs :=
  mem_distinctOnto.trans (or_iff_right List.not_mem_nil)

theorem distinct_concat_of_mem (h : x ∈ xs) : distinct (xs ++ [x]) = distinct xs :=
  distinctOnto_concat_of_mem (mem_distinct.mpr h)

theorem distinct_concat_of_notMem (h : x ∉ xs) : distinct (xs ++ [x]) = distinct xs ++ [x] :=
  distinctOnto_concat_of_notMem (mt mem_distinct.mp h)

/-- What is freed of duplicates has none to be freed of. -/
theorem distinct_distinct (xs : List String) : distinct (distinct xs) = distinct xs :=
  distinctOnto_distinct [] xs

theorem distinct_append_left (xs ys : List String) :
    distinct (distinct xs ++ ys) = distinct (xs ++ ys) := by
  rw [distinct, distinctOnto_append, distinctOnto_distinct, ← distinctOnto_append, ← distinct]

/-- The items of a list at the places in front of which they do not occur. -/
def firstOccurrences (xs : List String) : List String :=
  (xs.zipIdx.filter fun place => place.1 ∉ xs.take place.2).map Prod.fst

theorem firstOccurrences_concat (xs : List String) (x : String) :
    firstOccurrences (xs ++ [x]) = firstOccurrences xs ++ if x ∈ xs then [] else [x] := by
  have hfront : (xs.zipIdx.filter fun place => place.1 ∉ (xs ++ [x]).take place.2) =
      xs.zipIdx.filter fun place => place.1 ∉ xs.take place.2 := by
    refine List.filter_congr fun place hplace => ?_
    have hle : place.2 ≤ xs.length := Nat.le_of_lt (List.snd_lt_of_mem_zipIdx hplace)
    rw [List.take_append_of_le_length hle]
  rw [firstOccurrences, List.zipIdx_append, List.filter_append, List.map_append, hfront,
    ← firstOccurrences]
  by_cases hx : x ∈ xs <;> simp [hx]

theorem distinct_eq_firstOccurrences (xs : List String) : distinct xs = firstOccurrences xs := by
  induction xs using List.reverseRecOn with
  | nil => rfl
  | append_singleton xs x ih =>
      rw [firstOccurrences_concat]
      by_cases hx : x ∈ xs
      · rw [distinct_concat_of_mem hx, if_pos hx, List.append_nil, ih]
      · rw [distinct_concat_of_notMem hx, if_neg hx, ih]

theorem distinct_sublist (xs : List String) : (distinct xs).Sublist xs := by
  have hfronts : (firstOccurrences xs).Sublist (xs.zipIdx.map Prod.fst) :=
    List.filter_sublist.map Prod.fst
  rwa [List.zipIdx_map_fst, ← distinct_eq_firstOccurrences] at hfronts

/-- What is kept stays in the order of the first occurrences. -/
theorem pairwise_distinct (xs : List String) :
    (distinct xs).Pairwise fun x y => xs.idxOf x < xs.idxOf y := by
  induction xs using List.reverseRecOn with
  | nil => exact .nil
  | append_singleton xs x ih =>
      have hkept : (distinct xs).Pairwise fun y z =>
          (xs ++ [x]).idxOf y < (xs ++ [x]).idxOf z := by
        refine ih.imp_of_mem fun hy hz hlt => ?_
        rwa [List.idxOf_append_of_mem (mem_distinct.mp hy),
          List.idxOf_append_of_mem (mem_distinct.mp hz)]
      by_cases hx : x ∈ xs
      · rwa [distinct_concat_of_mem hx]
      · rw [distinct_concat_of_notMem hx]
        refine List.pairwise_append.mpr ⟨hkept, List.pairwise_singleton _ x, fun y hy z hz => ?_⟩
        obtain rfl := List.mem_singleton.mp hz
        rw [List.idxOf_append_of_mem (mem_distinct.mp hy), List.idxOf_append_of_notMem hx]
        have hplace := List.idxOf_lt_length_iff.mpr (mem_distinct.mp hy)
        omega

theorem pair_sublist_distinct_iff :
    [x, y].Sublist (distinct xs) ↔ x ∈ xs ∧ y ∈ xs ∧ xs.idxOf x < xs.idxOf y := by
  have hordered {a b : String} (h : [a, b].Sublist (distinct xs)) : xs.idxOf a < xs.idxOf b :=
    List.pairwise_iff_forall_sublist.mp (pairwise_distinct xs) h
  constructor
  · intro h
    have hmem (a : String) (ha : a ∈ [x, y]) : a ∈ xs := mem_distinct.mp (h.subset ha)
    exact ⟨hmem x (by simp), hmem y (by simp), hordered h⟩
  · rintro ⟨hx, hy, hlt⟩
    obtain ⟨front, back, hsplit⟩ := List.append_of_mem (mem_distinct.mpr hx)
    have hmem : y ∈ distinct xs := mem_distinct.mpr hy
    rw [hsplit, List.mem_append, List.mem_cons] at hmem
    rcases hmem with hfront | rfl | hback
    · have hbefore : [y, x].Sublist (distinct xs) := by
        rw [hsplit]
        exact (List.singleton_sublist.mpr hfront).append (List.singleton_sublist.mpr (by simp))
      exact absurd (hordered hbefore) (Nat.lt_asymm hlt)
    · exact absurd hlt (Nat.lt_irrefl _)
    · rw [hsplit]
      exact ((List.singleton_sublist.mpr hback).cons_cons x).trans (List.sublist_append_right _ _)

end Distinct

/-! ## Ascending lists -/

section Ascending

variable {x y : String} {xs : List String}

theorem mem_insertAscending : y ∈ insertAscending x xs ↔ y = x ∨ y ∈ xs := by
  induction xs with
  | nil => simp [insertAscending]
  | cons z xs ih =>
      rw [insertAscending]
      by_cases hlt : x < z
      · rw [if_pos hlt, List.mem_cons]
      · rw [if_neg hlt]
        by_cases heq : x = z
        · subst heq
          rw [if_pos rfl, List.mem_cons]
          exact ⟨.inr, fun h => h.elim .inl id⟩
        · rw [if_neg heq, List.mem_cons, List.mem_cons, ih]
          exact or_left_comm

theorem pairwise_insertAscending (h : xs.Pairwise (· < ·)) (x : String) :
    (insertAscending x xs).Pairwise (· < ·) := by
  induction xs with
  | nil => exact List.pairwise_singleton _ x
  | cons z xs ih =>
      obtain ⟨hhead, htail⟩ := List.pairwise_cons.mp h
      rw [insertAscending]
      by_cases hlt : x < z
      · rw [if_pos hlt]
        refine List.pairwise_cons.mpr ⟨?_, h⟩
        intro y hy
        rcases List.mem_cons.mp hy with rfl | hy
        · exact hlt
        · exact String.lt_trans hlt (hhead y hy)
      · rw [if_neg hlt]
        by_cases heq : x = z
        · rw [if_pos heq]
          exact h
        · have hgt : z < x :=
            String.not_le.mp fun hle => heq (String.le_antisymm hle (String.not_lt.mp hlt))
          rw [if_neg heq]
          refine List.pairwise_cons.mpr ⟨?_, ih htail⟩
          intro y hy
          rcases mem_insertAscending.mp hy with rfl | hy
          · exact hgt
          · exact hhead y hy

theorem mem_ascending : y ∈ ascending xs ↔ y ∈ xs := by
  suffices h : ∀ sorted : List String,
      y ∈ xs.foldl (fun sorted x => insertAscending x sorted) sorted ↔ y ∈ sorted ∨ y ∈ xs by
    rw [ascending, h, or_iff_right List.not_mem_nil]
  induction xs with
  | nil => simp
  | cons x xs ih =>
      intro sorted
      rw [List.foldl_cons, ih, mem_insertAscending, List.mem_cons, or_assoc]
      exact or_left_comm

/-- Texts are brought into order, each of them once. -/
theorem pairwise_ascending (xs : List String) : (ascending xs).Pairwise (· < ·) := by
  suffices h : ∀ sorted : List String, sorted.Pairwise (· < ·) →
      (xs.foldl (fun sorted x => insertAscending x sorted) sorted).Pairwise (· < ·) from
    h [] List.Pairwise.nil
  induction xs with
  | nil => exact fun _ h => h
  | cons x xs ih => exact fun sorted h => ih _ (pairwise_insertAscending h x)

end Ascending

/-! ## Summary and diagnosis -/

/-- A report and a diagnosis say the same of some failures. -/
structure FailureReport.Agrees (report : FailureReport) (diagnosis : Diagnosis) : Prop where
  total : report.totalFailures = diagnosis.totalFailures
  kinds : report.failuresByType = diagnosis.categories.mapValues List.length
  recommendations : report.recommendations = diagnosis.recommendations
  urgent : report.criticalFailures = diagnosis.actionItems.countP fun i => i.priority = .high

/-- Counting a failure and entering it into its category are the same step. -/
theorem Diagnosis.mapValues_foldl_categorize (failed : List CommandResult)
    (categories : Dict (List CategoryEntry)) :
    (failed.foldl categorize categories).mapValues List.length =
      (failed.map CommandResult.label).foldl countLabel (categories.mapValues List.length) := by
  induction failed generalizing categories with
  | nil => rfl
  | cons r failed ih =>
      have hstep : (categorize categories r).mapValues List.length =
          countLabel (categories.mapValues List.length) r.label := by
        rw [categorize, Dict.modify, Dict.mapValues_insert, countLabel, Dict.modify,
          Dict.get?_mapValues]
        cases categories.get? r.label <;> simp
      rw [List.foldl_cons, ih, hstep, List.map_cons, List.foldl_cons]

/-- Only escalated failures make urgent things to do. -/
theorem ActionItem.countP_ofFailures (failed : List CommandResult) (orphans dependencies : Nat) :
    (ofFailures failed orphans dependencies).countP (fun i => i.priority = .high) =
      failed.countP fun r => r.severity.isCritical := by
  have hfix : (fun r : CommandResult => decide ((fix r).priority = .high)) = fun _ => true := rfl
  have hresolve : (if 0 < dependencies then [resolve dependencies] else []).countP
      (fun i => i.priority = .high) = 0 := by
    split <;> rfl
  have htidy : (if 0 < orphans then [tidy orphans] else []).countP
      (fun i => i.priority = .high) = 0 := by
    split <;> rfl
  rw [ofFailures, List.countP_append, List.countP_append, hresolve, htidy, List.countP_map,
    Function.comp_def, hfix, List.countP_true, ← List.countP_eq_length_filter]
  rfl

theorem FailureReport.agrees_ofFailures (now : Instant) (failed : List CommandResult) :
    (ofFailures failed).Agrees (.ofFailures now failed) := by
  constructor
  case total | recommendations => rfl
  case kinds => exact (Diagnosis.mapValues_foldl_categorize failed []).symm
  case urgent =>
    rw [Diagnosis.ofFailures, ActionItem.countP_ofFailures, List.countP_eq_length_filter]
    exact List.length_map ..

/-- An entry tells what is known of a result, with the error output cut to its first 500
characters. -/
structure FailureEntry.Tells (entry : FailureEntry) (r : CommandResult) : Prop where
  command : entry.command = r.command
  returnCode : entry.returnCode = r.returnCode
  failureKind : entry.failureKind = r.failureKind
  severity : entry.severity = r.severity
  front : entry.stderr.toList <+: r.stderr.toList
  length : entry.stderr.length = min 500 r.stderr.length

theorem FailureEntry.tells_ofResult (r : CommandResult) : (ofResult r).Tells r where
  command := rfl
  returnCode := rfl
  failureKind := rfl
  severity := rfl
  front := by
    rw [ofResult, truncateChars, String.toList_ofList]
    exact List.take_prefix ..
  length := by
    rw [ofResult, truncateChars, String.length_ofList, List.length_take, String.length_toList]
    rfl

/-! ## Histories one after another -/

theorem CommandResult.failures_append (history more : List CommandResult) :
    failures (history ++ more) = failures history ++ failures more :=
  List.filter_append ..

namespace FailureSummary

/-- How many escalated failures a summary tells of. -/
def urgent (summary : FailureSummary) : Nat :=
  (summary.report?.map FailureReport.criticalFailures).getD 0

/-- How many failures of a kind a summary tells of. -/
def ofKind (summary : FailureSummary) (label : String) : Nat :=
  (summary.report?.bind fun report => report.failuresByType.get? label).getD 0

/-- What a summary recommends. -/
def advice (summary : FailureSummary) : List String :=
  (summary.report?.map FailureReport.recommendations).getD []

variable (history more : List CommandResult)

theorem report?_eq_none_iff :
    (ofHistory history).report? = none ↔ CommandResult.failures history = [] := by
  rw [report?_ofHistory, ite_eq_left_iff]
  simp

theorem urgent_ofHistory :
    (ofHistory history).urgent =
      (CommandResult.failures history).countP fun r => r.severity.isCritical := by
  rw [urgent, report?_ofHistory]
  split
  · next hnone => rw [hnone]; rfl
  · rw [List.countP_eq_length_filter]
    exact List.length_map ..

theorem ofKind_ofHistory (label : String) :
    (ofHistory history).ofKind label =
      (CommandResult.failures history).countP fun r => r.label = label := by
  have hcounts := (countsFailures_ofHistory history).kinds
  rw [ofKind]
  cases hreport : (ofHistory history).report? with
  | none => rw [(report?_eq_none_iff history).mp hreport]; rfl
  | some report => exact hcounts report hreport label

theorem advice_ofHistory :
    (ofHistory history).advice =
      distinct ((CommandResult.failures history).flatMap CommandResult.recommendations) := by
  rw [advice, report?_ofHistory]
  split
  · next hnone => rw [hnone]; rfl
  · rfl

/-- The summary of a history agrees with the diagnosis of its failures, and lists them with
their error output cut.  Of two histories one after the other it tells of as many failures
as of both of them, of each kind and of the urgent ones, and it recommends what either of
them does, the first of equal texts kept. -/
theorem ofHistory_agrees (now : Instant) (history more : List CommandResult) :
    let failed := CommandResult.failures history
    let whole := ofHistory (history ++ more)
    ((ofHistory history).report? = none ↔ failed = []) ∧
    (∀ report, (ofHistory history).report? = some report →
      report.Agrees (.ofFailures now failed) ∧
        List.Forall₂ FailureEntry.Tells report.allFailures failed) ∧
    whole.count = (ofHistory history).count + (ofHistory more).count ∧
    whole.urgent = (ofHistory history).urgent + (ofHistory more).urgent ∧
    (∀ label, whole.ofKind label =
      (ofHistory history).ofKind label + (ofHistory more).ofKind label) ∧
    whole.advice = ((ofHistory history).advice ++ (ofHistory more).advice).eraseDups := by
  intro failed whole
  refine ⟨report?_eq_none_iff history, ?_, ?_, ?_, ?_, ?_⟩
  · intro report hreport
    have hsome : failed ≠ [] := by
      intro hnone
      rw [(report?_eq_none_iff history).mpr hnone] at hreport
      simp at hreport
    rw [report?_ofHistory, if_neg hsome] at hreport
    obtain rfl := Option.some.inj hreport
    refine ⟨FailureReport.agrees_ofFailures now failed, ?_⟩
    exact List.forall₂_map_left_iff.mpr
      (List.forall₂_same.mpr fun r _ => FailureEntry.tells_ofResult r)
  · rw [(countsFailures_ofHistory _).count, (countsFailures_ofHistory _).count,
      (countsFailures_ofHistory _).count, List.countP_append]
  · rw [urgent_ofHistory, urgent_ofHistory, urgent_ofHistory, CommandResult.failures_append,
      List.countP_append]
  · intro label
    rw [ofKind_ofHistory, ofKind_ofHistory, ofKind_ofHistory, CommandResult.failures_append,
      List.countP_append]
  · rw [advice_ofHistory, advice_ofHistory, advice_ofHistory, CommandResult.failures_append,
      List.flatMap_append, ← distinct_eq_eraseDups, distinct_append]

/-- A success, a failure that is escalated and one without a kind. -/
def mixedHistory : List CommandResult :=
  [⟨"git status", 0, "", "", 0, true, none, [], [], .low⟩,
    ⟨"npm test", 137, "", "Out of memory", 0, false, some .memoryIssue, ["a", "b"], [], .critical⟩,
    ⟨"make", 2, "", "make: ***", 0, false, none, ["b", "c"], [], .medium⟩]

theorem ofHistory_mixedHistory_agrees :
    ∃ report, (ofHistory mixedHistory).report? = some report ∧
      report.totalFailures = 2 ∧ report.criticalFailures = 1 ∧
      report.failuresByType = [("memory_issue", 1), ("unknown", 1)] ∧
      report.recommendations = ["a", "b", "c"] ∧
      (ofHistory (mixedHistory ++ mixedHistory)).count = 4 := by
  obtain ⟨hsilent, hreport, hcount, -⟩ := ofHistory_agrees ⟨0, 0⟩ mixedHistory mixedHistory
  cases hsome : (ofHistory mixedHistory).report? with
  | none => exact absurd (hsilent.mp hsome) (List.cons_ne_nil _ _)
  | some report =>
      obtain ⟨hagrees, -⟩ := hreport report hsome
      refine ⟨report, rfl, ?_, ?_, ?_, ?_, hcount⟩
      · rw [hagrees.total]
        rfl
      · rw [hagrees.urgent]
        rfl
      · rw [hagrees.kinds]
        decide
      · rw [hagrees.recommendations]
        decide

end FailureSummary

/-! ## Advice in stages -/

namespace Publication

theorem advice_eq (summary : FailureSummary) (commitFailure : Option CommitFailure) :
    advice summary commitFailure =
      (summary.advice ++ (commitFailure.map CommitFailure.recommendations).getD []).eraseDups := by
  rw [← distinct_eq_eraseDups, FailureSummary.advice]
  unfold advice
  cases summary.report? <;> cases commitFailure <;> rfl

/-- The advice on a publication is freed of duplicates twice, which is as good as once. -/
theorem advice_ofHistory (history : List CommandResult) (commitFailure : Option CommitFailure) :
    advice (.ofHistory history) commitFailure =
      distinct ((CommandResult.failures history).flatMap CommandResult.recommendations ++
        (commitFailure.map CommitFailure.recommendations).getD []) := by
  rw [advice_eq, ← distinct_eq_eraseDups, FailureSummary.advice_ofHistory, distinct_append_left]

end Publication

/-- Of equal texts the first one is kept, and what is kept stays in its order.  It does not
matter whether a part of the texts, or each of two parts, has been freed of duplicates
before, so the advice on a publication may be gathered in stages. -/
theorem distinct_keeps_first (xs : List String) :
    distinct xs = firstOccurrences xs ∧ (distinct xs).Nodup ∧ (∀ x, x ∈ distinct xs ↔ x ∈ xs) ∧
      (distinct xs).Sublist xs ∧
      (∀ x y, [x, y].Sublist (distinct xs) ↔ x ∈ xs ∧ y ∈ xs ∧ xs.idxOf x < xs.idxOf y) ∧
      distinct (distinct xs) = distinct xs ∧
      (∀ ys, distinct (xs ++ ys) = distinct (distinct xs ++ ys) ∧
        distinct (xs ++ ys) = distinct (distinct xs ++ distinct ys)) ∧
      ∀ history commitFailure, Publication.advice (.ofHistory history) commitFailure =
        distinct ((CommandResult.failures history).flatMap CommandResult.recommendations ++
          (commitFailure.map CommitFailure.recommendations).getD []) := by
  refine ⟨distinct_eq_firstOccurrences xs, nodup_distinct xs, fun x => mem_distinct,
    distinct_sublist xs, fun x y => pair_sublist_distinct_iff, distinct_distinct xs,
    fun ys => ?_, Publication.advice_ofHistory⟩
  exact ⟨(distinct_append_left xs ys).symm, (distinct_append xs ys).symm⟩

end ScaffoldRunner
