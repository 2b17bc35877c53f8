import Mathlib.Algebra.Ring.Nat
import ScaffoldRunner.Proofs.Dict
import ScaffoldRunner.Report.Documents

/-!
# What the parts of a report count

The same facts about a run are counted more than once: by the results of its
stages, by its audits, by the summary of the report and by the analysis of its
commands.  Each of them is stated here as a count over the log or over the
history that it was made from, so that they can be compared.
-/

namespace ScaffoldRunner

/-! ## Frames -/

theorem FrameTotals.foldl_add (parts : List FrameTotals) (start : FrameTotals) :
    parts.foldl add start =
      ⟨start.executed + (parts.map executed).sum, start.successful + (parts.map successful).sum,
        start.failed + (parts.map failed).sum⟩ := by
  induction parts generalizing start with
  | nil => rfl
  | cons part parts ih =>
      rw [List.foldl_cons, ih]
      simp [add, Nat.add_assoc]

/-- The totals of a run are the sums over its parts. -/
theorem FrameTotals.sum_eq (parts : List FrameTotals) :
    sum parts =
      ⟨(parts.map executed).sum, (parts.map successful).sum, (parts.map failed).sum⟩ := by
  rw [sum, foldl_add]
  simp

/-- Every frame that was run was successful or has failed. -/
theorem StageResult.executed_totals (result : StageResult) :
    result.totals.executed = result.totals.successful + result.totals.failed := by
  have hle : result.results.countP FrameEntry.success ≤ result.results.length :=
    List.countP_le_length
  change result.results.length = result.results.countP FrameEntry.success +
    (result.results.length - result.results.countP FrameEntry.success)
  omega

/-! ## Audits -/

/-- An audit counts the stages of a log and their frames. -/
structure Audit.Counts (a : Audit) (log : List StageRecord) : Prop where
  evaluated : a.stagesEvaluated = log.length
  successful : a.successfulStages = log.countP StageRecord.isSuccessful
  failed : a.failedStages = log.countP fun r => !r.isSuccessful
  framesExecuted : a.frames.executed = (log.map fun r => r.result.totals.executed).sum
  framesSuccessful : a.frames.successful = (log.map fun r => r.result.totals.successful).sum
  framesFailed : a.frames.failed = (log.map fun r => r.result.totals.failed).sum

theorem StageRecord.audit_counts (log : List StageRecord) (preserved : Option Json) :
    (audit log preserved).Counts log := by
  have hsuccessful : (audit log preserved).successfulStages = log.countP isSuccessful := by
    change (log.map isSuccessful).count true = _
    rw [List.count_eq_countP, List.countP_map]
    congr 1
    funext r
    simp
  have hevaluated : (audit log preserved).stagesEvaluated = log.length :=
    List.length_map ..
  have hframes : (audit log preserved).frames = _ := FrameTotals.sum_eq _
  have hlength := List.length_eq_countP_add_countP isSuccessful (l := log)
  constructor
  case evaluated => exact hevaluated
  case successful => exact hsuccessful
  case failed =>
    rw [Audit.failedStages, hevaluated, hsuccessful, hlength]
    simp
  case framesExecuted => simp [hframes, Function.comp_def]
  case framesSuccessful => simp [hframes, Function.comp_def]
  case framesFailed => simp [hframes, Function.comp_def]

/-- An audit depends on the results of a log, and not on when they were entered. -/
theorem StageRecord.audit_congr {log other : List StageRecord}
    (h : log.map StageRecord.result = other.map StageRecord.result) (preserved : Option Json) :
    audit log preserved = audit other preserved := by
  have hstages : log.map isSuccessful = other.map isSuccessful := by
    have hsuccesses := congrArg (List.map StageResult.isSuccessful) h
    rwa [List.map_map, List.map_map] at hsuccesses
  have hframes : frameTotals log = frameTotals other := by
    have htotals := congrArg (fun results => FrameTotals.sum (results.map StageResult.totals)) h
    simp only [List.map_map] at htotals
    exact htotals
  rw [audit, audit, hstages, hframes]

/-! ## Failed commands -/

def CommandResult.failures (history : List CommandResult) : List CommandResult :=
  history.filter fun r => !r.success

/-- How many failures a summary tells of. -/
def FailureSummary.count (summary : FailureSummary) : Nat :=
  (summary.report?.map FailureReport.totalFailures).getD 0

/-- The escalated failures that a summary tells of. -/
def FailureSummary.issues (summary : FailureSummary) : List CriticalIssue :=
  (summary.report?.map FailureReport.criticalIssues).getD []

theorem get?_foldl_countLabel (labels : List String) (counts : Dict Nat) (label : String) :
    ((labels.foldl countLabel counts).get? label).getD 0 =
      (counts.get? label).getD 0 + labels.count label := by
  induction labels generalizing counts with
  | nil => rfl
  | cons first labels ih =>
      have hfirst : (countLabel counts first).get? label =
          if label = first then some ((counts.get? first).getD 0 + 1) else counts.get? label :=
        Dict.get?_insert ..
      rw [List.foldl_cons, ih, hfirst, List.count_cons]
      by_cases hlabel : label = first
      · subst hlabel
        simp only [if_pos, beq_self_eq_true, Option.getD_some]
        omega
      · have hne : (first == label) = false := beq_false_of_ne (Ne.symm hlabel)
        simp [hlabel, hne]

/-- A summary tells of exactly the failures in a history, of all together, of
each kind, and of those that are escalated. -/
structure FailureSummary.CountsFailures (summary : FailureSummary)
    (history : List CommandResult) : Prop where
  count : summary.count = history.countP fun r => !r.success
  silent : summary.report? = none ↔ ∀ r ∈ history, r.success = true
  issues : summary.issues =
    ((CommandResult.failures history).filter fun r => r.severity.isCritical).map
      CriticalIssue.ofResult
  listed : ∀ report, summary.report? = some report →
    report.allFailures = (CommandResult.failures history).map FailureEntry.ofResult
  escalated : ∀ report, summary.report? = some report →
    report.criticalFailures = report.criticalIssues.length
  kinds : ∀ report, summary.report? = some report → ∀ label,
    (report.failuresByType.get? label).getD 0 =
      (CommandResult.failures history).countP fun r => r.label = label

theorem FailureSummary.report?_ofHistory (history : List CommandResult) :
    (ofHistory history).report? =
      if CommandResult.failures history = [] then none
      else some (.ofFailures (CommandResult.failures history)) := by
  unfold ofHistory CommandResult.failures
  cases history.filter (fun r => !r.success) with
  | nil => rfl
  | cons failure rest => rfl

theorem FailureSummary.countsFailures_ofHistory (history : List CommandResult) :
    (ofHistory history).CountsFailures history := by
  have hcount : history.countP (fun r => !r.success) = (CommandResult.failures history).length :=
    List.countP_eq_length_filter
  have hsilent : CommandResult.failures history = [] ↔ ∀ r ∈ history, r.success = true := by
    simp [CommandResult.failures]
  by_cases hnone : CommandResult.failures history = []
  · have hreport : (ofHistory history).report? = none := by
      rw [report?_ofHistory, if_pos hnone]
    constructor
    case count => rw [FailureSummary.count, hreport, hcount, hnone]; rfl
    case silent => exact ⟨fun _ => hsilent.mp hnone, fun _ => hreport⟩
    case issues => rw [FailureSummary.issues, hreport, hnone]; rfl
    case listed | escalated | kinds => simp [hreport]
  · have hreport : (ofHistory history).report? =
        some (.ofFailures (CommandResult.failures history)) := by
      rw [report?_ofHistory, if_neg hnone]
    constructor
    case count => rw [FailureSummary.count, hreport, hcount]; rfl
    case silent =>
      rw [hreport, ← hsilent]
      simp [hnone]
    case issues => rw [FailureSummary.issues, hreport]; rfl
    case listed =>
      intro report heq
      obtain rfl := Option.some.inj (hreport.symm.trans heq)
      rfl
    case escalated =>
      intro report heq
      obtain rfl := Option.some.inj (hreport.symm.trans heq)
      rfl
    case kinds =>
      intro report heq label
      obtain rfl := Option.some.inj (hreport.symm.trans heq)
      change (((CommandResult.failures history).map CommandResult.label).foldl countLabel []
        |>.get? label).getD 0 = _
      rw [get?_foldl_countLabel, List.count_eq_countP, List.countP_map]
      simp only [Dict.get?_nil, Option.getD_none, Nat.zero_add]
      exact List.countP_congr fun r _ => by simp

/-! ## Recommendations -/

theorem ExecutionSummary.isPoor_iff {s : ExecutionSummary} (h : s.totalStages = 10) :
    s.isPoor = true ↔ s.successfulStages < 8 := by
  have hpoor : s.isPoor = true ↔ 100 * s.successfulStages < 80 * 10 := by
    simp [isPoor, h, successThreshold]
  rw [hpoor]
  omega

theorem Recommendations.priorityActions_build (summary : ExecutionSummary)
    (commands : CommandAnalysis) :
    (build summary commands).priorityActions = commands.summary.issues := by
  unfold build FailureSummary.issues
  cases commands.summary.report? <;> rfl

theorem Recommendations.lowSuccessRate_build {summary : ExecutionSummary}
    (commands : CommandAnalysis) (h : summary.totalStages = 10) :
    (build summary commands).lowSuccessRate.isSome = true ↔ summary.successfulStages < 8 := by
  rw [← ExecutionSummary.isPoor_iff h]
  change (if summary.isPoor = true then some summary.successRate else none).isSome = true ↔ _
  by_cases hpoor : summary.isPoor = true
  · simp [hpoor]
  · simp [hpoor]

end ScaffoldRunner
