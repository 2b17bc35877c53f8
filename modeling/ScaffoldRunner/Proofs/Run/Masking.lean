import ScaffoldRunner.Proofs.Json.Everywhere
import ScaffoldRunner.Proofs.Run.Acts
import ScaffoldRunner.Proofs.Run.History

/-!
# What differs from run to run

No two runs have the same id or take place at the same time, their reports lie at
different paths, and the metrics go on from one run to the next.  Masked, a run, its
calls and its reports show nothing of that, and everything else as it was.  A run does
not look at what is masked: whatever it is entered, its log and the results that frames
are shown are the same behind the mask.
-/

namespace ScaffoldRunner

/-! ## Results of stages -/

/-- The outcome of an audit, but for the path of its report. -/
def AuditOutcome.masked (o : AuditOutcome) : AuditOutcome := { o with reportPath := "" }

namespace StageResult

/-- The result of a stage, but for the path of the audit's report. -/
def masked (r : StageResult) : StageResult :=
  if r.stage = .metaAudit then { r with audit := r.audit.map AuditOutcome.masked } else r

/-- Where the audit's report is found in the document of a result. -/
def reportPathPlace : List String := ["meta_audit", "report_path"]

variable (r : StageResult)

@[simp] theorem stage_masked : r.masked.stage = r.stage := by
  unfold masked
  split <;> rfl

@[simp] theorem results_masked : r.masked.results = r.results := by
  unfold masked
  split <;> rfl

@[simp] theorem totals_masked : r.masked.totals = r.totals := by
  rw [totals, totals, results_masked]

@[simp] theorem isSuccessful_masked : r.masked.isSuccessful = r.isSuccessful := by
  unfold masked
  split <;> rfl

/-- Two results that differ behind the mask are results of the audit. -/
theorem masked_of_ne {r : StageResult} (h : r.stage ≠ .metaAudit) : r.masked = r :=
  if_neg h

theorem isSuccessful_eq {r r' : StageResult} (h : r.masked = r'.masked) :
    r.isSuccessful = r'.isSuccessful := by
  rw [← isSuccessful_masked r, h, isSuccessful_masked]

/-- In the document of a result the mask is a text over the path of the report. -/
theorem toJson_masked {r : StageResult} (h : r.stage = .metaAudit) :
    r.masked.toJson = r.toJson.overwrite "" reportPathPlace := by
  have hplain {name : String} (hne : name ≠ "meta_audit") (f : Json → Json) (j : Option Json) :
      Dict.adjust "meta_audit" f (Json.optionalMember name j) = Json.optionalMember name j :=
    Json.adjust_optionalMember_of_ne hne j
  have haudit : (r.audit.map AuditOutcome.toJson).map (Json.overwrite "" ["report_path"]) =
      (r.audit.map AuditOutcome.masked).map AuditOutcome.toJson := by
    cases r.audit with
    | none => rfl
    | some outcome => rfl
  rw [masked, if_pos h, reportPathPlace, toJson, toJson, Json.overwrite]
  simp only [Dict.adjust_append, Json.adjust_optionalMember_self, haudit,
    hplain (by decide : "message" ≠ "meta_audit"), hplain (by decide : "retry" ≠ "meta_audit"),
    hplain (by decide : "publish" ≠ "meta_audit")]
  rfl

end StageResult

/-- The results of stages as frames are shown them, but for the path of the audit's
report. -/
def maskResults (results : Members) : Members :=
  Dict.adjust Stage.metaAudit.resultKey (Json.overwrite "" StageResult.reportPathPlace) results

/-- Behind the mask frames are shown the masked results. -/
theorem maskResults_insert (results : Members) (r : StageResult) :
    maskResults (results.insert r.stage.resultKey r.toJson.sorted) =
      (maskResults results).insert r.stage.resultKey r.masked.toJson.sorted := by
  rw [maskResults, Dict.adjust_insert]
  by_cases hstage : r.stage = .metaAudit
  · have hkey : r.stage.resultKey = Stage.metaAudit.resultKey := congrArg _ hstage
    rw [if_pos hkey, StageResult.toJson_masked hstage, Json.sorted_overwrite]
    rfl
  · have hkey : r.stage.resultKey ≠ Stage.metaAudit.resultKey :=
      fun h => hstage (Stage.resultKey_injective h)
    rw [if_neg hkey, StageResult.masked_of_ne hstage]
    rfl

/-! ## Runs -/

/-- The entry of a stage in the log, but for its time and the path of the audit's
report. -/
def StageRecord.masked (r : StageRecord) : StageRecord :=
  { r with result := r.result.masked, timestamp := default }

@[simp] theorem StageRecord.stage_masked (r : StageRecord) : r.masked.stage = r.stage :=
  r.result.stage_masked

@[simp] theorem StageRecord.isSuccessful_masked (r : StageRecord) :
    r.masked.isSuccessful = r.isSuccessful :=
  r.result.isSuccessful_masked

/-- The audit does not look behind the mask. -/
theorem StageRecord.audit_map_masked (log : List StageRecord) (preserved : Option Json) :
    audit (log.map masked) preserved = audit log preserved := by
  have htotals (r : StageRecord) : r.masked.result.totals = r.result.totals :=
    r.result.totals_masked
  simp only [audit, frameTotals, List.map_map, Function.comp_def, isSuccessful_masked, htotals]

/-- An entry, but for the path of the audit's report. -/
def Entry.masked (e : Entry) : Entry := { e with result := e.result.masked }

namespace Run

/-- A run, but for its id, the times and the path of the audit's report. -/
def masked (run : Run) : Run :=
  { run with
    id := ""
    previousResults := maskResults run.previousResults
    startTime := default
    log := run.log.map StageRecord.masked }

theorem map_masked_replaceIn (entry : StageRecord) (log : List StageRecord) :
    (replaceIn entry log).map StageRecord.masked =
      replaceIn entry.masked (log.map StageRecord.masked) := by
  induction log with
  | nil => rfl
  | cons r log ih =>
      rw [List.map_cons, replaceIn, replaceIn, StageRecord.stage_masked,
        StageRecord.stage_masked]
      split
      · rfl
      · rw [List.map_cons, ih]

/-- What is entered at any time is entered behind the mask. -/
theorem masked_enter (now : Instant) (e : Entry) (run : Run) :
    (run.enter now e).masked = run.masked.enter default e.masked := by
  have hresults := maskResults_insert run.previousResults e.result
  obtain ⟨repeated, result⟩ := e
  cases repeated with
  | true =>
      have hlog := map_masked_replaceIn { result := result, retried := true, timestamp := now }
        run.log
      simp [enter, replace, publishResult, masked, Entry.masked, hresults, hlog,
        StageRecord.masked]
  | false =>
      simp [enter, record, publishResult, masked, Entry.masked, hresults, StageRecord.masked]

/-- What a run has become is known but for what is masked. -/
theorem Reached.masked_eq {origin run : Run} {past : List Entry} (h : origin.Reached past run) :
    run.masked =
      (past.map Entry.masked).foldl (fun run e => run.enter default e) origin.masked := by
  induction h with
  | start => rfl
  | enter now e _ ih =>
      rw [masked_enter, ih, List.map_append, List.foldl_append]
      rfl

/-- Runs that start alike and are entered alike become alike. -/
theorem Reached.masked_eq_masked {origin origin' run run' : Run} {past past' : List Entry}
    (h : origin.Reached past run) (h' : origin'.Reached past' run')
    (horigin : origin.masked = origin'.masked)
    (hpast : past.map Entry.masked = past'.map Entry.masked) : run.masked = run'.masked := by
  rw [h.masked_eq, h'.masked_eq, horigin, hpast]

/-- The stages that were not successful are known behind the mask. -/
theorem failedStages_masked (run : Run) : run.masked.failedStages = run.failedStages := by
  simp [failedStages, masked, List.filter_map, Function.comp_def]

end Run

/-! ## Calls and acts -/

/-- A call, but for the path of the audit's report. -/
def FrameCall.masked (call : FrameCall) : FrameCall :=
  { call with previousResults := maskResults call.previousResults }

@[simp] theorem FrameCall.frame_masked (call : FrameCall) : call.masked.frame = call.frame :=
  rfl

@[simp] theorem FrameCall.inputRefusal?_masked (call : FrameCall) :
    call.masked.inputRefusal? = call.inputRefusal? :=
  rfl

section Plan

variable (p : Pipeline) (run : Run) (stage : Stage) (frame : Frame)

theorem Pipeline.masked_firstCall :
    (p.firstCall stage run frame).masked = p.firstCall stage run.masked frame :=
  rfl

theorem Pipeline.planned_masked : p.planned run.masked stage = p.planned run stage :=
  rfl

theorem Pipeline.frameEntry_masked :
    p.frameEntry run.masked stage frame = p.frameEntry run stage frame :=
  rfl

end Plan

namespace RunAct

/-- An act, but for the paths of reports. -/
def masked : RunAct → RunAct
  | attempt call outcome => attempt call.masked outcome
  | enter e => enter e.masked
  | report subject document path => report subject document (path.map fun _ => "")
  | command argv result => command argv result
  | count change => count change
  | save task old new merged => save task old new merged

theorem entries_map_masked (acts : List RunAct) :
    entries (acts.map masked) = (entries acts).map Entry.masked := by
  induction acts with
  | nil => rfl
  | cons act acts ih =>
      rw [List.map_cons, entries_cons, entries_cons, List.map_append, ih]
      cases act <;> rfl

/-- The host receives the masked calls. -/
theorem received_map_masked (acts : List RunAct) :
    received (acts.map masked) = (received acts).map FrameCall.masked := by
  induction acts with
  | nil => rfl
  | cons act acts ih =>
      have hfirst : received [act.masked] = (received [act]).map FrameCall.masked := by
        cases act with
        | attempt call outcome =>
            cases hcall : call.inputRefusal? <;> simp [received, calls, call?, masked, hcall]
        | command | count | enter | report | save => rfl
      rw [List.map_cons, received_cons, hfirst, ih, ← List.map_append, ← received_cons]

theorem answered_map_masked (acts : List RunAct) :
    answered (acts.map masked) = (answered acts).map fun tried => (tried.1.masked, tried.2) := by
  induction acts with
  | nil => rfl
  | cons act acts ih =>
      rw [List.map_cons, answered_cons, answered_cons, List.map_append, ih]
      cases act with
      | attempt call outcome => cases outcome <;> rfl
      | command | count | enter | report | save => rfl

end RunAct

/-! ## Histories and reports -/

/-- The record of an attempt, but for the times. -/
def FrameRecord.masked (r : FrameRecord) : FrameRecord :=
  { r with timestamp := default, durationMillis := 0 }

/-- Records of the same attempts are the same behind the mask. -/
theorem FrameRecord.map_masked_of_tellsOf {records records' : List FrameRecord}
    {tried tried' : List AnsweredAttempt} (h : List.Forall₂ TellsOf records tried)
    (h' : List.Forall₂ TellsOf records' tried')
    (htried : tried.map (fun t => (t.1.masked, t.2)) = tried'.map fun t => (t.1.masked, t.2)) :
    records.map masked = records'.map masked := by
  induction h generalizing records' tried' with
  | nil =>
      obtain rfl : tried' = [] := by simpa using htried.symm
      cases h'
      rfl
  | @cons r t records tried hr _ ih =>
      cases h' with
      | nil => simp at htried
      | @cons r' t' records' tried' hr' hrest =>
          simp only [List.map_cons, List.cons.injEq, Prod.mk.injEq] at htried
          obtain ⟨⟨hcall, houtcome⟩, hmore⟩ := htried
          have hframe := congrArg FrameCall.frame hcall
          have hstage := congrArg FrameCall.stage hcall
          have hattempt := congrArg FrameCall.attempt hcall
          have hsame : r.masked = r'.masked := by
            change t.1.frame = t'.1.frame at hframe
            change t.1.stage = t'.1.stage at hstage
            change t.1.attempt = t'.1.attempt at hattempt
            simp only [masked, hr.frameId, hr.stage, hr.attempt, hr.outcome, hr'.frameId,
              hr'.stage, hr'.attempt, hr'.outcome, hframe, hstage, hattempt, houtcome]
          rw [List.map_cons, List.map_cons, hsame, ih hrest hmore]

namespace ExecutionReport

/-- The report on a completed run, but for the metrics, the times, the id of the run and
the path of the audit's report. -/
def masked (r : ExecutionReport) : ExecutionReport :=
  { r with
    run := r.run.masked
    endTime := default
    frameHistory := r.frameHistory.map FrameRecord.masked
    metrics := .start 0 }

/-- What is masked is only repeated by the report. -/
theorem masked_build (run : Run) (scaffoldName : String) (endTime : Instant)
    (contextPath : Option String) (commandHistory : List CommandResult)
    (frameHistory : List FrameRecord) (metrics : Metrics) :
    (build run scaffoldName endTime contextPath commandHistory frameHistory metrics).masked =
      build run.masked scaffoldName default contextPath commandHistory
        (frameHistory.map FrameRecord.masked) (.start 0) := by
  have haudit : StageRecord.audit run.masked.log run.masked.preserved =
      StageRecord.audit run.log run.preserved := StageRecord.audit_map_masked _ _
  simp only [build, masked, haudit]

end ExecutionReport

/-- What a completed run leaves behind, but for what its report masks and where it
lies. -/
def RunOutcome.masked (outcome : RunOutcome) : RunOutcome :=
  { outcome with report := outcome.report.masked, reportPath := "" }

/-- The report on a failed run, but for the times, the id of the run and the path of the
audit's report. -/
def FailureDocument.masked (d : FailureDocument) : FailureDocument :=
  { d with timestamp := default, run := d.run.masked }

end ScaffoldRunner
