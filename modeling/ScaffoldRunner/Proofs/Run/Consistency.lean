import ScaffoldRunner.Proofs.Report.Counts
import ScaffoldRunner.Proofs.Run.Failure
import ScaffoldRunner.Proofs.Run.History
import ScaffoldRunner.Proofs.Run.Outline

/-!
# Consistent reports

The report on a completed run states the same facts in several places.  The
results of the stages are counted when a stage ends, by the audit when the first
six stages are over, and once more for the summary.  In between stages may run
again and replace what has been counted; but nothing is replaced after the fifth
stage, so that all of these counts agree in the end.
-/

namespace ScaffoldRunner

variable {σ : Type} {p : Pipeline} {host : Host σ}

/-! ## Commands -/

namespace RunAct

/-- The result of the command that an act runs. -/
def ran? : RunAct → Option CommandResult
  | command _ result => result
  | _ => none

/-- The results of the commands that some acts run. -/
def ran (acts : List RunAct) : List CommandResult := acts.filterMap ran?

@[simp] theorem ran_nil : ran [] = [] :=
  rfl

@[simp] theorem ran_cons (act : RunAct) (acts : List RunAct) :
    ran (act :: acts) = act.ran?.toList ++ ran acts := by
  cases h : act.ran? <;> simp [ran, h]

end RunAct

theorem Session.commandHistory_onFiles {α ε : Type} (op : EStateM ε FileTree α)
    (session : Session σ) :
    (session.onFiles op).2.commandHistory = session.commandHistory := by
  rw [onFiles_eq]

theorem FrameCall.commandHistory_concludeAttempt (store : ContextStore) (call : FrameCall)
    (began : Instant) (outcome : FrameOutcome) (session : Session σ) :
    (call.concludeAttempt store began outcome session).commandHistory =
      session.commandHistory := by
  cases outcome with
  | error e => rfl
  | ok result =>
      change (call.keepSnapshot store result _).commandHistory = _
      unfold keepSnapshot
      split
      · exact Session.commandHistory_onFiles _ _
      · rfl

/-- An act adds the result of the command that it runs. -/
theorem RunAct.commandHistory_inSession {session : Session σ} {act : RunAct}
    (htrue : act.IsTrue p host session) :
    (act.inSession p host session).commandHistory =
      session.commandHistory ++ act.ran?.toList := by
  cases act with
  | attempt call outcome =>
      have hnone : (attempt call outcome).ran? = none := rfl
      rw [inSession, FrameCall.tryOnce_eq, hnone, Option.toList_none, List.append_nil]
      rcases call.reply host session.world with ⟨answer | _, world⟩
      · exact call.commandHistory_concludeAttempt p.contexts session.now answer _
      · rfl
  | command argv result =>
      change (answerOf (CommandResult.execute host p.commands argv session)).toOption = result
        at htrue
      rw [CommandResult.execute_eq] at htrue
      rw [inSession, CommandResult.execute_eq]
      rcases hreply : CommandResult.reply host p.commands argv session.world with
        ⟨answer | _, world⟩
      · rw [hreply] at htrue
        obtain rfl : some answer = result := htrue
        rfl
      · rw [hreply] at htrue
        obtain rfl : none = result := htrue
        exact (List.append_nil _).symm
  | count | enter => exact (List.append_nil _).symm
  | report | save =>
      rw [inSession, Session.commandHistory_onFiles]
      exact (List.append_nil _).symm

theorem Pipeline.commandHistory_after {acts : List RunAct} {s : Progress σ}
    (h : p.Plays host s acts) :
    (p.after host acts s).session.commandHistory =
      s.session.commandHistory ++ RunAct.ran acts := by
  induction acts generalizing s with
  | nil => exact (List.append_nil _).symm
  | cons act acts ih =>
      have hact := RunAct.commandHistory_inSession h.1
      rw [after_cons, ih h.2, RunAct.ran_cons, ← List.append_assoc, ← hact]
      rfl

/-! ## Plans -/

/-- The frames that a scaffold plans for a stage, by their ids. -/
def Scaffold.plannedIds (scaffold : Scaffold) (stage : Stage) : List String :=
  ((scaffold.stages.get? stage).map StagePlan.frames).getD []

theorem Registry.Sound.map_id_framesFor_eq {registry : Registry} (h : registry.Sound)
    {scaffoldId : String} {scaffold : Scaffold}
    (hfound : registry.scaffolds.get? scaffoldId = some scaffold) (stage : Stage) :
    (registry.framesFor scaffoldId stage).map Frame.id = scaffold.plannedIds stage := by
  have hplan : registry.plan? scaffoldId stage = scaffold.stages.get? stage := by
    rw [plan?, hfound]
    rfl
  cases hstage : scaffold.stages.get? stage with
  | none =>
      rw [hstage] at hplan
      rw [framesFor, hplan, Scaffold.plannedIds, hstage]
      rfl
  | some plan =>
      rw [hstage] at hplan
      rw [h.map_id_framesFor hplan, Scaffold.plannedIds, hstage]
      rfl

/-! ## Logs that go on -/

theorem Entry.latest?_append_of_ne {entries more : List Entry} {stage : Stage}
    (h : ∀ e ∈ more, e.stage ≠ stage) :
    latest? (entries ++ more) stage = latest? entries stage := by
  have hnone : more.reverse.find? (fun e => e.stage = stage) = none := by
    simpa [List.find?_eq_none] using h
  rw [latest?, List.reverse_append, List.find?_append, hnone, Option.none_or]
  rfl

namespace Run

variable {origin run final : Run} {past more : List Entry}

theorem InOrder.map_stage {k : Nat} (h : run.InOrder k) :
    run.log.map StageRecord.stage = Stage.all.take k := by
  have hnumbers : ∀ k ≤ 10, (Stage.all.take k).map Stage.number = List.range' 1 k := by
    decide
  have hinjective : Function.Injective (List.map Stage.number) :=
    List.map_injective_iff.mpr fun _ _ => Stage.number_injective
  apply hinjective
  rw [hnumbers k h.bound, ← h.log_numbers, List.map_map]
  rfl

/-- The log in terms of what was entered. -/
theorem Reached.map_entry (h : origin.Reached past run) (hfresh : origin.IsFresh)
    (hturns : Turn.OnSchedule (past.map Entry.turn)) :
    run.log.map (fun r => some r.entry) =
      (Stage.all.take (Turn.reached (past.map Entry.turn))).map (Entry.latest? past) := by
  rw [← (h.inOrder hfresh hturns).map_stage, List.map_map]
  exact List.map_congr_left fun r hr => (h.latest?_of_mem_log hfresh hturns r hr).symm

/-- What was in the log of a run stays there as long as later stages are
entered. -/
theorem Reached.map_result_take (h : origin.Reached past run)
    (hfinal : origin.Reached (past ++ more) final) (hfresh : origin.IsFresh)
    (hturns : Turn.OnSchedule ((past ++ more).map Entry.turn)) {k : Nat}
    (hk : Turn.reached (past.map Entry.turn) = k) (hmore : ∀ e ∈ more, k < e.stage.number) :
    (final.log.take k).map StageRecord.result = run.log.map StageRecord.result := by
  have hturnsPast : Turn.OnSchedule (past.map Entry.turn) := by
    rw [List.map_append] at hturns
    exact hturns.of_append
  have hle : k ≤ Turn.reached ((past ++ more).map Entry.turn) := by
    rw [← hk, List.map_append, Turn.reached, Turn.reached, List.countP_append]
    omega
  have hbound : ∀ stage ∈ Stage.all.take k, stage.number ≤ k := by
    intro stage hstage
    have horder := h.inOrder hfresh hturnsPast
    rw [hk] at horder
    rw [← horder.map_stage] at hstage
    exact horder.mem_stages.mp hstage
  have hentries : (final.log.take k).map (fun r => some r.entry) =
      run.log.map fun r => some r.entry := by
    rw [List.map_take, hfinal.map_entry hfresh hturns, ← List.map_take, List.take_take,
      Nat.min_eq_left hle, h.map_entry hfresh hturnsPast, hk]
    refine List.map_congr_left fun stage hstage => Entry.latest?_append_of_ne fun e he heq => ?_
    have hlater := hmore e he
    have hearly := hbound stage hstage
    rw [heq] at hlater
    omega
  have hresults := congrArg (List.map (Option.map Entry.result)) hentries
  simp only [List.map_map] at hresults
  have hinjective : Function.Injective (List.map (some : StageResult → Option StageResult)) :=
    List.map_injective_iff.mpr fun _ _ => Option.some.inj
  apply hinjective
  rw [List.map_map, List.map_map]
  exact hresults

end Run

/-! ## The audit -/

variable {origin run : Run} {acts : List RunAct}

/-- The seventh stage audits the log of the first six; only later stages are
entered after it. -/
theorem IsCourse.exists_audited {results : List StageResult}
    (h : IsCourse p origin [] Stage.all acts (.ok results)) :
    ∃ past run audited outcome more,
      RunAct.entries acts = past ++ ⟨false, audited⟩ :: more ∧ origin.Reached past run ∧
      audited.stage = .metaAudit ∧ audited.audit = some outcome ∧
      outcome.audit = StageRecord.audit run.log run.preserved ∧
      ∀ e ∈ more, 7 < e.stage.number := by
  have hall : Stage.all = Stage.all.take 6 ++ .metaAudit :: Stage.all.drop 7 := rfl
  rw [hall] at h
  obtain ⟨before, rest, firsts, others, rfl, rfl, -, hrest⟩ := IsSeries.append_of_ok h
  cases hrest with
  | @next _ run _ _ acts later audited others hpast hseventh hlater =>
      obtain ⟨hentry, hstage, -⟩ := hseventh.entries_of_ok (by decide)
      obtain ⟨hentries, hstages, -⟩ := IsCourse.entries_of_ok (by decide) hlater
      have hmore : ∀ e ∈ others.map (Entry.mk false), 7 < e.stage.number := by
        intro e he
        obtain ⟨result, hresult, rfl⟩ := List.mem_map.mp he
        have hdrop : ∀ stage ∈ Stage.all.drop 7, 7 < stage.number := by decide
        exact hdrop result.stage (hstages ▸ List.mem_map_of_mem hresult)
      have haudit : ∃ outcome, audited.audit = some outcome ∧
          outcome.audit = StageRecord.audit run.log run.preserved := by
        cases hseventh with
        | entered hpass hcompletion =>
            have hframes := hpass.stage_of_ok
            cases hcompletion with
            | audited path => exact ⟨_, rfl, rfl⟩
            | unrepeated hother | repeated hother | unpublished hother | published _ hother =>
                simp [hframes] at hother
            | plain _ hother => exact absurd hframes hother
      obtain ⟨outcome, houtcome, hcounts⟩ := haudit
      refine ⟨RunAct.entries before, run, audited, outcome, others.map (Entry.mk false), ?_,
        hpast, hstage, houtcome, hcounts, hmore⟩
      rw [RunAct.entries_append, RunAct.entries_append, hentry, hentries]
      rfl

/-- The audit in the final log is that of the first six entries of this log. -/
theorem IsWalk.exists_audited {stopped : Bool} (h : IsWalk p origin stopped acts (.ok ()))
    (hfresh : origin.IsFresh) (hrun : origin.Reached (RunAct.entries acts) run) :
    ∃ r ∈ run.log, r.stage = .metaAudit ∧ ∃ outcome, r.result.audit = some outcome ∧
      outcome.audit = StageRecord.audit (run.log.take 6) run.preserved := by
  have hturns := h.turns.1
  obtain ⟨past, seen, audited, outcome, more, hentries, hseen, hstage, houtcome, hcounts,
      hmore⟩ : ∃ past run audited outcome more,
      RunAct.entries acts = past ++ ⟨false, audited⟩ :: more ∧ origin.Reached past run ∧
      audited.stage = .metaAudit ∧ audited.audit = some outcome ∧
      outcome.audit = StageRecord.audit run.log run.preserved ∧
      ∀ e ∈ more, 7 < e.stage.number := by
    generalize hanswer : Except.ok () = answer at h
    cases h with
    | stopped => simp at hanswer
    | @walked _ answer hcourse =>
        cases answer with
        | error e => simp [Except.map] at hanswer
        | ok results => exact hcourse.exists_audited
  rw [hentries] at hturns hrun
  have hsix : Turn.reached (past.map Entry.turn) = 6 := by
    have hnext : Turn.OnSchedule (past.map Entry.turn ++ [(false, .metaAudit)]) := by
      rw [List.map_append, List.map_cons, ← List.singleton_append, ← List.append_assoc] at hturns
      have hturn : (⟨false, audited⟩ : Entry).turn = (false, .metaAudit) :=
        congrArg (Prod.mk false) hstage
      rw [hturn] at hturns
      exact hturns.of_append
    have hnumber : Stage.metaAudit.number = Turn.reached (past.map Entry.turn) + 1 := hnext.next
    exact (Nat.succ.inj hnumber).symm
  have hlater : ∀ e ∈ (⟨false, audited⟩ : Entry) :: more, 6 < e.stage.number := by
    rw [List.forall_mem_cons]
    refine ⟨?_, fun e he => Nat.lt_of_succ_lt (hmore e he)⟩
    change 6 < audited.stage.number
    rw [hstage]
    decide
  have hsame := hseen.map_result_take hrun hfresh hturns hsix hlater
  have hpreserved : seen.preserved = run.preserved :=
    hseen.frame.2.2.trans hrun.frame.2.2.symm
  obtain ⟨r, hr, hrstage⟩ := hrun.exists_record hfresh hturns
    (List.mem_append_right past List.mem_cons_self)
  have hrstage : r.stage = .metaAudit := hrstage.trans hstage
  have hentry : r.entry = ⟨false, audited⟩ := by
    have hlatest := hrun.latest?_of_mem_log hfresh hturns r hr
    have hnone : ∀ e ∈ more, e.stage ≠ r.stage := by
      intro e he heq
      have hnumber := hmore e he
      rw [heq, hrstage] at hnumber
      exact absurd hnumber (by decide)
    have hsame : (⟨false, audited⟩ : Entry).stage = r.stage := hstage.trans hrstage.symm
    rw [← List.singleton_append, ← List.append_assoc, Entry.latest?_append_of_ne hnone,
      Entry.latest?_concat, if_pos hsame] at hlatest
    exact (Option.some.inj hlatest).symm
  refine ⟨r, hr, hrstage, outcome, ?_, ?_⟩
  · have hresult : r.result = audited := congrArg Entry.result hentry
    rw [hresult, houtcome]
  · rw [hcounts, hpreserved]
    exact (StageRecord.audit_congr hsame run.preserved).symm

/-! ## The report -/

/-- The report on a completed run of a scaffold agrees with itself, with the plan
of the scaffold and with the commands that were run. -/
structure ExecutionReport.IsConsistent (report : ExecutionReport) (scaffold : Scaffold)
    (ran : List CommandResult) : Prop where
  stages : report.run.log.map StageRecord.stage = Stage.all
  frames : ∀ r ∈ report.run.log,
    r.result.results.map FrameEntry.frameId = scaffold.plannedIds r.stage
  executed : ∀ r ∈ report.run.log,
    r.result.totals.executed = (scaffold.plannedIds r.stage).length ∧
      r.result.totals.executed = r.result.totals.successful + r.result.totals.failed
  summary : report.summary.totalStages = 10 ∧
    report.summary.successfulStages + report.summary.failedStages = 10
  successfulStages : report.summary.successfulStages =
    report.run.log.countP StageRecord.isSuccessful
  framesExecuted : report.summary.framesExecuted =
    (report.run.log.map fun r => r.result.totals.executed).sum
  successfulFrames : report.summary.successfulFrames =
    (report.run.log.map fun r => r.result.totals.successful).sum
  audit : ∃ r ∈ report.run.log, r.stage = .metaAudit ∧
    ∃ outcome, r.result.audit = some outcome ∧ outcome.audit.stagesEvaluated = 6 ∧
      outcome.audit.Counts (report.run.log.take 6) ∧
      outcome.audit = StageRecord.audit (report.run.log.take 6) report.run.preserved
  commands : report.commands.history = ran
  failures : report.commands.summary.CountsFailures report.commands.history
  actions : report.recommendations.priorityActions = report.commands.summary.issues
  improvement : report.recommendations.lowSuccessRate.isSome = true ↔
    report.summary.successfulStages < 8

/-- What a report makes of a log with all stages. -/
theorem ExecutionReport.isConsistent_build {run : Run} {scaffold : Scaffold}
    (hstages : run.log.map StageRecord.stage = Stage.all)
    (hframes : ∀ r ∈ run.log,
      r.result.results.map FrameEntry.frameId = scaffold.plannedIds r.stage)
    (haudit : ∃ r ∈ run.log, r.stage = .metaAudit ∧ ∃ outcome, r.result.audit = some outcome ∧
      outcome.audit = StageRecord.audit (run.log.take 6) run.preserved)
    (scaffoldName : String) (endTime : Instant) (contextPath : Option String)
    (commandHistory : List CommandResult) (frameHistory : List FrameRecord)
    (metrics : Metrics) :
    (build run scaffoldName endTime contextPath commandHistory frameHistory
      metrics).IsConsistent scaffold commandHistory := by
  have hlength : run.log.length = 10 := by
    have hten := congrArg List.length hstages
    rwa [List.length_map] at hten
  have hcounts := StageRecord.audit_counts run.log run.preserved
  have hsplit := List.length_eq_countP_add_countP StageRecord.isSuccessful (l := run.log)
  constructor
  case stages => exact hstages
  case frames => exact hframes
  case executed =>
    intro r hr
    refine ⟨?_, r.result.executed_totals⟩
    rw [← hframes r hr, List.length_map]
    rfl
  case summary =>
    refine ⟨rfl, ?_⟩
    change (StageRecord.audit run.log run.preserved).successfulStages +
      (StageRecord.audit run.log run.preserved).failedStages = 10
    rw [hcounts.successful, hcounts.failed, ← hlength, hsplit]
    simp
  case successfulStages => exact hcounts.successful
  case framesExecuted => exact hcounts.framesExecuted
  case successfulFrames => exact hcounts.framesSuccessful
  case audit =>
    obtain ⟨r, hr, hstage, outcome, houtcome, hsame⟩ := haudit
    have hsix := StageRecord.audit_counts (run.log.take 6) run.preserved
    rw [← hsame] at hsix
    refine ⟨r, hr, hstage, outcome, houtcome, ?_, hsix, hsame⟩
    rw [hsix.evaluated, List.length_take, hlength]
    rfl
  case commands => rfl
  case failures => exact FailureSummary.countsFailures_ofHistory commandHistory
  case actions => exact Recommendations.priorityActions_build _ _
  case improvement => exact Recommendations.lowSuccessRate_build _ rfl

namespace Pipeline

/-- The report on a completed run is consistent: the stages are there in their
order with the frames of their plans, and everything that is counted more than
once is counted alike. -/
theorem execute_ok_consistent {config : Config} {dir : String} {skipsPush : Bool}
    (hconfig : Pipeline.ofConfig config dir skipsPush = .ok p) {scaffoldId : String}
    {scaffold : Scaffold} (hfound : p.registry.scaffolds.get? scaffoldId = some scaffold)
    {input : Json} {stopped : Bool} {session session' : Session σ} {outcome : RunOutcome}
    (hok : p.execute host scaffoldId input stopped session = .ok outcome session') :
    ∃ document walk,
      runInput input = .ok document ∧
      IsWalk p (p.begin scaffold document session).run stopped walk (.ok ()) ∧
      p.Plays host (p.begin scaffold document session) walk ∧
      outcome.report.run = (p.after host walk (p.begin scaffold document session)).run ∧
      outcome.report.IsConsistent scaffold (RunAct.ran walk) := by
  cases hinput : runInput input with
  | error e => simp [execute, hfound, hinput] at hok
  | ok document =>
      obtain ⟨walk, answer, hwalk, hplays, -, hexecute⟩ :=
        p.execute_walks host hfound hinput stopped session
      obtain ⟨path, millis, rfl, hreport⟩ := conclude_report (hexecute.symm.trans hok)
      have hfresh := p.begin_isFresh scaffold document session
      have hreached := p.reached_after host
        (.start : Run.Reached _ [] (p.begin scaffold document session).run) walk
      rw [List.nil_append] at hreached
      have hturns := hwalk.turns
      have horder := hreached.inOrder hfresh hturns.1
      rw [hturns.2 rfl] at horder
      have hsound := sound_ofConfig hconfig
      have hscaffoldId : scaffold.id = scaffoldId := hsound.scaffold_id hfound
      have hframes : ∀ r ∈ (p.after host walk (p.begin scaffold document session)).run.log,
          r.result.results.map FrameEntry.frameId = scaffold.plannedIds r.stage := by
        intro r hr
        have hlists := (hwalk.lists hfresh hreached r hr).frames
        change _ = (p.registry.framesFor scaffold.id r.stage).map Frame.id at hlists
        rw [hlists, hscaffoldId, hsound.map_id_framesFor_eq hfound]
      have hcommands : (p.after host walk
          (p.begin scaffold document session)).session.commandHistory = RunAct.ran walk :=
        commandHistory_after hplays
      refine ⟨document, walk, rfl, hwalk, hplays, by rw [hreport]; rfl, ?_⟩
      rw [hreport, hcommands]
      exact ExecutionReport.isConsistent_build horder.map_stage hframes
        (hwalk.exists_audited hfresh hreached) ..

theorem execute_oneFrame_consistent :
    ∃ p scaffold outcome session' walk,
      Pipeline.ofConfig oneFrame "/" true = .ok p ∧
      p.registry.scaffolds.get? "check" = some scaffold ∧
      p.execute recommending "check" .null false emptySession = .ok outcome session' ∧
      outcome.report.IsConsistent scaffold (RunAct.ran walk) := by
  obtain ⟨p, scaffold, outcome, session', hconfig, hfound, -, hexecute⟩ :=
    exists_execute_recommending
  obtain ⟨document, walk, -, -, -, -, hconsistent⟩ :=
    execute_ok_consistent hconfig hfound hexecute
  exact ⟨p, scaffold, outcome, session', walk, hconfig, hfound, hexecute, hconsistent⟩

end Pipeline

end ScaffoldRunner
