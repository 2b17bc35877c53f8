import ScaffoldRunner.Proofs.Run.Conduct

/-!
# The ending of a run

After its stages a completed run saves its context and is reported; if that
fails, or if the stages did, a failure is reported instead.  No ending changes
the run itself.
-/

namespace ScaffoldRunner

variable {σ : Type}

/-- The acts of saving the context of a run. -/
inductive IsSaving (scaffold : Scaffold) (run : Run) :
    List RunAct → Except RunError (Option String) → Prop
  | omitted : scaffold.contextPreservation = false → IsSaving scaffold run [] (.ok none)
  | saved (now : Instant) (merged : Json) (path : String) :
      scaffold.contextPreservation = true →
      IsSaving scaffold run
        [.save run.scaffoldId run.preserved (run.contextToSave now) (.ok merged)]
        (.ok (some path))
  | unsaved (now : Instant) (e : ContextError) :
      scaffold.contextPreservation = true →
      IsSaving scaffold run
        [.save run.scaffoldId run.preserved (run.contextToSave now) (.error e)]
        (.error (.context e))

/-- The acts of counting a failure and reporting it. -/
inductive IsFailing (change : Metrics → Metrics) (run : Run) (e : RunError) :
    List RunAct → Prop
  | reported (document : FailureDocument) (path : Except OsError String) :
      document.error = e → document.run = run →
      IsFailing change run e
        [.count change, .report ReportDirectory.failureSubject document.toJson path]

/-- The acts of reporting a completed run. -/
inductive IsReporting (run : Run) : List RunAct → Except RunError RunOutcome → Prop
  | reported (outcome : RunOutcome) :
      IsReporting run
        [.report (ReportDirectory.executionSubject run.scaffoldId) outcome.report.toJson
          (.ok outcome.reportPath)]
        (.ok outcome)
  | unreported (document : Json) (e : OsError) :
      IsReporting run
        [.report (ReportDirectory.executionSubject run.scaffoldId) document (.error e)]
        (.error (.io e))

/-- The acts of saving the context of a completed run and reporting it. -/
inductive IsFinish (scaffold : Scaffold) (run : Run) :
    List RunAct → Except RunError RunOutcome → Prop
  | unsaved {acts : List RunAct} {e : RunError} :
      IsSaving scaffold run acts (.error e) → IsFinish scaffold run acts (.error e)
  | saved {acts more : List RunAct} {contextPath : Option String}
      {answer : Except RunError RunOutcome} :
      IsSaving scaffold run acts (.ok contextPath) → IsReporting run more answer →
      IsFinish scaffold run (acts ++ more) answer

namespace Metrics

/-- A run has gone through its stages after some milliseconds. -/
def markDone (millis : Nat) (m : Metrics) : Metrics := (m.runDone millis).setState "completed"

/-- A run has failed in its stages after some milliseconds. -/
def markBroken (millis : Nat) (m : Metrics) : Metrics := (m.runBroke millis).setState "failed"

/-- A run has failed after its stages. -/
def markUnfinished (m : Metrics) : Metrics := m.setState "failed"

end Metrics

/-- The acts that follow the stages of a run, which may have failed. -/
inductive IsEnding (scaffold : Scaffold) (run : Run) :
    Except RunError Unit → List RunAct → Except RunError RunOutcome → Prop
  | completed (millis : Nat) {acts : List RunAct} {outcome : RunOutcome} :
      IsFinish scaffold run acts (.ok outcome) →
      IsEnding scaffold run (.ok ()) (.count (Metrics.markDone millis) :: acts) (.ok outcome)
  | unfinished (millis : Nat) {acts failing : List RunAct} {e : RunError} :
      IsFinish scaffold run acts (.error e) →
      IsFailing Metrics.markUnfinished run e failing →
      IsEnding scaffold run (.ok ()) (.count (Metrics.markDone millis) :: acts ++ failing)
        (.error e)
  | failed (millis : Nat) {failing : List RunAct} (e : RunError) :
      IsFailing (Metrics.markBroken millis) run e failing →
      IsEnding scaffold run (.error e) failing (.error e)

/-- An act that makes no entry and attempts no frame. -/
def RunAct.IsSilent (act : RunAct) : Prop := act.entered? = none ∧ act.call? = none

theorem RunAct.entries_of_silent {acts : List RunAct} (h : ∀ act ∈ acts, act.IsSilent) :
    RunAct.entries acts = [] :=
  List.filterMap_eq_nil_iff.mpr fun act hact => (h act hact).1

theorem IsSaving.silent {scaffold : Scaffold} {run : Run} {acts : List RunAct}
    {answer : Except RunError (Option String)} (h : IsSaving scaffold run acts answer) :
    ∀ act ∈ acts, act.IsSilent := by
  cases h <;> simp [RunAct.IsSilent, RunAct.entered?, RunAct.call?]

theorem IsReporting.silent {run : Run} {acts : List RunAct}
    {answer : Except RunError RunOutcome} (h : IsReporting run acts answer) :
    ∀ act ∈ acts, act.IsSilent := by
  cases h <;> simp [RunAct.IsSilent, RunAct.entered?, RunAct.call?]

theorem IsFailing.silent {change : Metrics → Metrics} {run : Run} {e : RunError}
    {acts : List RunAct} (h : IsFailing change run e acts) : ∀ act ∈ acts, act.IsSilent := by
  cases h
  simp [RunAct.IsSilent, RunAct.entered?, RunAct.call?]

theorem IsFinish.silent {scaffold : Scaffold} {run : Run} {acts : List RunAct}
    {answer : Except RunError RunOutcome} (h : IsFinish scaffold run acts answer) :
    ∀ act ∈ acts, act.IsSilent := by
  cases h with
  | unsaved hsaving => exact hsaving.silent
  | saved hsaving hreporting =>
      exact List.forall_mem_append.mpr ⟨hsaving.silent, hreporting.silent⟩

/-- An ending makes no entries and attempts no frames. -/
theorem IsEnding.silent {scaffold : Scaffold} {run : Run} {answer : Except RunError Unit}
    {acts : List RunAct} {outcome : Except RunError RunOutcome}
    (h : IsEnding scaffold run answer acts outcome) : ∀ act ∈ acts, act.IsSilent := by
  cases h with
  | completed _ hfinish => exact List.forall_mem_cons.mpr ⟨⟨rfl, rfl⟩, hfinish.silent⟩
  | unfinished _ hfinish hfailing =>
      exact List.forall_mem_append.mpr
        ⟨List.forall_mem_cons.mpr ⟨⟨rfl, rfl⟩, hfinish.silent⟩, hfailing.silent⟩
  | failed _ _ hfailing => exact hfailing.silent

theorem IsEnding.calls {scaffold : Scaffold} {run : Run} {answer : Except RunError Unit}
    {acts : List RunAct} {outcome : Except RunError RunOutcome}
    (h : IsEnding scaffold run answer acts outcome) : RunAct.calls acts = [] :=
  List.filterMap_eq_nil_iff.mpr fun act hact => (h.silent act hact).2

namespace Pipeline

variable (p : Pipeline) (host : Host σ)

theorem saveContext_does (scaffold : Scaffold) (s : Progress σ) :
    ∃ acts answer, IsSaving scaffold s.run acts answer ∧
      Does p host (p.saveContext scaffold) s acts answer := by
  by_cases hpreserve : scaffold.contextPreservation = true
  · rcases h : s.session.onFiles (p.contexts.saveMergedOver s.run.scaffoldId s.session.now
        s.run.preserved (s.run.contextToSave s.session.now)) with ⟨merged, session⟩
    have hsave : p.Plays host s
        [.save s.run.scaffoldId s.run.preserved (s.run.contextToSave s.session.now) merged] :=
      ⟨congrArg Prod.fst h, trivial⟩
    match merged with
    | .error e =>
        refine ⟨_, _, .unsaved s.session.now e hpreserve, hsave, ?_⟩
        simp [saveContext, hpreserve, h, ended, RunAct.perform, RunAct.inSession, RunAct.inRun]
    | .ok merged =>
        refine ⟨_, _, .saved s.session.now merged (p.contexts.taskPath s.run.scaffoldId)
          hpreserve, hsave, ?_⟩
        simp [saveContext, hpreserve, h, ended, RunAct.perform, RunAct.inSession, RunAct.inRun]
  · refine ⟨[], _, .omitted (Bool.eq_false_iff.mpr hpreserve), trivial, ?_⟩
    simp [saveContext, hpreserve, ended]

theorem reportFailure_does (e : RunError) (change : Metrics → Metrics) (s : Progress σ) :
    ∃ acts, IsFailing change s.run e acts ∧ p.Plays host s acts ∧
      p.reportFailure e { s with session := s.session.count change } =
        (p.after host acts s).session := by
  let document : FailureDocument := { timestamp := s.session.now, error := e, run := s.run }
  exact ⟨_, .reported document _ rfl rfl, ⟨trivial, rfl, trivial⟩, rfl⟩

theorem reportRun_does (scaffold : Scaffold) (contextPath : Option String)
    (s : Progress σ) :
    ∃ acts answer, IsReporting s.run acts answer ∧
      Does p host (p.reportRun scaffold contextPath) s acts answer := by
  let report := ExecutionReport.build s.run scaffold.name s.session.now contextPath
    s.session.commandHistory s.session.frameHistory s.session.metrics
  obtain ⟨path, hdoes⟩ := Does.writeReport p host s
    (ReportDirectory.executionSubject s.run.scaffoldId) report.toJson
  match path with
  | .error e =>
      exact ⟨_, _, .unreported report.toJson e, Does.get_bind (hdoes.bind_error _)⟩
  | .ok path =>
      exact ⟨_, _, .reported ⟨report, path, contextPath⟩, Does.get_bind (hdoes.bind_pure _)⟩

theorem finish_does (scaffold : Scaffold) (s : Progress σ) :
    ∃ acts answer, IsFinish scaffold s.run acts answer ∧
      Does p host (p.finish scaffold) s acts answer := by
  obtain ⟨acts, answer, hsaving, hsave⟩ := p.saveContext_does host scaffold s
  match answer with
  | .error e => exact ⟨acts, .error e, .unsaved hsaving, hsave.bind_error _⟩
  | .ok contextPath =>
      obtain ⟨more, answer, hreporting, hreport⟩ :=
        p.reportRun_does host scaffold contextPath (p.after host acts s)
      rw [p.after_run_of_entries host (RunAct.entries_of_silent hsaving.silent)] at hreporting
      exact ⟨_, answer, .saved hsaving hreporting, hsave.bind hreport⟩

section Conclude

variable (scaffold : Scaffold) (began : Instant) (s : Progress σ)

/-- A run that went through its stages, as it is when its context is saved. -/
def counted : Progress σ :=
  { s with session := s.session.count fun m =>
      (m.runDone (s.session.now.microsSince began / 1000)).setState "completed" }

theorem conclude_of_ok {outcome : RunOutcome} {t : Progress σ}
    (h : p.finish scaffold (counted began s) = .ok outcome t) :
    p.conclude scaffold began (.ok () s) = .ok outcome t.session := by
  simp only [counted] at h
  simp only [conclude, h]

theorem conclude_of_error {e : RunError} {t : Progress σ}
    (h : p.finish scaffold (counted began s) = .error e t) :
    p.conclude scaffold began (.ok () s) =
      .error e (p.reportFailure e
        { t with session := t.session.count fun m => m.setState "failed" }) := by
  simp only [counted] at h
  simp only [conclude, h]

end Conclude

section Completed

variable {p}

theorem conclude_eq_ok {scaffold : Scaffold} {began : Instant}
    {result : EStateM.Result RunError (Progress σ) Unit} {outcome : RunOutcome}
    {session : Session σ} (h : p.conclude scaffold began result = .ok outcome session) :
    ∃ s t, result = .ok () s ∧ p.finish scaffold (counted began s) = .ok outcome t ∧
      session = t.session := by
  match result with
  | .error e s => simp [conclude] at h
  | .ok () s =>
      cases hfinish : p.finish scaffold (counted began s) with
      | error e t =>
          rw [p.conclude_of_error scaffold began s hfinish] at h
          simp at h
      | ok outcome' t =>
          rw [p.conclude_of_ok scaffold began s hfinish] at h
          injection h with houtcome hsession
          exact ⟨s, t, rfl, houtcome ▸ hfinish, hsession.symm⟩

/-! ## The report on a completed run -/

/-- Saving the context of a run changes nothing but the files. -/
theorem saveContext_eq_ok {scaffold : Scaffold} {s t : Progress σ} {path : Option String}
    (h : p.saveContext scaffold s = .ok path t) :
    ∃ files, t = { s with session := { s.session with
      world := { s.session.world with files := files } } } := by
  unfold saveContext at h
  split at h
  · simp only [Session.onFiles_eq] at h
    split at h
    · next answer session hsaved =>
        obtain ⟨-, rfl⟩ := EStateM.Result.ok.inj h
        exact ⟨_, congrArg (Progress.mk · s.run) (congrArg Prod.snd hsaved).symm⟩
    · simp at h
  · obtain ⟨-, rfl⟩ := EStateM.Result.ok.inj h
    exact ⟨s.session.world.files, rfl⟩

theorem reportRun_eq_ok {scaffold : Scaffold} {path : Option String} {s t : Progress σ}
    {outcome : RunOutcome} (h : p.reportRun scaffold path s = .ok outcome t) :
    outcome.report = ExecutionReport.build s.run scaffold.name s.session.now path
      s.session.commandHistory s.session.frameHistory s.session.metrics := by
  change EStateM.bind (RunM.writeReport p.reports _ _) _ s = _ at h
  rw [EStateM.bind] at h
  split at h
  · obtain ⟨rfl, -⟩ := EStateM.Result.ok.inj h
    rfl
  · simp at h

/-- The report on a run that is finished tells what was there when the stages were over. -/
theorem finish_report {scaffold : Scaffold} {s t : Progress σ} {outcome : RunOutcome}
    (h : p.finish scaffold s = .ok outcome t) :
    ∃ path, outcome.report = ExecutionReport.build s.run scaffold.name s.session.now path
      s.session.commandHistory s.session.frameHistory s.session.metrics := by
  obtain ⟨path, saved, hsave, hreport⟩ := exists_of_bind_eq_ok h
  obtain ⟨files, rfl⟩ := saveContext_eq_ok hsave
  have hreported := reportRun_eq_ok hreport
  exact ⟨path, hreported⟩

/-- The report on a completed run is made when its stages are over and counted. -/
theorem conclude_report {scaffold : Scaffold} {began : Instant} {answer : Except RunError Unit}
    {s : Progress σ} {outcome : RunOutcome} {session : Session σ}
    (h : p.conclude scaffold began (ended answer s) = .ok outcome session) :
    ∃ path millis, answer = .ok () ∧
      outcome.report = ExecutionReport.build s.run scaffold.name s.session.now path
        s.session.commandHistory s.session.frameHistory
        (s.session.metrics.markDone millis) := by
  obtain ⟨later, t, hresult, hfinish, -⟩ := conclude_eq_ok h
  obtain ⟨rfl, rfl⟩ := ended_eq_ok.mp hresult
  obtain ⟨path, hreport⟩ := finish_report hfinish
  exact ⟨path, _, rfl, hreport⟩

end Completed

/-- What follows the stages of a run is an ending. -/
theorem conclude_does (scaffold : Scaffold) (began : Instant) (answer : Except RunError Unit)
    (s : Progress σ) :
    ∃ acts outcome, IsEnding scaffold s.run answer acts outcome ∧ p.Plays host s acts ∧
      p.conclude scaffold began (ended answer s) =
        ended outcome (p.after host acts s).session := by
  match answer with
  | .error e =>
      let millis := s.session.now.microsSince began / 1000
      obtain ⟨acts, hfailing, hplays, hsession⟩ :=
        p.reportFailure_does host e (Metrics.markBroken millis) s
      exact ⟨acts, .error e, .failed millis e hfailing, hplays, congrArg _ hsession⟩
  | .ok () =>
      let millis := s.session.now.microsSince began / 1000
      obtain ⟨acts, answer, hfinish, hdoes⟩ :=
        p.finish_does host scaffold (counted began s)
      match answer with
      | .ok outcome =>
          exact ⟨_, .ok outcome, .completed millis hfinish, ⟨trivial, hdoes.1⟩,
            p.conclude_of_ok scaffold began s hdoes.2⟩
      | .error e =>
          obtain ⟨failing, hfailing, hplays, hsession⟩ := p.reportFailure_does host e
            Metrics.markUnfinished (p.after host acts (counted began s))
          rw [p.after_run_of_entries host (RunAct.entries_of_silent hfinish.silent)] at hfailing
          refine ⟨_, .error e, .unfinished millis hfinish hfailing,
            ⟨trivial, (plays_append ..).mpr ⟨hdoes.1, hplays⟩⟩, ?_⟩
          rw [List.cons_append, after_cons, after_append]
          exact (p.conclude_of_error scaffold began s hdoes.2).trans
            (congrArg (EStateM.Result.error e) hsession)

theorem begin_isFresh (scaffold : Scaffold) (input : Json) (session : Session σ) :
    (p.begin scaffold input session).run.IsFresh :=
  ⟨rfl, rfl⟩

variable {p host} in
theorem execute_eq {scaffoldId : String} {scaffold : Scaffold} {input document : Json}
    (hfound : p.registry.scaffolds.get? scaffoldId = some scaffold)
    (hinput : runInput input = .ok document) {stopped : Bool} {session : Session σ} :
    p.execute host scaffoldId input stopped session =
      p.conclude scaffold (p.begin scaffold document session).session.now
        (p.runUnlessStopped host stopped (p.begin scaffold document session)) := by
  simp only [execute, hfound, hinput]

/-- A run of a scaffold walks through the stages and concludes with what has come of it. -/
theorem execute_walks {scaffoldId : String} {scaffold : Scaffold} {input document : Json}
    (hfound : p.registry.scaffolds.get? scaffoldId = some scaffold)
    (hinput : runInput input = .ok document) (stopped : Bool) (session : Session σ) :
    ∃ walk answer,
      IsWalk p (p.begin scaffold document session).run stopped walk answer ∧
      p.Plays host (p.begin scaffold document session) walk ∧
      p.runUnlessStopped host stopped (p.begin scaffold document session) =
        ended answer (p.after host walk (p.begin scaffold document session)) ∧
      p.execute host scaffoldId input stopped session =
        p.conclude scaffold (p.begin scaffold document session).session.now
          (ended answer (p.after host walk (p.begin scaffold document session))) := by
  obtain ⟨walk, answer, hwalk, hplays, hdoes⟩ :=
    p.runUnlessStopped_does host stopped (p.begin scaffold document session)
  refine ⟨walk, answer, hwalk, hplays, hdoes, ?_⟩
  rw [execute_eq hfound hinput, hdoes]

variable {p host} {scaffold : Scaffold}

/-- A run of a scaffold in a session: it walks through the stages, and what follows is
determined by how that ended. -/
structure IsRun (p : Pipeline) (host : Host σ) (scaffold : Scaffold) (document : Json)
    (stopped : Bool) (session : Session σ) (walk ending : List RunAct)
    (answer : Except RunError Unit) (result : EStateM.Result RunError (Session σ) RunOutcome) :
    Prop where
  walks : IsWalk p (p.begin scaffold document session).run stopped walk answer
  ends : IsEnding scaffold (p.after host walk (p.begin scaffold document session)).run answer
    ending (answerOf result)
  plays : p.Plays host (p.begin scaffold document session) (walk ++ ending)
  /-- What the walk comes to is what the stages come to. -/
  stages : p.runUnlessStopped host stopped (p.begin scaffold document session) =
    ended answer (p.after host walk (p.begin scaffold document session))
  state : stateOf result =
    (p.after host (walk ++ ending) (p.begin scaffold document session)).session
  concluded : result = p.conclude scaffold (p.begin scaffold document session).session.now
    (ended answer (p.after host walk (p.begin scaffold document session)))

theorem exists_isRun {scaffoldId : String}
    (hfound : p.registry.scaffolds.get? scaffoldId = some scaffold) {input document : Json}
    (hinput : runInput input = .ok document) (host : Host σ) (stopped : Bool)
    (session : Session σ) :
    ∃ walk ending answer, p.IsRun host scaffold document stopped session walk ending answer
      (p.execute host scaffoldId input stopped session) := by
  obtain ⟨walk, answer, hwalk, hplays, hstages, hexecute⟩ :=
    p.execute_walks host hfound hinput stopped session
  obtain ⟨ending, outcome, hending, hended, hconclude⟩ := p.conclude_does host scaffold
    (p.begin scaffold document session).session.now answer
    (p.after host walk (p.begin scaffold document session))
  have hresult := hexecute.trans hconclude
  refine ⟨walk, ending, answer, hwalk, ?_, (plays_append ..).mpr ⟨hplays, hended⟩, hstages, ?_,
    hexecute⟩
  · rw [hresult, answerOf_ended]
    exact hending
  · rw [hresult, stateOf_ended, after_append]

namespace IsRun

variable {document : Json} {stopped : Bool} {session : Session σ} {walk ending : List RunAct}
  {answer : Except RunError Unit} {result : EStateM.Result RunError (Session σ) RunOutcome}

theorem plays_walk
    (h : p.IsRun host scaffold document stopped session walk ending answer result) :
    p.Plays host (p.begin scaffold document session) walk :=
  ((plays_append ..).mp h.plays).1

theorem plays_ending
    (h : p.IsRun host scaffold document stopped session walk ending answer result) :
    p.Plays host (p.after host walk (p.begin scaffold document session)) ending :=
  ((plays_append ..).mp h.plays).2

theorem result_eq
    (h : p.IsRun host scaffold document stopped session walk ending answer result) :
    result = ended (answerOf result)
      (p.after host (walk ++ ending) (p.begin scaffold document session)).session := by
  rw [← h.state]
  cases result <;> rfl

/-- An ending does not change what the run has become. -/
theorem run_after
    (h : p.IsRun host scaffold document stopped session walk ending answer result) :
    (p.after host (walk ++ ending) (p.begin scaffold document session)).run =
      (p.after host walk (p.begin scaffold document session)).run := by
  rw [after_append]
  exact p.after_run_of_entries host (RunAct.entries_of_silent h.ends.silent) _

/-- All calls are made on the way through the stages. -/
theorem received_eq
    (h : p.IsRun host scaffold document stopped session walk ending answer result) :
    RunAct.received (walk ++ ending) = RunAct.received walk := by
  rw [RunAct.received, RunAct.calls_append, h.ends.calls, List.append_nil]
  rfl

/-- A completed run is reported as its stages have left it. -/
theorem report_run
    (h : p.IsRun host scaffold document stopped session walk ending answer result)
    {outcome : RunOutcome} (hok : answerOf result = .ok outcome) :
    outcome.report.run = (p.after host walk (p.begin scaffold document session)).run := by
  have hresult := h.result_eq
  rw [hok] at hresult
  obtain ⟨path, millis, -, hreport⟩ := conclude_report (h.concluded.symm.trans hresult)
  rw [hreport]
  rfl

end IsRun

end Pipeline

end ScaffoldRunner
