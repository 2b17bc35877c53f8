import ScaffoldRunner.Proofs.Redaction
import ScaffoldRunner.Proofs.Run.History
import ScaffoldRunner.Proofs.Run.Schedule

/-!
# Errors in reports

The error of a failed run and the errors of the frames in its log stand in the
reports as they are when they are redacted.  The history of the frames keeps the
errors as they were, and the report on a completed run repeats it.
-/

namespace ScaffoldRunner

def FrameOutcome.error? : FrameOutcome → Option FrameError
  | .ok _ => none
  | .error e => some e

/-! ## Entries of frames -/

/-- An entry of a stage tells of the last attempt of its frame. -/
structure FrameEntry.TellsOf (e : FrameEntry) (stage : Stage) (tried : AnsweredAttempt) :
    Prop where
  stage : tried.1.stage = stage
  entry : e = .ofOutcome tried.1.frame e.critical tried.2
  last : (FrameOutcome.error? tried.2).isSome = true → tried.1.retries = 0

/-- Every entry of a result tells of an attempt among some acts. -/
def StageResult.IsBackedBy (acts : List RunAct) (result : StageResult) : Prop :=
  ∀ e ∈ result.results, ∃ tried ∈ RunAct.answered acts, e.TellsOf result.stage tried

theorem StageResult.IsBackedBy.mono {before acts : List RunAct} {result : StageResult}
    (h : result.IsBackedBy before)
    (hacts : ∀ tried ∈ RunAct.answered before, tried ∈ RunAct.answered acts) :
    result.IsBackedBy acts := by
  intro e he
  obtain ⟨tried, htried, htells⟩ := h e he
  exact ⟨tried, hacts tried htried, htells⟩

/-- All results that some acts enter are backed by them. -/
def AreBacked (acts : List RunAct) : Prop :=
  ∀ entry ∈ RunAct.entries acts, entry.result.IsBackedBy acts

theorem AreBacked.append {before rest : List RunAct} (hbefore : AreBacked before)
    (hrest : AreBacked rest) : AreBacked (before ++ rest) := by
  intro entry hentry
  rw [RunAct.entries_append, List.mem_append] at hentry
  rcases hentry with hentry | hentry
  · refine (hbefore entry hentry).mono fun tried htried => ?_
    rw [RunAct.answered_append]
    exact List.mem_append_left _ htried
  · refine (hrest entry hentry).mono fun tried htried => ?_
    rw [RunAct.answered_append]
    exact List.mem_append_right _ htried

theorem areBacked_of_entries {acts : List RunAct} (h : RunAct.entries acts = []) :
    AreBacked acts := by
  simp [AreBacked, h]

/-- Acts that back a result may be followed by entering it. -/
theorem StageResult.IsBackedBy.entering {acts : List RunAct} {result : StageResult}
    (hresult : result.IsBackedBy acts) (hacts : AreBacked acts) (repeated : Bool) :
    AreBacked (acts ++ ScaffoldRunner.entering repeated result) := by
  have hmore : ∀ tried ∈ RunAct.answered acts,
      tried ∈ RunAct.answered (acts ++ ScaffoldRunner.entering repeated result) := by
    intro tried htried
    rw [RunAct.answered_append]
    exact List.mem_append_left _ htried
  intro entry hentry
  rw [RunAct.entries_append, entries_entering, List.mem_append, List.mem_singleton] at hentry
  rcases hentry with hentry | rfl
  · exact (hacts entry hentry).mono hmore
  · exact hresult.mono hmore

variable {p : Pipeline} {origin run : Run} {stage : Stage} {past : List Entry}
  {acts : List RunAct}

theorem IsTrial.exists_last {retries : Nat} {call : FrameCall} {outcome : FrameOutcome}
    (h : IsTrial retries call acts (some outcome)) (hretries : retries = call.retries) :
    ∃ last, (last, outcome) ∈ RunAct.answered acts ∧ last.frame = call.frame ∧
      last.stage = call.stage ∧
      ((FrameOutcome.error? outcome).isSome = true → last.retries = 0) := by
  generalize hanswer : some outcome = answer at h
  induction h with
  | interrupted => simp at hanswer
  | success retries call result =>
      obtain rfl := Option.some.inj hanswer
      exact ⟨call, by simp [RunAct.answered?], rfl, rfl, by simp [FrameOutcome.error?]⟩
  | failure call e =>
      obtain rfl := Option.some.inj hanswer
      exact ⟨call, by simp [RunAct.answered?], rfl, rfl, fun _ => hretries.symm⟩
  | @again retries call e acts answer _ ih =>
      have hnext : retries = call.next.retries := by
        have hattempt : call.next.attempt = call.attempt + 1 := rfl
        have hmax : call.next.maxAttempts = call.maxAttempts := rfl
        rw [FrameCall.retries, hattempt, hmax]
        rw [FrameCall.retries] at hretries
        omega
      obtain ⟨last, hlast, hframe, hstage, herror⟩ := ih hnext hanswer
      refine ⟨last, ?_, hframe, hstage, herror⟩
      simp only [RunAct.answered_cons, RunAct.answered?, Option.toList_some, Option.toList_none,
        List.nil_append]
      exact List.mem_append_right _ hlast

theorem FrameEntry.ofOutcome_critical (frame : Frame) (critical : Bool) (outcome : FrameOutcome) :
    (FrameEntry.ofOutcome frame critical outcome).critical = critical := by
  cases outcome <;> rfl

/-- Every entry of a sweep tells of the last attempt of its frame. -/
theorem IsSweep.tellsOf {frames : List Frame} {entries : List FrameEntry}
    (h : IsSweep p run stage frames acts (some entries)) :
    ∀ e ∈ entries, ∃ tried ∈ RunAct.answered acts, e.TellsOf stage tried := by
  generalize hanswer : some entries = answer at h
  induction h generalizing entries with
  | done => simp_all
  | interrupted | later => simp at hanswer
  | @next frame frames acts more outcome entries htrial _ ih =>
      obtain rfl := Option.some.inj hanswer
      intro e he
      rw [RunAct.answered_append]
      rcases List.mem_cons.mp he with rfl | he
      · obtain ⟨last, hlast, hframe, hstage, herror⟩ := htrial.exists_last rfl
        refine ⟨_, List.mem_append_left _ hlast, hstage, ?_, herror⟩
        rw [Pipeline.frameEntry, FrameEntry.ofOutcome_critical, hframe]
        rfl
      · obtain ⟨tried, htried, htells⟩ := ih rfl e he
        exact ⟨tried, List.mem_append_right _ htried, htells⟩

theorem IsSweep.isBackedBy {frames : List Frame} {entries : List FrameEntry}
    (h : IsSweep p run stage frames acts (some entries)) :
    (StageResult.ofSweep stage entries).IsBackedBy acts := by
  rw [StageResult.IsBackedBy, StageResult.results_ofSweep, StageResult.stage_ofSweep]
  exact h.tellsOf

theorem IsPass.isBackedBy {repeated : Bool} {result : StageResult}
    (h : IsPass p run stage repeated acts (.ok result)) : result.IsBackedBy acts := by
  cases h with
  | finished hsweep => exact hsweep.isBackedBy

theorem IsPass.areBacked {repeated : Bool} {answer : Except RunError StageResult}
    (h : IsPass p run stage repeated acts answer) : AreBacked acts := by
  cases h with
  | finished hsweep | interrupted hsweep => exact areBacked_of_entries hsweep.entries
  | @failed _ entries hsweep =>
      have hbacked : (StageResult.ofSweep stage entries).failing.IsBackedBy _ := hsweep.isBackedBy
      exact hbacked.entering (areBacked_of_entries hsweep.entries) repeated

theorem IsSeries.areBacked
    {step : List Entry → Run → Stage → List RunAct → Except RunError StageResult → Prop}
    (hstep : ∀ past run stage acts answer, step past run stage acts answer → AreBacked acts)
    {stages : List Stage} {answer : Except RunError (List StageResult)}
    (h : IsSeries origin step past stages acts answer) : AreBacked acts := by
  induction h with
  | done => exact areBacked_of_entries rfl
  | stopped _ _ hfirst => exact hstep _ _ _ _ _ hfirst
  | later _ hfirst _ ih | next _ hfirst _ ih => exact (hstep _ _ _ _ _ hfirst).append ih

theorem IsRepetition.areBacked {stages : List Stage}
    {answer : Except RunError (List StageResult)}
    (h : IsRepetition p origin past stages acts answer) : AreBacked acts := by
  refine IsSeries.areBacked (fun past run stage acts answer hrepeat => ?_) h
  cases hrepeat with
  | stopped hpass => exact hpass.areBacked
  | entered hpass => exact hpass.isBackedBy.entering hpass.areBacked true

theorem IsCompletion.areBacked {result : StageResult} {answer : Except RunError StageResult}
    (h : IsCompletion p origin past run result acts answer) : AreBacked acts := by
  cases h with
  | unrepeated | plain | audited | unaudited | unpublished => exact areBacked_of_entries rfl
  | repeated _ _ hrepetition | repetitionFailed _ _ hrepetition => exact hrepetition.areBacked
  | published _ _ _ hcommands | publicationInterrupted _ _ hcommands =>
      exact areBacked_of_entries (RunAct.entries_eq_nil_of_isCommand hcommands)

theorem IsCompletion.isBackedBy {result completed : StageResult} {before : List RunAct}
    (h : IsCompletion p origin past run result acts (.ok completed))
    (hresult : result.IsBackedBy before) : completed.IsBackedBy before := by
  cases h <;> exact hresult

theorem IsStageRun.areBacked {answer : Except RunError StageResult}
    (h : IsStageRun p origin past run stage acts answer) : AreBacked acts := by
  cases h with
  | stopped hpass => exact hpass.areBacked
  | incomplete hpass hcompletion => exact hpass.areBacked.append hcompletion.areBacked
  | entered hpass hcompletion =>
      have hresult := hcompletion.isBackedBy hpass.isBackedBy
      refine StageResult.IsBackedBy.entering (hresult.mono fun tried htried => ?_)
        (hpass.areBacked.append hcompletion.areBacked) false
      rw [RunAct.answered_append]
      exact List.mem_append_left _ htried

/-- A walk enters no result that is not backed by its attempts. -/
theorem IsWalk.areBacked {stopped : Bool} {answer : Except RunError Unit}
    (h : IsWalk p origin stopped acts answer) : AreBacked acts := by
  cases h with
  | stopped => exact areBacked_of_entries rfl
  | walked hcourse => exact IsSeries.areBacked (fun _ _ _ _ _ hrun => hrun.areBacked) hcourse

/-! ## Reports -/

theorem RunAct.answered_of_silent {acts : List RunAct} (h : ∀ act ∈ acts, act.IsSilent) :
    RunAct.answered acts = [] := by
  refine List.filterMap_eq_nil_iff.mpr fun act hact => ?_
  have hcall := (h act hact).2
  cases act with
  | attempt call outcome => simp [call?] at hcall
  | command | count | enter | report | save => rfl

/-- A report that is written when the stages are over tells how the run has ended. -/
theorem IsEnding.written {scaffold : Scaffold} {answer : Except RunError Unit}
    {ending : List RunAct} {outcome : Except RunError RunOutcome} {subject name : String}
    {report : Json} (h : IsEnding scaffold run answer ending outcome)
    (hmem : .report subject report (.ok name) ∈ ending) :
    (∃ document : FailureDocument, outcome = .error document.error ∧ document.run = run ∧
        subject = ReportDirectory.failureSubject ∧ report = document.toJson) ∨
      (∃ o, outcome = .ok o ∧ subject = ReportDirectory.executionSubject run.scaffoldId ∧
        report = o.report.toJson) := by
  have hfailed {change : Metrics → Metrics} {e : RunError} {acts : List RunAct}
      (hfailing : IsFailing change run e acts) (hmem : .report subject report (.ok name) ∈ acts) :
      ∃ document : FailureDocument,
        (.error e : Except RunError RunOutcome) = .error document.error ∧
        document.run = run ∧ subject = ReportDirectory.failureSubject ∧
        report = document.toJson := by
    cases hfailing with
    | reported document path herror hrun =>
        simp only [List.mem_cons, reduceCtorEq, List.not_mem_nil, or_false, false_or,
          RunAct.report.injEq] at hmem
        exact ⟨document, by rw [herror], hrun, hmem.1, hmem.2.1⟩
  have hsaved {path : Except RunError (Option String)} {acts : List RunAct}
      (hsaving : IsSaving scaffold run acts path) : .report subject report (.ok name) ∉ acts := by
    cases hsaving <;> simp
  cases h with
  | failed _ _ hfailing => exact .inl (hfailed hfailing hmem)
  | unfinished _ hfinish hfailing =>
      rw [List.cons_append, List.mem_cons, List.mem_append] at hmem
      rcases hmem with hmem | hmem | hmem
      · simp at hmem
      · cases hfinish with
        | unsaved hsaving => exact absurd hmem (hsaved hsaving)
        | saved hsaving hreporting =>
            cases hreporting
            simp [hsaved hsaving] at hmem
      · exact .inl (hfailed hfailing hmem)
  | @completed _ _ outcome hfinish =>
      rw [List.mem_cons] at hmem
      cases hfinish with
      | saved hsaving hreporting =>
          cases hreporting
          simp [hsaved hsaving] at hmem
          exact .inr ⟨outcome, rfl, hmem.1, hmem.2.1⟩

/-- The report on a failed run tells its error redacted. -/
structure Json.TellsOfFailure (report : Json) (e : RunError) (log : List StageRecord) : Prop where
  error : report.get? "error" = some (.str (Redaction.sanitize e.message))
  bounded : (Redaction.sanitize e.message).utf8ByteSize ≤ Redaction.maxBytes
  log : report.get? "execution_log" = some (.arr (log.map StageRecord.toJson))

/-- The report on a completed run tells of the frames twice: by stages and by attempts. -/
structure Json.TellsOfCompletion (report : Json) (log : List StageRecord)
    (history : List FrameRecord) : Prop where
  log : report.get? "stage_results" = some (.arr (log.map StageRecord.toJson))
  history : report.get? "frame_execution_history" = some (.arr (history.map FrameRecord.toJson))

theorem FailureDocument.tellsOfFailure (d : FailureDocument) :
    d.toJson.TellsOfFailure d.error d.run.log :=
  ⟨rfl, Redaction.utf8ByteSize_sanitize_le _, rfl⟩

theorem ExecutionReport.tellsOfCompletion (r : ExecutionReport) :
    r.toJson.TellsOfCompletion r.run.log r.frameHistory :=
  ⟨rfl, rfl⟩

theorem FrameEntry.TellsOf.error_toJson {e : FrameEntry} {stage : Stage}
    {tried : AnsweredAttempt} (h : e.TellsOf stage tried) :
    e.toJson.get? "error" =
      (FrameOutcome.error? tried.2).map fun error => .str (Redaction.sanitize error.message) := by
  rw [h.entry]
  cases tried.2 <;> rfl

theorem FrameRecord.TellsOf.error_toJson {r : FrameRecord} {tried : AnsweredAttempt}
    (h : r.TellsOf tried) :
    r.toJson.get? "error" =
      (FrameOutcome.error? tried.2).map fun error => .str error.message := by
  unfold toJson
  rw [h.outcome]
  cases tried.2 <;> rfl

namespace Pipeline

variable {σ : Type} {host : Host σ}

/-- What comes after the stages attempts no frame. -/
theorem frameHistory_ending {scaffold : Scaffold} {answer : Except RunError Unit}
    {ending : List RunAct} {outcome : Except RunError RunOutcome} {s : Progress σ}
    (hending : IsEnding scaffold run answer ending outcome) (hplays : p.Plays host s ending) :
    (p.after host ending s).session.frameHistory = s.session.frameHistory := by
  obtain ⟨records, hrecords, hhistory⟩ := frameHistory_after hplays
  rw [RunAct.answered_of_silent hending.silent, List.forall₂_nil_right_iff] at hrecords
  rw [hhistory, hrecords, List.append_nil]

/-- In the reports of every run, the error of the run and the errors of the frames in its
log are redacted.  The errors in the history of the frames, which the report on a
completed run repeats, are those of the attempts as they were. -/
theorem execute_error_texts {scaffoldId : String} {scaffold : Scaffold} {input document : Json}
    (hfound : p.registry.scaffolds.get? scaffoldId = some scaffold)
    (hinput : runInput input = .ok document) (host : Host σ) (stopped : Bool)
    (session : Session σ) :
    ∃ walk ending answer final,
      p.IsRun host scaffold document stopped session walk ending answer
        (p.execute host scaffoldId input stopped session) ∧
      final = p.after host (walk ++ ending) (p.begin scaffold document session) ∧
      stateOf (p.execute host scaffoldId input stopped session) = final.session ∧
      (∀ subject report name, .report subject report (.ok name) ∈ walk ++ ending →
        subject = ReportDirectory.auditSubject scaffold.id ∨
        (∃ e, answerOf (p.execute host scaffoldId input stopped session) = .error e ∧
          subject = ReportDirectory.failureSubject ∧ report.TellsOfFailure e final.run.log) ∨
        (∃ o, answerOf (p.execute host scaffoldId input stopped session) = .ok o ∧
          subject = ReportDirectory.executionSubject scaffold.id ∧
          report.TellsOfCompletion final.run.log final.session.frameHistory)) ∧
      (∀ r ∈ final.run.log, ∀ e ∈ r.result.results,
        ∃ tried ∈ RunAct.answered (walk ++ ending),
          e.TellsOf r.stage tried ∧
          e.toJson.get? "error" = (FrameOutcome.error? tried.2).map fun error =>
            .str (Redaction.sanitize error.message)) ∧
      List.Forall₂
        (fun record tried => record.TellsOf tried ∧
          record.toJson.get? "error" = (FrameOutcome.error? tried.2).map fun error =>
            .str error.message)
        final.session.frameHistory (RunAct.answered (walk ++ ending)) := by
  obtain ⟨walk, ending, answer, hrun⟩ := exists_isRun hfound hinput host stopped session
  have hwalk := hrun.walks
  have hhistory := frameHistory_ending hrun.ends hrun.plays_ending
  rw [← after_append] at hhistory
  have hreached := p.reached_after host
    (.start : Run.Reached _ [] (p.begin scaffold document session).run) walk
  refine ⟨walk, ending, answer, _, hrun, rfl, hrun.state, ?_, ?_, ?_⟩
  · intro subject report name hmem
    rw [hrun.run_after, hhistory]
    rcases List.mem_append.mp hmem with hmem | hmem
    · exact .inl (hwalk.subject_of_report hmem)
    right
    rcases hrun.ends.written hmem with
      ⟨failure, houtcome, hfailed, hsubject, rfl⟩ | ⟨o, houtcome, hsubject, rfl⟩
    · exact .inl ⟨failure.error, houtcome, hsubject, hfailed ▸ failure.tellsOfFailure⟩
    · have hresult := hrun.result_eq
      rw [houtcome] at hresult
      obtain ⟨path, millis, -, hreport⟩ := conclude_report (hrun.concluded.symm.trans hresult)
      rw [hreached.frame.2.1] at hsubject
      have htells := o.report.tellsOfCompletion
      rw [hreport] at htells ⊢
      exact .inr ⟨o, houtcome, hsubject, htells⟩
  · intro r hr e he
    rw [hrun.run_after] at hr
    have hentry := hreached.entry_mem (p.begin_isFresh scaffold document session) hwalk.turns.1 hr
    obtain ⟨tried, htried, htells⟩ := hwalk.areBacked r.entry hentry e he
    refine ⟨tried, ?_, htells, htells.error_toJson⟩
    rw [RunAct.answered_append]
    exact List.mem_append_left _ htried
  · exact (frameHistory_of_plays hrun.plays).imp fun record tried htells =>
      ⟨htells, htells.error_toJson⟩

/-- A host on which every frame fails with a secret in the text of its error. -/
def leaking : Host (List FrameCall) where
  callFrame call world :=
    (.done (.error (.execution "password=hunter2")),
      { world with state := world.state ++ [call] })
  runProgram _ world := (.done (.notStarted "not found"), world)

theorem execute_leaking_error_texts :
    ∃ p scaffold walk ending answer, ∃ final : Progress (List FrameCall),
      Pipeline.ofConfig approving "/" true = .ok p ∧
      p.registry.scaffolds.get? "check" = some scaffold ∧
      p.IsRun leaking scaffold (.obj []) false emptySession walk ending answer
        (p.execute leaking "check" .null false emptySession) ∧
      stateOf (p.execute leaking "check" .null false emptySession) = final.session ∧
      final.session.frameHistory.length = 2 ∧
      (∀ r ∈ final.run.log, ∀ e ∈ r.result.results,
        ∃ tried ∈ RunAct.answered (walk ++ ending), e.TellsOf r.stage tried) ∧
      List.Forall₂ FrameRecord.TellsOf final.session.frameHistory
        (RunAct.answered (walk ++ ending)) := by
  obtain ⟨p, scaffold, hconfig, hfound⟩ : ∃ p scaffold,
      Pipeline.ofConfig approving "/" true = .ok p ∧
        p.registry.scaffolds.get? "check" = some scaffold :=
    ⟨_, _, rfl, rfl⟩
  have hlength : (stateOf
      (p.execute leaking "check" .null false emptySession)).frameHistory.length = 2 := by
    obtain rfl := Except.ok.inj hconfig
    decide +kernel
  obtain ⟨walk, ending, answer, final, hrun, -, hstate, -, hlog, hhistory⟩ :=
    execute_error_texts hfound (rfl : runInput .null = .ok (.obj [])) leaking false emptySession
  rw [hstate] at hlength
  refine ⟨p, scaffold, walk, ending, answer, final, hconfig, hfound, hrun, hstate, hlength, ?_,
    hhistory.imp fun _ _ htells => htells.1⟩
  intro r hr e he
  obtain ⟨tried, htried, htells, -⟩ := hlog r hr e he
  exact ⟨tried, htried, htells⟩

/-- The text of the error of such a frame. -/
def leak : String := (FrameError.execution "password=hunter2").message

/-- The history in the report on a completed run can tell a secret that is redacted
everywhere else. -/
theorem execute_leaking_history :
    ∃ p, Pipeline.ofConfig approving "/" true = .ok p ∧
      (answerOf (p.execute leaking "check" .null false emptySession)).toOption.map
          (fun outcome => outcome.report.frameHistory.map fun r => r.toJson.get? "error") =
        some [some (.str leak), some (.str leak)] ∧
      Redaction.sanitize leak ≠ leak := by
  refine ⟨_, rfl, ?_⟩
  decide +kernel

end Pipeline

end ScaffoldRunner
