import ScaffoldRunner.Proofs.Run.Courses

/-!
# The conduct of a run

Every function of a run does acts in the relation that describes it, whatever
the host answers.  This is where the functions are opened up, each of them once;
a function is known to its callers by what is proved here.
-/

namespace ScaffoldRunner

variable {σ : Type}

/-- An action of the session that runs commands and does nothing else; it ends
with the first of them that is interrupted. -/
def RunsCommands {α : Type} (p : Pipeline) (host : Host σ) (action : SessionM σ α) : Prop :=
  ∀ s, ∃ acts answer, (∀ act ∈ acts, act.IsCommand) ∧ Heeds acts (answer = none) ∧
    Does p host (RunM.inSession action) s acts (RunM.settle answer)

namespace RunsCommands

variable {p : Pipeline} {host : Host σ} {α β : Type}

theorem pure (a : α) : RunsCommands p host (Pure.pure a) := by
  intro s
  exact ⟨[], some a, by simp, ⟨by simp, by simp [Uninterrupted]⟩, Does.pure a⟩

theorem execute (argv : List String) :
    RunsCommands p host (CommandResult.execute host p.commands argv) := by
  intro s
  obtain ⟨result, hdoes⟩ := Does.command p host s argv
  refine ⟨_, result, by simp [RunAct.IsCommand], ⟨?_, ?_⟩, hdoes⟩
  · rintro rfl
    exact ⟨[], .command argv none, rfl, by simp [Uninterrupted], trivial⟩
  · intro hanswer
    obtain ⟨result, rfl⟩ := Option.ne_none_iff_exists'.mp hanswer
    simp [Uninterrupted, RunAct.IsInterruption]

theorem bind {action : SessionM σ α} {f : α → SessionM σ β}
    (haction : RunsCommands p host action) (hf : ∀ a, RunsCommands p host (f a)) :
    RunsCommands p host (action >>= f) := by
  intro s
  obtain ⟨acts, answer, hcommands, hheeds, hdoes⟩ := haction s
  rw [Does.inSession_bind]
  match answer with
  | none =>
      exact ⟨acts, none, hcommands, ⟨fun _ => hheeds.ends rfl, fun h => absurd rfl h⟩,
        hdoes.bind_error _⟩
  | some a =>
      obtain ⟨more, answer, hmore, hlater, hrest⟩ := hf a (p.after host acts s)
      refine ⟨acts ++ more, answer, ?_, hlater.after (hheeds.quiet (by simp)), hdoes.bind hrest⟩
      intro act hact
      exact (List.mem_append.mp hact).elim (hcommands act) (hmore act)

theorem get_bind {f : Session σ → SessionM σ β}
    (hf : ∀ session, RunsCommands p host (f session)) : RunsCommands p host (get >>= f) := by
  intro s
  exact hf s.session s

end RunsCommands

namespace Pipeline

variable (p : Pipeline) (host : Host σ)

theorem after_run_of_entries {acts : List RunAct} (h : RunAct.entries acts = [])
    (s : Progress σ) : (p.after host acts s).run = s.run := by
  induction acts generalizing s with
  | nil => rfl
  | cons act acts ih =>
      rw [RunAct.entries_cons, List.append_eq_nil_iff] at h
      rw [after_cons, ih h.2]
      cases act with
      | enter entry => simp [RunAct.entered?] at h
      | attempt | command | count | report | save => rfl

theorem tryTimes_does (retries : Nat) (call : FrameCall) (s : Progress σ) :
    ∃ acts outcome, IsTrial retries call acts outcome ∧
      Does p host (RunM.inSession (call.tryTimes host p.contexts retries)) s acts
        (RunM.settle outcome) := by
  induction retries generalizing call s with
  | zero =>
      obtain ⟨outcome, hdoes⟩ := Does.attempt p host s call
      refine ⟨_, outcome, ?_, hdoes⟩
      match outcome with
      | none => exact .interrupted 0 call
      | some (.ok result) => exact .success 0 call result
      | some (.error e) => exact .failure call e
  | succ retries ih =>
      obtain ⟨outcome, hdoes⟩ := Does.attempt p host s call
      rw [FrameCall.tryTimes, Does.inSession_bind]
      match outcome with
      | none => exact ⟨_, none, .interrupted _ call, hdoes.bind_error _⟩
      | some (.ok result) =>
          exact ⟨_, some (.ok result), .success _ call result, hdoes.bind (Does.pure _)⟩
      | some (.error e) =>
          obtain ⟨acts, outcome, htrial, hrest⟩ := ih call.next
            (p.after host [.attempt call (some (.error e)), .count Metrics.frameRetried] s)
          refine ⟨_, outcome, .again e htrial, hdoes.bind ?_⟩
          change Does p host (RunM.inSession (modify (Session.count Metrics.frameRetried) >>=
            fun _ => call.next.tryTimes host p.contexts retries)) _ _ _
          rw [Does.inSession_bind]
          exact Does.bind (Does.inSession_modify _) hrest

theorem runFrame_does (stage : Stage) (frame : Frame) (s : Progress σ) :
    ∃ acts outcome,
      IsTrial (p.firstCall stage s.run frame).retries (p.firstCall stage s.run frame)
        acts outcome ∧
      Does p host (p.runFrame host stage frame) s acts
        ((RunM.settle outcome).map (p.frameEntry s.run stage frame)) := by
  obtain ⟨acts, outcome, htrial, hdoes⟩ := p.tryTimes_does host
    (p.firstCall stage s.run frame).retries (p.firstCall stage s.run frame) s
  refine ⟨acts, outcome, htrial, Does.get_bind ?_⟩
  match outcome with
  | none => exact hdoes.bind_error _
  | some outcome => exact hdoes.bind_pure _

theorem runEach_does (stage : Stage) (frames : List Frame) (s : Progress σ) :
    ∃ acts entries, IsSweep p s.run stage frames acts entries ∧
      Does p host (frames.mapM (p.runFrame host stage)) s acts (RunM.settle entries) := by
  induction frames generalizing s with
  | nil => exact ⟨[], some [], .done, Does.pure []⟩
  | cons frame frames ih =>
      obtain ⟨acts, outcome, htrial, hdoes⟩ :=
        p.runFrame_does host stage frame s
      rw [List.mapM_cons]
      match outcome with
      | none => exact ⟨acts, none, .interrupted frames htrial, hdoes.bind_error _⟩
      | some outcome =>
          obtain ⟨more, entries, hsweep, hrest⟩ := ih (p.after host acts s)
          rw [p.after_run_of_entries host htrial.entries] at hsweep
          match entries with
          | none =>
              exact ⟨acts ++ more, none, .later htrial hsweep,
                hdoes.bind (hrest.bind_error _)⟩
          | some entries =>
              exact ⟨acts ++ more, _, .next htrial hsweep,
                hdoes.bind (hrest.bind_pure _)⟩

/-- Entering a result, whichever way its success is told. -/
theorem entering_does (repeated : Bool) (result : StageResult) (s : Progress σ) :
    Does p host (RunM.conclude repeated result) s (entering repeated result) (.ok ()) :=
  (Does.count _).bind (Does.enter repeated result)

theorem accept_does (repeated : Bool) {result : StageResult}
    (h : result.criticalFailures = []) (s : Progress σ) :
    Does p host (accept repeated result) s [] (.ok result) := by
  rw [accept, h]
  exact Does.pure result

theorem accept_does_failing (repeated : Bool) {result : StageResult}
    (h : result.criticalFailures ≠ []) (s : Progress σ) :
    Does p host (accept repeated result) s (entering repeated result.failing)
      (.error (.stageFailed result.stage (failureMessage result.criticalFailures))) := by
  have hunsuccessful : result.failing.isSuccessful = false :=
    StageResult.isSuccessful_of_criticalFailures h
  obtain ⟨failure, failures, hcons⟩ := List.exists_cons_of_ne_nil h
  rw [entering, hunsuccessful, StageResult.failing, accept, hcons]
  exact (Does.count _).bind ((Does.enter _ _).bind (Does.throw _))

theorem runFrames_does (stage : Stage) (repeated : Bool) (s : Progress σ) :
    ∃ acts answer, IsPass p s.run stage repeated acts answer ∧
      Does p host (p.runFrames host stage repeated) s acts answer := by
  obtain ⟨acts, entries, hsweep, hdoes⟩ :=
    p.runEach_does host stage (p.planned s.run stage) s
  by_cases hframes : p.planned s.run stage = []
  · have hnone : IsSweep p s.run stage (p.planned s.run stage) [] (some []) := by
      rw [hframes]
      exact .done
    refine ⟨[], _, .finished hnone rfl, Does.get_bind ?_⟩
    have hempty : (p.registry.framesFor s.run.scaffoldId stage).isEmpty = true :=
      List.isEmpty_iff.mpr hframes
    rw [if_pos hempty]
    exact Does.pure _
  · have hempty : ¬(p.registry.framesFor s.run.scaffoldId stage).isEmpty = true :=
      fun h => hframes (List.isEmpty_iff.mp h)
    have hstep : ∀ {acts answer},
        Does p host ((p.planned s.run stage).mapM (p.runFrame host stage) >>= fun entries =>
          accept repeated (.ofFrames stage entries)) s acts answer →
        Does p host (p.runFrames host stage repeated) s acts answer := by
      intro acts answer h
      refine Does.get_bind ?_
      rw [if_neg hempty]
      exact h
    match entries with
    | none => exact ⟨acts, _, .interrupted hsweep, hstep (hdoes.bind_error _)⟩
    | some [] =>
        exact absurd (List.eq_nil_of_length_eq_zero hsweep.length.symm) hframes
    | some (entry :: entries) =>
        by_cases hfailures :
            (StageResult.ofSweep stage (entry :: entries)).criticalFailures = []
        · refine ⟨acts ++ [], .ok (.ofFrames stage (entry :: entries)), ?_, hstep ?_⟩
          · rw [List.append_nil]
            exact .finished hsweep hfailures
          · exact hdoes.bind (p.accept_does host repeated hfailures _)
        · exact ⟨_, _, .failed hsweep hfailures,
            hstep (hdoes.bind (p.accept_does_failing host repeated hfailures _))⟩

/-- Running stages one after another, when each one keeps to its course. -/
theorem mapM_does {origin : Run} {α : Type} {f : Stage → RunM σ α} {g : StageResult → α}
    {step : List Entry → Run → Stage → List RunAct → Except RunError StageResult → Prop}
    (hf : ∀ past stage s, origin.Reached past s.run →
      ∃ acts answer, step past s.run stage acts answer ∧
        Does p host (f stage) s acts (answer.map g))
    (stages : List Stage) {past : List Entry} {s : Progress σ}
    (hpast : origin.Reached past s.run) :
    ∃ acts answer, IsSeries origin step past stages acts answer ∧
      Does p host (stages.mapM f) s acts (answer.map (List.map g)) := by
  induction stages generalizing past s with
  | nil => exact ⟨[], .ok [], .done past, Does.pure []⟩
  | cons stage stages ih =>
      obtain ⟨acts, answer, hstep, hdoes⟩ := hf past stage s hpast
      rw [List.mapM_cons]
      match answer with
      | .error e => exact ⟨acts, .error e, .stopped stages hpast hstep, hdoes.bind_error _⟩
      | .ok result =>
          obtain ⟨more, answer, hseries, hrest⟩ := ih (p.reached_after host hpast acts)
          match answer with
          | .error e =>
              exact ⟨acts ++ more, .error e, .later hpast hstep hseries,
                hdoes.bind (hrest.bind_error _)⟩
          | .ok results =>
              exact ⟨acts ++ more, .ok (result :: results), .next hpast hstep hseries,
                hdoes.bind (hrest.bind_pure _)⟩

theorem repeatStage_does (stage : Stage) (s : Progress σ) :
    ∃ acts answer, IsRepeat p s.run stage acts answer ∧
      Does p host (p.repeatStage host stage) s acts (answer.map StageResult.isSuccessful) := by
  obtain ⟨acts, answer, hpass, hdoes⟩ := p.runFrames_does host stage true s
  match answer with
  | .error e => exact ⟨acts, .error e, .stopped hpass, hdoes.bind_error _⟩
  | .ok result =>
      exact ⟨_, .ok result, .entered hpass,
        hdoes.bind ((p.entering_does host true result _).bind_pure _)⟩

theorem retry_does_nothing {s : Progress σ} (h : s.run.failedStages = []) :
    Does p host (p.retry host) s [] (.ok none) := by
  refine Does.get_bind ?_
  rw [h]
  exact Does.pure none

theorem retry_does {origin : Run} {past : List Entry} {s : Progress σ}
    (hpast : origin.Reached past s.run) (h : s.run.failedStages ≠ []) :
    ∃ acts answer, IsRepetition p origin past repeatedStages acts answer ∧
      Does p host (p.retry host) s acts
        (answer.map fun results => some (retryOutcome s.run results)) := by
  obtain ⟨acts, answer, hseries, hdoes⟩ := p.mapM_does host
    (fun _ stage s _ => p.repeatStage_does host stage s) repeatedStages hpast
  refine ⟨acts, answer, hseries, Does.get_bind ?_⟩
  obtain ⟨stage, stages, hcons⟩ := List.exists_cons_of_ne_nil h
  rw [hcons]
  match answer with
  | .error e => exact hdoes.bind_error _
  | .ok results =>
      have hanswer := hdoes.bind_pure fun outcomes => some {
        failed := stage :: stages
        retried := repeatedStages
        recovered := outcomes.all id : RetryOutcome }
      simpa [retryOutcome, hcons, List.all_map, Except.map] using hanswer

theorem audit_does (s : Progress σ) :
    ∃ path, Does p host p.audit s
      [.report (ReportDirectory.auditSubject s.run.scaffoldId)
        (StageRecord.audit s.run.log s.run.preserved).toJson path]
      ((path.mapError RunError.io).map
        (AuditOutcome.mk (StageRecord.audit s.run.log s.run.preserved))) := by
  obtain ⟨path, hdoes⟩ := Does.writeReport p host s
    (ReportDirectory.auditSubject s.run.scaffoldId)
    (StageRecord.audit s.run.log s.run.preserved).toJson
  refine ⟨path, Does.get_bind ?_⟩
  match path with
  | .error e => exact hdoes.bind_error _
  | .ok path => exact hdoes.bind_pure _

theorem publish_runsCommands :
    RunsCommands p host (Publication.publish host p.commands) := by
  have hcommand (argv : List String) :
      RunsCommands p host (CommandResult.execute host p.commands argv) :=
    .execute argv
  refine (hcommand _).bind fun status => ?_
  cases status.success
  · exact .pure _
  · refine (hcommand _).bind fun added => .get_bind fun session => ?_
    refine (hcommand _).bind fun committed => (hcommand _).bind fun pushed => ?_
    exact .get_bind fun session => .pure _

theorem completeStage_does {origin : Run} {past : List Entry} {s : Progress σ}
    (hpast : origin.Reached past s.run) (result : StageResult) :
    ∃ acts answer, IsCompletion p origin past s.run result acts answer ∧
      Does p host (p.completeStage host result) s acts answer := by
  unfold completeStage
  split
  case h_1 hstage =>
    by_cases hfailed : s.run.failedStages = []
    · exact ⟨[], _, .unrepeated hstage hfailed,
        (p.retry_does_nothing host hfailed).bind (Does.pure _)⟩
    · obtain ⟨acts, answer, hseries, hdoes⟩ := p.retry_does host hpast hfailed
      match answer with
      | .error e =>
          exact ⟨acts, _, .repetitionFailed hstage hfailed hseries, hdoes.bind_error _⟩
      | .ok results =>
          refine ⟨acts ++ [], _, ?_, hdoes.bind (Does.pure _)⟩
          rw [List.append_nil]
          exact .repeated hstage hfailed hseries
  case h_2 hstage =>
    obtain ⟨path, hdoes⟩ := p.audit_does host s
    match path with
    | .error e => exact ⟨_, _, .unaudited e hstage, hdoes.bind_error _⟩
    | .ok path => exact ⟨_, _, .audited path hstage, hdoes.bind_pure _⟩
  case h_3 hstage =>
    by_cases hskip : p.skipPush = true
    · rw [if_pos hskip]
      exact ⟨_, _, .unpublished hstage hskip, (Does.count _).bind_pure _⟩
    · obtain ⟨acts, publication, hcommands, hheeds, hdoes⟩ := p.publish_runsCommands host s
      have hpush : p.skipPush = false := Bool.eq_false_iff.mpr hskip
      rw [if_neg hskip]
      match publication with
      | none =>
          exact ⟨acts, _, .publicationInterrupted hstage hpush hcommands (hheeds.ends rfl),
            hdoes.bind_error _⟩
      | some publication =>
          exact ⟨acts, _, .published publication hstage hpush hcommands
            (hheeds.quiet (by simp)), hdoes.bind_pure _⟩
  case h_4 hfifth hseventh htenth =>
    exact ⟨[], _, .plain hfifth hseventh htenth, Does.pure _⟩

theorem runStage_does {origin : Run} {past : List Entry} {s : Progress σ}
    (hpast : origin.Reached past s.run) (stage : Stage) :
    ∃ acts answer, IsStageRun p origin past s.run stage acts answer ∧
      Does p host (p.runStage host stage) s acts (answer.map fun _ => ()) := by
  obtain ⟨acts, answer, hpass, hframes⟩ := p.runFrames_does host stage false s
  match answer with
  | .error e => exact ⟨acts, .error e, .stopped hpass, hframes.bind_error _⟩
  | .ok result =>
      have hrun := p.after_run_of_entries host hpass.entries_of_ok s
      obtain ⟨more, answer, hcompletion, hcomplete⟩ :=
        p.completeStage_does host (hrun.symm ▸ hpast : origin.Reached past _) result
      rw [hrun] at hcompletion
      match answer with
      | .error e =>
          exact ⟨_, .error e, .incomplete hpass hcompletion,
            hframes.bind (hcomplete.bind_error _)⟩
      | .ok completed =>
          refine ⟨_, .ok completed, .entered hpass hcompletion, ?_⟩
          rw [List.append_assoc]
          exact hframes.bind (hcomplete.bind (p.entering_does host false completed _))

/-- Running stages for their effect only. -/
theorem forM_eq_mapM (f : Stage → RunM σ Unit) (stages : List Stage) :
    stages.forM f = stages.mapM f >>= fun _ => pure () := by
  induction stages with
  | nil => rfl
  | cons stage stages ih =>
      change (f stage >>= fun _ => stages.forM f) = _
      rw [List.mapM_cons, ih]
      simp

/-- Stages that are run one after another keep to a course, whatever the host answers. -/
theorem forM_runStage_does (stages : List Stage) (s : Progress σ) :
    ∃ acts answer, IsCourse p s.run [] stages acts answer ∧
      Does p host (stages.forM (p.runStage host)) s acts (answer.map fun _ => ()) := by
  obtain ⟨acts, answer, hcourse, hdoes⟩ := p.mapM_does host
    (fun _ stage _ hpast => p.runStage_does host hpast stage) stages
    (.start : s.run.Reached [] s.run)
  refine ⟨acts, answer, hcourse, ?_⟩
  rw [forM_eq_mapM]
  match answer with
  | .error e => exact hdoes.bind_error _
  | .ok results => exact hdoes.bind_pure _

/-- So do the stages of a run. -/
theorem runStages_does (s : Progress σ) :
    ∃ acts answer, IsCourse p s.run [] Stage.all acts answer ∧
      Does p host (p.runStages host) s acts (answer.map fun _ => ()) :=
  p.forM_runStage_does host Stage.all s

theorem runUnlessStopped_does (stopped : Bool) (s : Progress σ) :
    ∃ acts answer, IsWalk p s.run stopped acts answer ∧
      Does p host (p.runUnlessStopped host stopped) s acts answer := by
  cases stopped with
  | true => exact ⟨[], _, .stopped, Does.throw _⟩
  | false =>
      obtain ⟨acts, answer, hcourse, hdoes⟩ := p.runStages_does host s
      exact ⟨acts, _, .walked hcourse, hdoes⟩

end Pipeline

end ScaffoldRunner
