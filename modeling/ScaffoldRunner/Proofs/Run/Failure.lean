import ScaffoldRunner.Proofs.Registry
import ScaffoldRunner.Proofs.Run.Schedule
import ScaffoldRunner.Proofs.Workspace.Reports

/-!
# Why a run fails

Unless it is disturbed from outside, a run fails only because the last attempt
of a critical frame failed.  The pass in which that happens is still finished
and entered; after it the failure is reported, and nothing else is done.
-/

namespace ScaffoldRunner

variable {σ : Type}

namespace RunAct

/-- The last attempt of a critical frame failed. -/
def EndsRun (p : Pipeline) (scaffold : String) : RunAct → Prop
  | attempt call (some (.error _)) =>
      call.attempt = call.maxAttempts ∧
        p.registry.isCritical scaffold call.stage call.frame.id = true
  | _ => False

/-- The run is interrupted, or a file cannot be written. -/
def IsDisturbance : RunAct → Prop
  | attempt _ none => True
  | command _ none => True
  | report _ _ (.error _) => True
  | save _ _ _ (.error _) => True
  | _ => False

/-- No command is run, no context is saved, and no report is written but that of
the audit. -/
def IsPreliminary (scaffold : String) : RunAct → Prop
  | command .. => False
  | save .. => False
  | report subject _ _ => subject = ReportDirectory.auditSubject scaffold
  | _ => True

end RunAct

/-- How a run breaks down: after some acts, in a sweep over the frames of a
stage, whose result is still entered. -/
structure Breakdown where
  before : List RunAct
  sweep : List RunAct
  stage : Stage
  repeated : Bool
  result : StageResult

namespace Breakdown

/-- The acts up to the entry of the stage that failed. -/
def acts (b : Breakdown) : List RunAct := b.before ++ b.sweep ++ entering b.repeated b.result

/-- The error that the run fails with. -/
def error (b : Breakdown) : RunError :=
  .stageFailed b.stage (Pipeline.failureMessage b.result.criticalFailures)

/-- The sweep is the first in which a critical frame fails for good, and it still
goes over all the frames of its stage. -/
structure IsFirst (p : Pipeline) (scaffold : String) (b : Breakdown) : Prop where
  calm : ∀ act ∈ b.before, ¬act.EndsRun p scaffold
  fatal : ∃ act ∈ b.sweep, act.EndsRun p scaffold
  critical : b.result.criticalFailures ≠ []
  preliminary : ∀ act ∈ b.acts, act.IsPreliminary scaffold
  marks_sweep : RunAct.marks b.sweep = p.sweepWord scaffold b.stage
  stage_result : b.result.stage = b.stage
  frames_result : b.result.results.map FrameEntry.frameId =
    (p.registry.framesFor scaffold b.stage).map Frame.id

end Breakdown

def Undisturbed (acts : List RunAct) : Prop := ∀ act ∈ acts, ¬act.IsDisturbance

def RunError.IsOfStage : RunError → Prop
  | stageFailed .. => True
  | _ => False

/-- Some acts fail for a reason, which their error tells: they are disturbed, or they break
down and are not. -/
def FailsFor (p : Pipeline) (scaffold : String) (acts : List RunAct) (e : RunError) : Prop :=
  ¬Undisturbed acts ∧ ¬e.IsOfStage ∨
    ∃ b : Breakdown, b.IsFirst p scaffold ∧ acts = b.acts ∧ e = b.error ∧ Undisturbed acts

/-- Acts that neither end the run nor leave anything behind outside of it. -/
structure Uneventful (p : Pipeline) (scaffold : String) (acts : List RunAct) : Prop where
  calm : ∀ act ∈ acts, ¬act.EndsRun p scaffold
  preliminary : ∀ act ∈ acts, act.IsPreliminary scaffold
  undisturbed : Undisturbed acts

variable {p : Pipeline} {origin run : Run} {scaffold : String} {stage : Stage}
  {acts : List RunAct}

theorem RunAct.IsInterruption.isDisturbance {act : RunAct} (h : act.IsInterruption) :
    act.IsDisturbance := by
  match act with
  | attempt _ none | command _ none => trivial
  | attempt _ (some _) | command _ (some _) | count _ | enter _ | report .. | save .. =>
      exact h.elim

theorem Undisturbed.append {before rest : List RunAct} (hbefore : Undisturbed before)
    (hrest : Undisturbed rest) : Undisturbed (before ++ rest) :=
  List.forall_mem_append.mpr ⟨hbefore, hrest⟩

/-- A disturbance is not undone by what comes before or after it. -/
theorem not_undisturbed_of_mem {act : RunAct} (hact : act ∈ acts) (h : act.IsDisturbance) :
    ¬Undisturbed acts :=
  fun hquiet => hquiet act hact h

/-- Only an attempt ends a run. -/
theorem RunAct.EndsRun.exists_attempt {act : RunAct} (h : act.EndsRun p scaffold) :
    ∃ call outcome, act = .attempt call outcome := by
  cases act with
  | attempt call outcome => exact ⟨call, outcome, rfl⟩
  | command | count | enter | report | save => exact h.elim

/-! ## Trials and sweeps -/

theorem IsTrial.endsRun_iff {retries : Nat} {call : FrameCall} {outcome : Option FrameOutcome}
    (h : IsTrial retries call acts outcome) (hretries : call.attempt + retries = call.maxAttempts) :
    (∃ act ∈ acts, act.EndsRun p scaffold) ↔
      (∃ e, outcome = some (.error e)) ∧
        p.registry.isCritical scaffold call.stage call.frame.id = true := by
  induction h with
  | interrupted retries call => simp [RunAct.EndsRun]
  | success retries call result => simp [RunAct.EndsRun]
  | failure call e => simp [RunAct.EndsRun, ← hretries]
  | @again retries call e acts outcome _ ih =>
      -- An attempt that is followed by another one was not the last.
      have hearly : ¬(RunAct.attempt call (some (.error e))).EndsRun p scaffold := by
        intro hends
        have := hends.1
        omega
      have hnext : call.next.attempt + retries = call.next.maxAttempts := by
        have hnumber : call.next.attempt = call.attempt + 1 := rfl
        have hmax : call.next.maxAttempts = call.maxAttempts := rfl
        omega
      refine Iff.trans ?_ (ih hnext)
      have hcount : ¬(RunAct.count Metrics.frameRetried).EndsRun p scaffold := id
      simp [hearly, hcount]

theorem IsTrial.isPreliminary {retries : Nat} {call : FrameCall} {outcome : Option FrameOutcome}
    (h : IsTrial retries call acts outcome) : ∀ act ∈ acts, act.IsPreliminary scaffold := by
  induction h with
  | interrupted | success | failure => simp [RunAct.IsPreliminary]
  | again _ _ ih => simpa [RunAct.IsPreliminary] using ih

theorem IsTrial.undisturbed {retries : Nat} {call : FrameCall} {outcome : FrameOutcome}
    (h : IsTrial retries call acts (some outcome)) : Undisturbed acts := by
  generalize hanswer : some outcome = answer at h
  induction h with
  | interrupted => cases hanswer
  | success | failure => simp [Undisturbed, RunAct.IsDisturbance]
  | again _ _ ih => simpa [Undisturbed, RunAct.IsDisturbance] using ih hanswer

theorem FrameEntry.endsRun_ofOutcome (frame : Frame) (critical : Bool)
    (outcome : FrameOutcome) :
    (FrameEntry.ofOutcome frame critical outcome).endsRun = true ↔
      (∃ e, some outcome = some (.error e)) ∧ critical = true := by
  cases outcome <;> simp [ofOutcome, endsRun]

/-- A sweep ends the run exactly when one of its entries does. -/
theorem IsSweep.endsRun_iff {frames : List Frame} {entries : List FrameEntry}
    (h : IsSweep p run stage frames acts (some entries)) :
    (∃ act ∈ acts, act.EndsRun p run.scaffoldId) ↔
      ∃ entry ∈ entries, entry.endsRun = true := by
  generalize hanswer : some entries = answer at h
  induction h generalizing entries with
  | done => simp_all
  | interrupted | later => simp at hanswer
  | @next frame frames acts more outcome entries htrial _ ih =>
      obtain rfl := Option.some.inj hanswer
      have hfirst : (∃ act ∈ acts, act.EndsRun p run.scaffoldId) ↔ _ :=
        htrial.endsRun_iff (p.retries_firstCall stage run frame)
      have hentry := FrameEntry.endsRun_ofOutcome frame
        (p.registry.isCritical run.scaffoldId stage frame.id) outcome
      simp only [List.mem_append, or_and_right, exists_or, List.mem_cons, exists_eq_left]
      exact or_congr (hfirst.trans hentry.symm) (ih rfl)

theorem IsSweep.isPreliminary {frames : List Frame} {answer : Option (List FrameEntry)}
    (h : IsSweep p run stage frames acts answer) :
    ∀ act ∈ acts, act.IsPreliminary scaffold := by
  induction h with
  | done => simp
  | interrupted _ htrial => exact htrial.isPreliminary
  | later htrial _ ih | next htrial _ ih =>
      exact List.forall_mem_append.mpr ⟨htrial.isPreliminary, ih⟩

theorem IsSweep.undisturbed {frames : List Frame} {entries : List FrameEntry}
    (h : IsSweep p run stage frames acts (some entries)) : Undisturbed acts := by
  generalize hanswer : some entries = answer at h
  induction h generalizing entries with
  | done => simp [Undisturbed]
  | interrupted | later => cases hanswer
  | next htrial _ ih => exact htrial.undisturbed.append (ih rfl)

theorem IsSweep.endsRun_iff_criticalFailures {frames : List Frame} {entries : List FrameEntry}
    (h : IsSweep p run stage frames acts (some entries)) :
    (∃ act ∈ acts, act.EndsRun p run.scaffoldId) ↔
      (StageResult.ofSweep stage entries).criticalFailures ≠ [] := by
  rw [h.endsRun_iff, StageResult.criticalFailures, StageResult.results_ofSweep]
  simp [List.filter_eq_nil_iff]

/-! ## Breakdowns -/

theorem Uneventful.append {before rest : List RunAct} (hbefore : Uneventful p scaffold before)
    (hrest : Uneventful p scaffold rest) : Uneventful p scaffold (before ++ rest) where
  calm := List.forall_mem_append.mpr ⟨hbefore.calm, hrest.calm⟩
  preliminary := List.forall_mem_append.mpr ⟨hbefore.preliminary, hrest.preliminary⟩
  undisturbed := hbefore.undisturbed.append hrest.undisturbed

theorem uneventful_entering (repeated : Bool) (result : StageResult) :
    Uneventful p scaffold (entering repeated result) := by
  constructor <;>
    simp [Undisturbed, entering, RunAct.EndsRun, RunAct.IsPreliminary, RunAct.IsDisturbance]

/-- What happens before does not change why some acts fail. -/
theorem FailsFor.after {before : List RunAct} {e : RunError} (h : FailsFor p scaffold acts e)
    (hbefore : Uneventful p scaffold before) : FailsFor p scaffold (before ++ acts) e := by
  rcases h with ⟨hdisturbed, he⟩ | ⟨b, hb, rfl, rfl, hquiet⟩
  · exact .inl ⟨fun hquiet => hdisturbed fun act hact =>
      hquiet act (List.mem_append_right before hact), he⟩
  · refine .inr ⟨{ b with before := before ++ b.before }, ?_, ?_, rfl,
      hbefore.undisturbed.append hquiet⟩
    · refine ⟨?_, hb.fatal, hb.critical, ?_, hb.marks_sweep, hb.stage_result, hb.frames_result⟩
      · exact List.forall_mem_append.mpr ⟨hbefore.calm, hb.calm⟩
      · intro act hact
        simp only [Breakdown.acts, List.append_assoc] at hact
        rcases List.mem_append.mp hact with hact | hact
        · exact hbefore.preliminary act hact
        · exact hb.preliminary act (by simpa [Breakdown.acts] using hact)
    · simp [Breakdown.acts]

theorem IsPass.uneventful {repeated : Bool} {result : StageResult}
    (h : IsPass p run stage repeated acts (.ok result)) :
    Uneventful p run.scaffoldId acts := by
  cases h with
  | finished hsweep hcritical =>
      refine ⟨fun act hact hends => ?_, hsweep.isPreliminary, hsweep.undisturbed⟩
      exact hsweep.endsRun_iff_criticalFailures.mp ⟨act, hact, hends⟩ hcritical

theorem IsPass.failsFor {repeated : Bool} {e : RunError}
    (h : IsPass p run stage repeated acts (.error e)) : FailsFor p run.scaffoldId acts e := by
  cases h with
  | interrupted hsweep =>
      obtain ⟨call, hcall⟩ := hsweep.exists_interruption
      exact .inl ⟨not_undisturbed_of_mem hcall trivial, id⟩
  | @failed sweep entries hsweep hcritical =>
      let result := (StageResult.ofSweep stage entries).failing
      have hentering : Uneventful p run.scaffoldId (entering repeated result) :=
        uneventful_entering repeated result
      refine .inr ⟨⟨[], sweep, stage, repeated, result⟩, ?_, rfl, rfl,
        hsweep.undisturbed.append hentering.undisturbed⟩
      refine ⟨by simp, hsweep.endsRun_iff_criticalFailures.mpr hcritical, hcritical,
        List.forall_mem_append.mpr ⟨hsweep.isPreliminary, hentering.preliminary⟩,
        hsweep.marks, StageResult.stage_ofSweep stage entries, ?_⟩
      exact (congrArg _ (StageResult.results_ofSweep stage entries)).trans hsweep.map_frameId

theorem IsRepeat.uneventful {result : StageResult}
    (h : IsRepeat p run stage acts (.ok result)) : Uneventful p run.scaffoldId acts := by
  cases h with
  | entered hpass => exact hpass.uneventful.append (uneventful_entering _ _)

theorem IsRepeat.failsFor {e : RunError} (h : IsRepeat p run stage acts (.error e)) :
    FailsFor p run.scaffoldId acts e := by
  cases h with
  | stopped hpass => exact hpass.failsFor

theorem IsRepetition.uneventful {past : List Entry} {stages : List Stage}
    {results : List StageResult} (h : IsRepetition p origin past stages acts (.ok results)) :
    Uneventful p origin.scaffoldId acts := by
  constructor
  · refine IsSeries.forall_of_ok (fun past run stage acts result hpast _ hrepeat => ?_) h
    exact hpast.frame.2.1 ▸ hrepeat.uneventful.calm
  · refine IsSeries.forall_of_ok (fun past run stage acts result hpast _ hrepeat => ?_) h
    exact hpast.frame.2.1 ▸ hrepeat.uneventful.preliminary
  · exact IsSeries.forall_of_ok
      (fun _ _ _ _ _ _ _ hrepeat => hrepeat.uneventful.undisturbed) h

theorem IsRepetition.failsFor {past : List Entry} {stages : List Stage} {e : RunError}
    (h : IsRepetition p origin past stages acts (.error e)) :
    FailsFor p origin.scaffoldId acts e := by
  obtain ⟨_, stage, _, before, last, results, run, _, rfl, hbefore, hpast, hlast⟩ :=
    IsSeries.exists_of_error h
  exact (hpast.frame.2.1 ▸ hlast.failsFor).after (IsRepetition.uneventful hbefore)

/-! ## Stages and the whole run -/

theorem RunAct.IsCommand.not_endsRun {act : RunAct} (h : act.IsCommand) :
    ¬act.EndsRun p scaffold := by
  obtain ⟨argv, result, rfl⟩ := h
  exact id

theorem IsCompletion.calm {past : List Entry} {result completed : StageResult}
    (h : IsCompletion p origin past run result acts (.ok completed)) :
    ∀ act ∈ acts, ¬act.EndsRun p origin.scaffoldId := by
  cases h with
  | repeated _ _ hrepetition => exact hrepetition.uneventful.calm
  | published _ _ _ hcommands => exact fun act hact => (hcommands act hact).not_endsRun
  | unrepeated | audited | unpublished | plain => simp [RunAct.EndsRun]

/-- A command is disturbed only when it is interrupted. -/
theorem RunAct.IsCommand.isInterruption {act : RunAct} (h : act.IsCommand)
    (hdisturbance : act.IsDisturbance) : act.IsInterruption := by
  obtain ⟨argv, _ | result, rfl⟩ := h
  · trivial
  · exact hdisturbance.elim

theorem IsCompletion.undisturbed {past : List Entry} {result completed : StageResult}
    (h : IsCompletion p origin past run result acts (.ok completed)) : Undisturbed acts := by
  cases h with
  | repeated _ _ hrepetition => exact hrepetition.uneventful.undisturbed
  | published _ _ _ hcommands hquiet =>
      exact fun act hact hdisturbance =>
        hquiet act hact ((hcommands act hact).isInterruption hdisturbance)
  | unrepeated | audited | unpublished | plain => simp [Undisturbed, RunAct.IsDisturbance]

theorem IsCompletion.isPreliminary {past : List Entry} {result completed : StageResult}
    (hpast : origin.Reached past run)
    (h : IsCompletion p origin past run result acts (.ok completed))
    (hstage : result.stage ≠ .pushRemote) :
    ∀ act ∈ acts, act.IsPreliminary origin.scaffoldId := by
  cases h with
  | repeated _ _ hrepetition => exact hrepetition.uneventful.preliminary
  | published _ htenth | unpublished htenth => exact absurd htenth hstage
  | audited => simp [RunAct.IsPreliminary, hpast.frame.2.1]
  | unrepeated | plain => simp

theorem IsCompletion.failsFor {past : List Entry} {result : StageResult} {e : RunError}
    (h : IsCompletion p origin past run result acts (.error e)) :
    FailsFor p origin.scaffoldId acts e := by
  cases h with
  | repetitionFailed _ _ hrepetition => exact hrepetition.failsFor
  | unaudited => exact .inl ⟨not_undisturbed_of_mem (List.mem_singleton_self _) trivial, id⟩
  | publicationInterrupted _ _ _ hends =>
      obtain ⟨act, hact, hinterruption⟩ := hends.exists_interruption
      exact .inl ⟨not_undisturbed_of_mem hact hinterruption.isDisturbance, id⟩

theorem IsStageRun.calm {past : List Entry} {result : StageResult}
    (hpast : origin.Reached past run)
    (h : IsStageRun p origin past run stage acts (.ok result)) :
    ∀ act ∈ acts, ¬act.EndsRun p origin.scaffoldId := by
  cases h with
  | entered hpass hcompletion =>
      refine List.forall_mem_append.mpr ⟨List.forall_mem_append.mpr ⟨?_, ?_⟩, ?_⟩
      · exact hpast.frame.2.1 ▸ hpass.uneventful.calm
      · exact hcompletion.calm
      · exact (uneventful_entering false result).calm

/-- A stage that is not the last one runs no command. -/
theorem IsStageRun.uneventful {past : List Entry} {result : StageResult}
    (hpast : origin.Reached past run)
    (h : IsStageRun p origin past run stage acts (.ok result)) (hstage : stage ≠ .pushRemote) :
    Uneventful p origin.scaffoldId acts := by
  cases h with
  | entered hpass hcompletion =>
      have hpassed := hpass.uneventful
      rw [hpast.frame.2.1] at hpassed
      exact (hpassed.append ⟨hcompletion.calm,
        hcompletion.isPreliminary hpast (hpass.stage_of_ok ▸ hstage),
        hcompletion.undisturbed⟩).append (uneventful_entering false result)

theorem IsStageRun.failsFor {past : List Entry} {e : RunError}
    (hpast : origin.Reached past run)
    (h : IsStageRun p origin past run stage acts (.error e)) :
    FailsFor p origin.scaffoldId acts e := by
  cases h with
  | stopped hpass => exact hpast.frame.2.1 ▸ hpass.failsFor
  | incomplete hpass hcompletion =>
      exact hcompletion.failsFor.after (hpast.frame.2.1 ▸ hpass.uneventful)

/-- The last stage does not come before another one. -/
theorem Stage.pushRemote_notMem {finished rest : List Stage} {stage : Stage}
    (h : all = finished ++ stage :: rest) : pushRemote ∉ finished := by
  have hlength : finished.length ≤ all.dropLast.length := by
    have := congrArg List.length h
    simp only [List.length_append, List.length_cons] at this
    rw [List.length_dropLast]
    omega
  have hinit : finished <+: all.dropLast :=
    List.prefix_of_prefix_length_le ⟨_, h.symm⟩ (List.dropLast_prefix all) hlength
  exact fun hmem => absurd (hinit.subset hmem) (by decide)

theorem IsWalk.calm {stopped : Bool} (h : IsWalk p origin stopped acts (.ok ())) :
    ∀ act ∈ acts, ¬act.EndsRun p origin.scaffoldId := by
  generalize hanswer : Except.ok () = answer at h
  cases h with
  | stopped => simp at hanswer
  | @walked acts answer hcourse =>
      match answer with
      | .error e => simp [Except.map] at hanswer
      | .ok results =>
          exact IsSeries.forall_of_ok
            (fun past run stage acts result hpast _ hrun => hrun.calm hpast) hcourse

/-- A walk through the stages that fails has a reason. -/
theorem IsWalk.failsFor {e : RunError} (h : IsWalk p origin false acts (.error e)) :
    FailsFor p origin.scaffoldId acts e := by
  generalize hanswer : Except.error e = answer at h
  cases h with
  | @walked acts answer hcourse =>
      match answer with
      | .ok results => simp [Except.map] at hanswer
      | .error e' =>
          obtain rfl := Except.error.inj hanswer
          obtain ⟨finished, stage, rest, before, last, results, run, hstages, rfl, hbefore,
            hpast, hlast⟩ := IsSeries.exists_of_error hcourse
          have huneventful {past : List Entry} {run : Run} {stage : Stage} {acts : List RunAct}
              {result : StageResult} (hpast : origin.Reached past run) (hstage : stage ∈ finished)
              (hrun : IsStageRun p origin past run stage acts (.ok result)) :
              Uneventful p origin.scaffoldId acts :=
            hrun.uneventful hpast fun heq => Stage.pushRemote_notMem hstages (heq ▸ hstage)
          refine (hlast.failsFor hpast).after ⟨?_, ?_, ?_⟩
          · exact IsSeries.forall_of_ok
              (fun _ _ _ _ _ hpast hstage hrun => (huneventful hpast hstage hrun).calm) hbefore
          · exact IsSeries.forall_of_ok
              (fun _ _ _ _ _ hpast hstage hrun => (huneventful hpast hstage hrun).preliminary)
              hbefore
          · exact IsSeries.forall_of_ok
              (fun _ _ _ _ _ hpast hstage hrun => (huneventful hpast hstage hrun).undisturbed)
              hbefore

/-! ### Endings -/

theorem IsSaving.disturbed {scaffold : Scaffold} {e : RunError}
    (h : IsSaving scaffold run acts (.error e)) : ∃ act ∈ acts, act.IsDisturbance := by
  cases h with
  | unsaved => exact ⟨_, List.mem_singleton_self _, trivial⟩

theorem IsFinish.disturbed {scaffold : Scaffold} {e : RunError}
    (h : IsFinish scaffold run acts (.error e)) : ∃ act ∈ acts, act.IsDisturbance := by
  cases h with
  | unsaved hsaving => exact hsaving.disturbed
  | saved _ hreporting =>
      cases hreporting with
      | unreported => exact ⟨_, List.mem_append_right _ (List.mem_singleton_self _), trivial⟩

/-- A run that cannot be finished does not fail for a stage. -/
theorem IsFinish.not_isOfStage {scaffold : Scaffold} {e : RunError}
    (h : IsFinish scaffold run acts (.error e)) : ¬e.IsOfStage := by
  cases h with
  | unsaved hsaving =>
      cases hsaving
      exact id
  | saved _ hreporting =>
      cases hreporting
      exact id

theorem IsFinish.calm {scaffold : Scaffold} {id : String}
    {answer : Except RunError RunOutcome} (h : IsFinish scaffold run acts answer) :
    ∀ act ∈ acts, ¬act.EndsRun p id := by
  cases h with
  | unsaved hsaving => cases hsaving; simp [RunAct.EndsRun]
  | saved hsaving hreporting =>
      cases hsaving <;> cases hreporting <;> simp [RunAct.EndsRun]

/-- A failure that can be reported is reported once, with the run. -/
theorem IsFailing.eq_of_undisturbed {change : Metrics → Metrics} {e : RunError}
    (h : IsFailing change run e acts) (hquiet : Undisturbed acts) :
    ∃ now path, acts = [.count change,
      .report ReportDirectory.failureSubject (FailureDocument.toJson ⟨now, e, run⟩)
        (.ok path)] := by
  obtain ⟨document, path, rfl, rfl⟩ := h
  match path with
  | .ok path => exact ⟨document.timestamp, path, rfl⟩
  | .error e =>
      have hreport : RunAct.report ReportDirectory.failureSubject document.toJson (.error e) ∈
          [.count change, .report ReportDirectory.failureSubject document.toJson (.error e)] :=
        List.mem_cons_of_mem _ (List.mem_singleton_self _)
      exact (hquiet _ hreport trivial).elim

/-- A run breaks down when it fails for the stage of the first pass in which a
critical frame failed for good.  All frames that are planned for that pass are
still taken up, in the order of the plan, and the stage is entered into the log;
then the failure is reported, with the log, and the run is over. -/
def BreaksDown (p : Pipeline) (scaffold : String) (acts : List RunAct) (final : Run)
    (e : RunError) : Prop :=
  ∃ (b : Breakdown) (plan : StagePlan) (change : Metrics → Metrics) (now : Instant)
    (path : String),
    b.IsFirst p scaffold ∧ e = b.error ∧
    p.registry.plan? scaffold b.stage = some plan ∧
    (p.registry.framesFor scaffold b.stage).map Frame.id = plan.frames ∧
    acts = b.acts ++ [.count change,
      .report ReportDirectory.failureSubject (FailureDocument.toJson ⟨now, b.error, final⟩)
        (.ok path)] ∧
    ∃ r ∈ final.log, r.stage = b.stage ∧ r.retried = b.repeated ∧ r.result = b.result

/-- A stage whose frames ended the run has a plan. -/
theorem Breakdown.IsFirst.exists_plan {b : Breakdown} (h : b.IsFirst p scaffold) :
    ∃ plan, p.registry.plan? scaffold b.stage = some plan := by
  match hplan : p.registry.plan? scaffold b.stage with
  | some plan => exact ⟨plan, rfl⟩
  | none =>
      have hframes := h.frames_result
      rw [Registry.framesFor, hplan] at hframes
      have hnone : b.result.results = [] := List.map_eq_nil_iff.mp hframes
      exact absurd (by simp [StageResult.criticalFailures, hnone]) h.critical

/-- The last entry of a breakdown is that of the stage that failed. -/
theorem Breakdown.entries_acts (b : Breakdown) :
    RunAct.entries b.acts =
      RunAct.entries (b.before ++ b.sweep) ++ [⟨b.repeated, b.result⟩] := by
  simp [acts, entering, RunAct.entered?]

namespace Pipeline

theorem sound_ofConfig {config : Config} {dir : String} {skips : Bool}
    (h : Pipeline.ofConfig config dir skips = .ok p) : p.registry.Sound := by
  obtain ⟨registry, hregistry, hp⟩ := bind_eq_ok.mp h
  obtain rfl := Except.ok.inj hp
  exact Registry.sound_ofConfig hregistry

namespace IsRun

variable {host : Host σ} {scaffold : Scaffold} {document : Json} {session : Session σ}
  {walk ending : List RunAct} {answer : Except RunError Unit}
  {result : EStateM.Result RunError (Session σ) RunOutcome}

/-- In a run that is completed no critical frame failed in its last attempt. -/
theorem calm_of_ok (h : p.IsRun host scaffold document false session walk ending answer result)
    {outcome : RunOutcome} (hok : answerOf result = .ok outcome) :
    ∀ act ∈ walk ++ ending, ¬act.EndsRun p scaffold.id := by
  have hends := h.ends
  rw [hok] at hends
  cases hends with
  | completed _ hfinish =>
      rw [List.forall_mem_append, List.forall_mem_cons]
      exact ⟨h.walks.calm, fun hends => hends, hfinish.calm⟩

/-- An undisturbed run that fails has failed in its stages. -/
theorem answer_eq_of_undisturbed
    (h : p.IsRun host scaffold document false session walk ending answer result)
    (hquiet : Undisturbed (walk ++ ending)) {e : RunError} (herror : answerOf result = .error e) :
    ∃ millis, answer = .error e ∧
      IsFailing (Metrics.markBroken millis)
        (p.after host walk (p.begin scaffold document session)).run e ending := by
  have hends := h.ends
  rw [herror] at hends
  cases hends with
  | unfinished _ hfinish hfailing =>
      obtain ⟨act, hact, hdisturbance⟩ := hfinish.disturbed
      refine absurd hdisturbance (hquiet act (List.mem_append_right walk ?_))
      exact List.mem_append_left _ (List.mem_cons_of_mem _ hact)
  | failed millis _ hfailing => exact ⟨millis, rfl, hfailing⟩

/-- An undisturbed run that fails breaks down, and so some critical frame failed in its last
attempt. -/
theorem breaksDown (h : p.IsRun host scaffold document false session walk ending answer result)
    (hsound : p.registry.Sound) (hquiet : Undisturbed (walk ++ ending)) {e : RunError}
    (herror : answerOf result = .error e) :
    (∃ act ∈ walk ++ ending, act.EndsRun p scaffold.id) ∧
      BreaksDown p scaffold.id (walk ++ ending)
        (p.after host (walk ++ ending) (p.begin scaffold document session)).run e := by
  obtain ⟨millis, rfl, hfailing⟩ := h.answer_eq_of_undisturbed hquiet herror
  have hwalked : Undisturbed walk := fun act hact => hquiet act (List.mem_append_left ending hact)
  obtain ⟨b, hb, rfl, rfl, -⟩ :=
    h.walks.failsFor.resolve_left fun hdisturbed => hdisturbed.1 hwalked
  obtain ⟨act, hact, hends⟩ := hb.fatal
  obtain ⟨plan, hplan⟩ := hb.exists_plan
  obtain ⟨now, path, hended⟩ := hfailing.eq_of_undisturbed fun act hact =>
    hquiet act (List.mem_append_right b.acts hact)
  refine ⟨⟨act, by simp [Breakdown.acts, hact], hends⟩, b, plan, Metrics.markBroken millis, now,
    path, hb, rfl, hplan, hsound.map_id_framesFor hplan, ?_, ?_⟩
  · rw [h.run_after, hended]
  · -- The last entry of the walk is that of the stage that failed.
    have hreached := p.reached_after host
      (.start : Run.Reached _ [] (p.begin scaffold document session).run) b.acts
    rw [List.nil_append, b.entries_acts] at hreached
    obtain ⟨r, hr, hentry⟩ := hreached.exists_mem_log
    obtain ⟨hretried, hresult⟩ := Entry.mk.inj hentry
    rw [h.run_after]
    exact ⟨r, hr, (congrArg StageResult.stage hresult).trans hb.stage_result, hretried, hresult⟩

/-- A run that fails in a stage is disturbed by nothing, as long as its failure can be
reported. -/
theorem undisturbed_of_isOfStage
    (h : p.IsRun host scaffold document false session walk ending answer result) {e : RunError}
    (herror : answerOf result = .error e) (he : e.IsOfStage)
    (hwritable : p.reports.IsWritable ReportDirectory.failureSubject
      (p.after host walk (p.begin scaffold document session)).session.now
      (p.after host walk (p.begin scaffold document session)).session.world.files) :
    Undisturbed (walk ++ ending) := by
  have hends := h.ends
  rw [herror] at hends
  cases hends with
  | unfinished _ hfinish => exact absurd he hfinish.not_isOfStage
  | failed millis _ hfailing =>
      rcases h.walks.failsFor with ⟨-, hnot⟩ | ⟨b, -, -, -, hquiet⟩
      · exact absurd he hnot
      · refine hquiet.append ?_
        cases hfailing with
        | reported report path =>
            obtain ⟨-, htrue, -⟩ := h.plays_ending
            obtain ⟨written, after, hwrite⟩ := hwritable.exists_write report.toJson
            have hpath : (Session.onFiles _ _).1 = path := htrue
            rw [Session.answer_onFiles] at hpath
            have hwritten : path = .ok written := hpath.symm.trans (congrArg answerOf hwrite)
            simp [Undisturbed, RunAct.IsDisturbance, hwritten]

end IsRun

/-- A run of a scaffold that is not disturbed succeeds exactly when no critical frame
failed in its last attempt; otherwise it breaks down. -/
theorem execute_ok_iff_not_endsRun {config : Config} {dir : String} {skips : Bool}
    (hconfig : Pipeline.ofConfig config dir skips = .ok p) {id : String}
    {scaffold : Scaffold} (hfound : p.registry.scaffolds.get? id = some scaffold)
    (host : Host σ) (members : Members) (session : Session σ) :
    (∃ walk ending answer, p.IsRun host scaffold (.obj members) false session walk ending answer
      (p.execute host id (.obj members) false session)) ∧
    ∀ walk ending answer, p.IsRun host scaffold (.obj members) false session walk ending answer
        (p.execute host id (.obj members) false session) →
      Undisturbed (walk ++ ending) →
      ((∃ outcome, answerOf (p.execute host id (.obj members) false session) = .ok outcome) ↔
        ∀ act ∈ walk ++ ending, ¬act.EndsRun p id) ∧
      ∀ e, answerOf (p.execute host id (.obj members) false session) = .error e →
        BreaksDown p id (walk ++ ending)
          (p.after host (walk ++ ending) (p.begin scaffold (.obj members) session)).run e := by
  have hsound := sound_ofConfig hconfig
  obtain rfl : scaffold.id = id := hsound.scaffold_id hfound
  refine ⟨exists_isRun hfound rfl host false session, fun walk ending answer hrun hquiet => ?_⟩
  refine ⟨⟨fun ⟨outcome, hok⟩ => hrun.calm_of_ok hok, fun hcalm => ?_⟩,
    fun e herror => (hrun.breaksDown hsound hquiet herror).2⟩
  cases hanswer : answerOf (p.execute host scaffold.id (.obj members) false session) with
  | ok outcome => exact ⟨outcome, rfl⟩
  | error e =>
      obtain ⟨act, hact, hends⟩ := (hrun.breaksDown hsound hquiet hanswer).1
      exact absurd hends (hcalm act hact)

/-- A scaffold with one frame, which is critical. -/
def oneFrame : Config where
  frames := [("probe", Frame.ofScript "probe" "Probe" "probe.py")]
  scaffolds := [("check", (Scaffold.empty "check" "Check").withStage .scope ["probe"] ["probe"])]

/-- A host on which no frame answers and no program can be started; it keeps a
record of the calls. -/
def refusing : Host (List FrameCall) where
  callFrame call world :=
    (.done (.error .noResponse), { world with state := world.state ++ [call] })
  runProgram _ world := (.done (.notStarted "not found"), world)

/-- A session in an empty world. -/
def emptySession : Session (List FrameCall) := Session.start ⟨{}, ⟨0, 0⟩, 0, []⟩

theorem exists_pipeline_oneFrame :
    ∃ p scaffold, Pipeline.ofConfig oneFrame "/" true = .ok p ∧
      p.registry.scaffolds.get? "check" = some scaffold :=
  ⟨_, _, rfl, rfl⟩

/-- The failure of the frame can be reported. -/
theorem isWritable_oneFrame :
    ∃ p scaffold message, ∃ progress : Progress (List FrameCall),
      Pipeline.ofConfig oneFrame "/" true = .ok p ∧
      p.registry.scaffolds.get? "check" = some scaffold ∧
      p.runUnlessStopped refusing false (p.begin scaffold (.obj []) emptySession) =
        .error (.stageFailed .scope message) progress ∧
      p.reports.IsWritable ReportDirectory.failureSubject progress.session.now
        progress.session.world.files := by
  obtain ⟨p, scaffold, hconfig, hfound⟩ := exists_pipeline_oneFrame
  obtain ⟨message, progress, hfails, hmade, hfits⟩ : ∃ message progress,
      p.runUnlessStopped refusing false (p.begin scaffold (.obj []) emptySession) =
        .error (.stageFailed .scope message) progress ∧
      (FileTree.createDirAll p.reports.dir progress.session.world.files =
        .ok () { entries := [(["reports"], .dir)] }) ∧
      ∀ n ≤ 1, p.reports.Fits ⟨ReportDirectory.failureSubject, progress.session.now, .null⟩ n := by
    obtain rfl := Except.ok.inj hconfig
    obtain rfl := Option.some.inj hfound
    exact ⟨_, _, rfl, rfl, by decide +kernel⟩
  have hdir : ({ entries := [(["reports"], .dir)] } : FileTree).isDir p.reports.dir = true := by
    obtain rfl := Except.ok.inj hconfig
    decide +kernel
  exact ⟨p, scaffold, message, progress, hconfig, hfound, hfails,
    ReportDirectory.isWritable_of_isDir hmade hdir (fun _ _ => rfl) hfits⟩

theorem execute_oneFrame_breaksDown :
    ∃ p scaffold walk ending answer message,
      Pipeline.ofConfig oneFrame "/" true = .ok p ∧
      p.registry.scaffolds.get? "check" = some scaffold ∧
      p.IsRun refusing scaffold (.obj []) false emptySession walk ending answer
        (p.execute refusing "check" (.obj []) false emptySession) ∧
      answerOf (p.execute refusing "check" (.obj []) false emptySession) =
        .error (.stageFailed .scope message) ∧
      Undisturbed (walk ++ ending) ∧
      (∃ act ∈ walk ++ ending, act.EndsRun p "check") ∧
      BreaksDown p "check" (walk ++ ending)
        (p.after refusing (walk ++ ending) (p.begin scaffold (.obj []) emptySession)).run
        (.stageFailed .scope message) := by
  obtain ⟨p, scaffold, message, progress, hconfig, hfound, hfails, hwritable⟩ :=
    isWritable_oneFrame
  obtain ⟨⟨walk, ending, answer, hrun⟩, htells⟩ :=
    execute_ok_iff_not_endsRun hconfig hfound refusing [] emptySession
  obtain ⟨rfl, rfl⟩ := ended_eq_error.mp (hrun.stages.symm.trans hfails)
  have herror : answerOf (p.execute refusing "check" (.obj []) false emptySession) =
      .error (.stageFailed .scope message) := by
    rw [hrun.concluded]
    rfl
  have hquiet := hrun.undisturbed_of_isOfStage herror trivial hwritable
  obtain ⟨hok, hbreaks⟩ := htells walk ending _ hrun hquiet
  refine ⟨p, scaffold, walk, ending, _, message, hconfig, hfound, hrun, herror, hquiet, ?_,
    hbreaks _ herror⟩
  by_contra hcalm
  push Not at hcalm
  obtain ⟨outcome, houtcome⟩ := hok.mpr hcalm
  rw [herror] at houtcome
  cases houtcome

end Pipeline

end ScaffoldRunner
