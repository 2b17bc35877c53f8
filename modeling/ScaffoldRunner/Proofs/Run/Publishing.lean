import ScaffoldRunner.Proofs.Command.Failures
import ScaffoldRunner.Proofs.Run.Effects
import ScaffoldRunner.Proofs.Run.Inward

/-!
# Publishing a working directory

A publication asks for the state of the repository first.  Without a repository nothing
else is run; otherwise adding, committing and pushing are run in this order, whatever
becomes of each of them, and what is said of the publication follows from their three
results and from the history that they are entered into.

A run publishes in its last stage, if at all.  No stage before it runs a command, so the
history of a run consists of the commands of its publication.
-/

namespace ScaffoldRunner

variable {σ α β : Type} {host : Host σ} {settings : CommandSettings}
  {session middle after : Session σ}

/-! ## Commands one after another -/

theorem CommandResult.commandHistory_execute {argv : List String} {result : CommandResult}
    (h : execute host settings argv session = .ok result after) :
    after.commandHistory = session.commandHistory ++ [result] := by
  rw [execute_eq] at h
  rcases hreply : reply host settings argv session.world with ⟨answer | _, world⟩
  · rw [hreply] at h
    injection h with hresult hafter
    rw [← hafter, ← hresult]
    rfl
  · simp [hreply] at h

/-- Commands that were run one after another, each with its result. -/
inductive CommandRuns (host : Host σ) (settings : CommandSettings) :
    Session σ → List (List String × CommandResult) → Session σ → Prop
  | nil (session : Session σ) : CommandRuns host settings session [] session
  | cons {session middle after : Session σ} {argv : List String} {result : CommandResult}
      {runs : List (List String × CommandResult)} :
      CommandResult.execute host settings argv session = .ok result middle →
      CommandRuns host settings middle runs after →
      CommandRuns host settings session ((argv, result) :: runs) after

theorem CommandRuns.commandHistory {runs : List (List String × CommandResult)}
    (h : CommandRuns host settings session runs after) :
    after.commandHistory = session.commandHistory ++ runs.map Prod.snd := by
  induction h with
  | nil session => exact (List.append_nil _).symm
  | cons hfirst _ ih =>
      rw [ih, CommandResult.commandHistory_execute hfirst, List.append_assoc]
      rfl

/-- An action that began in a session has run commands and answered what can be expected of
their results, unless one of them was interrupted. -/
def LeadsTo (host : Host σ) (settings : CommandSettings) (session : Session σ)
    (expected : List (List String × CommandResult) → α → Prop) :
    EStateM.Result Interruption (Session σ) α → Prop
  | .ok a after => ∃ runs, CommandRuns host settings session runs after ∧ expected runs a
  | .error _ after => ∃ runs argv before, CommandRuns host settings session runs before ∧
      CommandResult.execute host settings argv before = .error .shutdown after

namespace LeadsTo

variable {expected : List (List String × CommandResult) → α → Prop}

theorem pure {a : α} (h : expected [] a) :
    LeadsTo host settings session expected ((Pure.pure a : SessionM σ α) session) :=
  ⟨[], .nil session, h⟩

/-- A command is interrupted, or what follows goes on with its result. -/
theorem execute {argv : List String} {f : CommandResult → SessionM σ α}
    (h : ∀ result middle, CommandResult.execute host settings argv session = .ok result middle →
      LeadsTo host settings middle (fun runs => expected ((argv, result) :: runs))
        (f result middle)) :
    LeadsTo host settings session expected
      ((CommandResult.execute host settings argv >>= f) session) := by
  cases hfirst : CommandResult.execute host settings argv session with
  | error e after =>
      rw [bind_of_error hfirst]
      exact ⟨[], argv, session, .nil session, hfirst⟩
  | ok result middle =>
      have hrest := h result middle hfirst
      rw [bind_of_ok hfirst]
      cases hresult : f result middle with
      | ok a after =>
          rw [hresult] at hrest
          obtain ⟨runs, hruns, hexpected⟩ := hrest
          exact ⟨_, .cons hfirst hruns, hexpected⟩
      | error e after =>
          rw [hresult] at hrest
          obtain ⟨runs, last, before, hruns, hlast⟩ := hrest
          exact ⟨_, last, before, .cons hfirst hruns, hlast⟩

/-- Looking at the session is no command. -/
theorem get {f : Session σ → SessionM σ α}
    (h : LeadsTo host settings session expected (f session session)) :
    LeadsTo host settings session expected ((MonadState.get >>= f) session) :=
  h

end LeadsTo

/-! ## What is said of a publication -/

namespace Publication

/-- What a publication in a repository says, by the results of its three commands and the
history before it. -/
structure Tells (publication : Publication) (earlier : List CommandResult) (now : Instant)
    (message : String) (added committed pushed : CommandResult) : Prop where
  failures : publication.failures = CommandResult.failures [added, committed, pushed]
  success : publication.status = .success ↔ publication.failures = []
  error : publication.status = .error ↔ publication.failures = [added, committed, pushed]
  partialSuccess : publication.status = .partialSuccess ↔
    publication.failures ≠ [] ∧ publication.failures ≠ [added, committed, pushed]
  commitFailure : publication.commitFailure =
    if committed.success then none else some (.ofResult committed)
  commitMessage : publication.commitMessage =
    if added.success ∨ committed.success ∨ pushed.success then some message else none
  diagnosis : publication.diagnosis =
    if publication.failures = [] then none else some (.ofFailures now publication.failures)
  summary : publication.summary =
    some (.ofHistory (earlier ++ [added, committed, pushed]))
  recommendations : publication.recommendations =
    if publication.failures = [] then [] else
      ((publication.summary.map FailureSummary.advice).getD [] ++
        (publication.commitFailure.map CommitFailure.recommendations).getD []).eraseDups

theorem failures_eq_self_iff {results : List CommandResult} :
    CommandResult.failures results = results ↔ ∀ r ∈ results, r.success = false := by
  simp [CommandResult.failures]

theorem length_failures_lt_iff {results : List CommandResult} :
    (CommandResult.failures results).length < results.length ↔
      CommandResult.failures results ≠ results := by
  have hsublist : (CommandResult.failures results).Sublist results := List.filter_sublist
  constructor
  · intro hlt heq
    rw [heq] at hlt
    exact Nat.lt_irrefl _ hlt
  · intro hne
    exact Nat.lt_of_le_of_ne hsublist.length_le (mt hsublist.eq_of_length hne)

section Results

variable {added committed pushed : CommandResult}

/-- Not all three have failed if one of them was successful. -/
theorem failures_ne_iff :
    CommandResult.failures [added, committed, pushed] ≠ [added, committed, pushed] ↔
      added.success ∨ committed.success ∨ pushed.success := by
  rw [Ne, failures_eq_self_iff, List.forall_mem_cons, List.forall_mem_cons, List.forall_mem_cons]
  cases added.success <;> cases committed.success <;> cases pushed.success <;> simp

theorem tells_complete (hnone : CommandResult.failures [added, committed, pushed] = [])
    (earlier : List CommandResult) (now : Instant) (message : String) :
    (complete message (.ofHistory (earlier ++ [added, committed, pushed]))).Tells earlier now
      message added committed pushed := by
  have hcommitted : committed.success = true := by
    simpa using List.filter_eq_nil_iff.mp hnone committed
  constructor
  case failures => exact hnone.symm
  case success => exact iff_of_true rfl rfl
  case error | partialSuccess => simp [complete]
  case commitFailure => exact (if_pos hcommitted).symm
  case commitMessage => exact (if_pos (.inr (.inl hcommitted))).symm
  case diagnosis | summary | recommendations => rfl

theorem tells_incomplete (hsome : CommandResult.failures [added, committed, pushed] ≠ [])
    (earlier : List CommandResult) (now : Instant) (message : String) :
    (incomplete now message (CommandResult.failures [added, committed, pushed])
      (if committed.success then none else some (.ofResult committed))
      (.ofHistory (earlier ++ [added, committed, pushed]))).Tells earlier now
        message added committed pushed := by
  have hcount : (CommandResult.failures [added, committed, pushed]).length < 3 ↔
      CommandResult.failures [added, committed, pushed] ≠ [added, committed, pushed] :=
    length_failures_lt_iff
  constructor
  case failures | summary | commitFailure => rfl
  case diagnosis => exact (if_neg hsome).symm
  case recommendations => exact (advice_eq _ _).trans (if_neg hsome).symm
  case commitMessage =>
    simp only [incomplete, hcount, failures_ne_iff]
  case success | error | partialSuccess =>
    by_cases hall : CommandResult.failures [added, committed, pushed] = [added, committed, pushed]
    · simp [incomplete, hall]
    · simp [incomplete, hcount, hall, hsome]

end Results

theorem tells_ofResults (earlier : List CommandResult) (now : Instant) (message : String)
    (added committed pushed : CommandResult) :
    (ofResults now message added committed pushed
      (.ofHistory (earlier ++ [added, committed, pushed]))).Tells earlier now message
        added committed pushed := by
  rw [ofResults]
  by_cases hnone : CommandResult.failures [added, committed, pushed] = []
  · have hempty : (CommandResult.failures [added, committed, pushed]).isEmpty = true :=
      List.isEmpty_iff.mpr hnone
    exact (if_pos hempty) ▸ tells_complete hnone earlier now message
  · have hempty : ¬(CommandResult.failures [added, committed, pushed]).isEmpty = true :=
      mt List.isEmpty_iff.mp hnone
    exact (if_neg hempty) ▸ tells_incomplete hnone earlier now message

/-- What a publication says of the commands that it has run after some history. -/
inductive IsOutcome (earlier : List CommandResult) :
    List (List String × CommandResult) → Publication → Prop
  | withoutRepository {status : CommandResult} :
      status.success = false →
      IsOutcome earlier [(["git", "status"], status)] (withoutRepository status)
  | tried {status added committed pushed : CommandResult} {began now : Instant}
      {publication : Publication} :
      status.success = true →
      publication.Tells (earlier ++ [status]) now (commitMessageAt began)
        added committed pushed →
      IsOutcome earlier
        [(["git", "status"], status), (["git", "add", "."], added),
          (["git", "commit", "-m", commitMessageAt began], committed),
          (["git", "push"], pushed)] publication

/-- A publication that answers has such an outcome; only the interruption of a command
keeps it from answering. -/
theorem publish_leadsTo (host : Host σ) (settings : CommandSettings) (session : Session σ) :
    LeadsTo host settings session (IsOutcome session.commandHistory)
      (publish host settings session) := by
  apply LeadsTo.execute
  intro status first hstatus
  cases hsuccess : status.success with
  | false => exact .pure (.withoutRepository hsuccess)
  | true =>
      apply LeadsTo.execute
      intro added second hadded
      apply LeadsTo.get
      apply LeadsTo.execute
      intro committed third hcommitted
      apply LeadsTo.execute
      intro pushed fourth hpushed
      have hruns := CommandRuns.cons hstatus
        (.cons hadded (.cons hcommitted (.cons hpushed (.nil fourth))))
      have hhistory : fourth.commandHistory =
          (session.commandHistory ++ [status]) ++ [added, committed, pushed] := by
        rw [hruns.commandHistory, List.append_assoc]
        rfl
      apply LeadsTo.get
      apply LeadsTo.pure
      rw [hhistory]
      exact .tried hsuccess (tells_ofResults _ _ _ _ _ _)

/-- The summary of a publication covers its failures and nothing else. -/
def SummarizesFailures (publication : Publication) : Prop :=
  ∀ summary ∈ publication.summary, summary.report? =
    if publication.failures = [] then none else some (.ofFailures publication.failures)

/-- With nothing in the history before, there is nothing else to cover. -/
theorem IsOutcome.summarizesFailures {runs : List (List String × CommandResult)}
    {publication : Publication} (h : IsOutcome [] runs publication) :
    publication.SummarizesFailures := by
  intro summary hsummary
  cases h with
  | withoutRepository => simp [Publication.withoutRepository] at hsummary
  | @tried status _ _ _ _ _ _ hsuccess htells =>
      rw [htells.summary, Option.mem_some_iff] at hsummary
      have hstatus : CommandResult.failures [status] = [] := by
        simp [CommandResult.failures, hsuccess]
      rw [← hsummary, FailureSummary.report?_ofHistory, List.nil_append,
        CommandResult.failures_append, hstatus, List.nil_append, htells.failures]

theorem IsOutcome.nodup_recommendations {earlier : List CommandResult}
    {runs : List (List String × CommandResult)} {publication : Publication}
    (h : IsOutcome earlier runs publication) (htried : publication.status ≠ .noRepository) :
    publication.recommendations.Nodup := by
  cases h with
  | withoutRepository => exact absurd rfl htried
  | tried _ htells =>
      rw [htells.recommendations, ← distinct_eq_eraseDups]
      split
      · exact List.nodup_nil
      · exact nodup_distinct _

end Publication

/-! ## The last stage of a run -/

variable {p : Pipeline} {s later : Progress σ}

theorem RunM.inSession_eq_ok {action : SessionM σ α} {a : α}
    (h : inSession action s = .ok a later) :
    action s.session = .ok a later.session ∧ later.run = s.run := by
  unfold inSession at h
  cases haction : action s.session with
  | ok a' after =>
      rw [haction] at h
      injection h with ha hlater
      rw [← ha, ← hlater]
      exact ⟨rfl, rfl⟩
  | error e after => simp [haction] at h

namespace Pipeline

/-- Stages before the last one leave the history of the commands as it is. -/
theorem commandHistory_forM {stages : List Stage} (hstages : .pushRemote ∉ stages)
    (hok : stages.forM (p.runStage host) s = .ok () later) :
    later.session.commandHistory = s.session.commandHistory := by
  obtain ⟨acts, answer, hcourse, hplays, hends⟩ := p.forM_runStage_does host stages s
  obtain ⟨hanswer, rfl⟩ := ended_eq_ok.mp (hends.symm.trans hok)
  cases answer with
  | error e => simp [Except.map] at hanswer
  | ok results =>
      have hinward : ∀ act ∈ acts, act.IsInward := by
        refine IsSeries.forall_of_ok (fun past run stage acts result _ hmem hrun => ?_) hcourse
        have hne : stage ≠ .pushRemote := fun heq => hstages (heq ▸ hmem)
        exact hrun.isInward (.inr hne)
      rw [commandHistory_after hplays, RunAct.ran_of_isInward hinward, List.append_nil]

theorem runFrames_eq_ok {stage : Stage} {repeated : Bool} {result : StageResult}
    (h : p.runFrames host stage repeated s = .ok result later) :
    result.stage = stage ∧ result.retry = none ∧
      later.session.commandHistory = s.session.commandHistory := by
  obtain ⟨acts, answer, hpass, hplays, hends⟩ := p.runFrames_does host stage repeated s
  obtain ⟨rfl, rfl⟩ := ended_eq_ok.mp (hends.symm.trans h)
  refine ⟨hpass.stage_of_ok, ?_, ?_⟩
  · cases hpass with
    | @finished _ entries => cases entries <;> rfl
  · rw [commandHistory_after hplays, RunAct.ran_of_isInward hpass.isInward, List.append_nil]

/-- The last stage of a run has published, after some history of commands.  Its entry is the
last one, and for its success the publication counts as much as the frames. -/
structure HasPublished (p : Pipeline) (host : Host σ) (earlier : List CommandResult)
    (later : Progress σ) (publication : Publication) : Prop where
  published : ∃ before after, before.commandHistory = earlier ∧
    Publication.publish host p.commands before = .ok publication after ∧
    later.session.commandHistory = after.commandHistory
  entered : ∃ record ∈ later.run.log.getLast?, record.stage = .pushRemote ∧
    record.result.publication = some publication ∧
    (record.isSuccessful ↔ record.result.framesSuccessful ∧ publication.status = .success)

/-- A run that pushes publishes in its last stage. -/
theorem runStage_hasPublished (hpush : p.skipPush = false)
    (h : p.runStage host .pushRemote s = .ok () later) :
    ∃ publication, p.HasPublished host s.session.commandHistory later publication := by
  obtain ⟨result, swept, hframes, hrest⟩ := exists_of_bind_eq_ok h
  obtain ⟨completed, done, hcomplete, hconclude⟩ := exists_of_bind_eq_ok hrest
  obtain ⟨hstage, hretry, hhistory⟩ := runFrames_eq_ok hframes
  unfold completeStage at hcomplete
  simp only [hstage, hpush, Bool.false_eq_true, if_false] at hcomplete
  obtain ⟨publication, published, hpublish, hresult⟩ := exists_of_bind_eq_ok hcomplete
  obtain ⟨hpublish, -⟩ := RunM.inSession_eq_ok hpublish
  injection hresult with hcompleted hdone
  injection hconclude with _ hlater
  subst hcompleted hdone hlater
  refine ⟨publication, ⟨_, _, hhistory, hpublish, rfl⟩, _, List.getLast?_concat, rfl, rfl, ?_⟩
  simp [StageRecord.isSuccessful, StageResult.isSuccessful, StageResult.framesSuccessful, hretry,
    Publication.isSuccess]

/-- When it has come through all stages, its commands are those of the publication. -/
theorem runStages_hasPublished (hpush : p.skipPush = false)
    (h : p.runStages host s = .ok () later) :
    ∃ publication, p.HasPublished host s.session.commandHistory later publication := by
  have hall : Stage.all = Stage.all.dropLast ++ [.pushRemote] := rfl
  rw [runStages, hall] at h
  obtain ⟨before, hbefore, hlast⟩ := exists_of_forM_append_eq_ok h
  obtain ⟨_, after, hstage, hend⟩ := exists_of_bind_eq_ok hlast
  injection hend with _ hlater
  obtain ⟨publication, hpublished⟩ := runStage_hasPublished hpush (hlater ▸ hstage)
  rw [commandHistory_forM (by decide) hbefore] at hpublished
  exact ⟨publication, hpublished⟩

/-- Every publication, after whatever history, runs its commands in order and tells what became
of them; every run begins without a history, so that the summary of its publication covers
nothing but the failures, and its last stage is successful only if the publication is. -/
theorem publish_tells (p : Pipeline) (host : Host σ) :
    (∀ session, match Publication.publish host p.commands session with
      | .ok publication after => ∃ runs,
          CommandRuns host p.commands session runs after ∧
          after.commandHistory = session.commandHistory ++ runs.map Prod.snd ∧
          Publication.IsOutcome session.commandHistory runs publication ∧
          (publication.status ≠ .noRepository → publication.recommendations.Nodup) ∧
          (session.commandHistory = [] → publication.SummarizesFailures)
      | .error _ after => ∃ runs argv before,
          CommandRuns host p.commands session runs before ∧
          CommandResult.execute host p.commands argv before = .error .shutdown after) ∧
    ∀ scaffold input session later, p.skipPush = false →
      p.runStages host (p.begin scaffold input session) = .ok () later →
      ∃ publication, p.HasPublished host [] later publication ∧
        publication.SummarizesFailures := by
  constructor
  · intro session
    have hleads := Publication.publish_leadsTo host p.commands session
    cases hresult : Publication.publish host p.commands session with
    | error e after =>
        rw [hresult] at hleads
        exact hleads
    | ok publication after =>
        rw [hresult] at hleads
        obtain ⟨runs, hruns, houtcome⟩ := hleads
        refine ⟨runs, hruns, hruns.commandHistory, houtcome, houtcome.nodup_recommendations, ?_⟩
        intro hfresh
        rw [hfresh] at houtcome
        exact houtcome.summarizesFailures
  · intro scaffold input session later hpush hrun
    obtain ⟨publication, hpublished⟩ := runStages_hasPublished hpush hrun
    obtain ⟨before, after, hfresh, hpublish, -⟩ := hpublished.published
    have hleads := Publication.publish_leadsTo host p.commands before
    rw [hpublish, hfresh] at hleads
    obtain ⟨runs, -, houtcome⟩ := hleads
    exact ⟨publication, hpublished, houtcome.summarizesFailures⟩

/-- A host on which every frame answers and of all programs only a push fails. -/
def unpushing : Host (List FrameCall) where
  callFrame := recommending.callFrame
  runProgram call world :=
    (.done (.ended (if call.args = ["push"] then 1 else 0) .empty .empty), world)

theorem publish_unpushing_tells :
    ∃ p scaffold later publication record,
      Pipeline.ofConfig oneFrame "/" false = .ok p ∧ p.skipPush = false ∧
      p.registry.scaffolds.get? "check" = some scaffold ∧
      p.runStages unpushing (p.begin scaffold (.obj []) emptySession) = .ok () later ∧
      p.HasPublished unpushing [] later publication ∧
      record ∈ later.run.log.getLast? ∧ record.result.publication = some publication ∧
      publication.status = .partialSuccess ∧ record.isSuccessful = false ∧
      publication.failures.map CommandResult.command = ["git push"] ∧
      publication.SummarizesFailures := by
  obtain ⟨p, hconfig⟩ : ∃ p, Pipeline.ofConfig oneFrame "/" false = .ok p := ⟨_, rfl⟩
  obtain ⟨scaffold, hfound⟩ : ∃ scaffold, p.registry.scaffolds.get? "check" = some scaffold := by
    obtain rfl := Except.ok.inj hconfig
    exact ⟨_, rfl⟩
  have hpush : p.skipPush = false := by
    obtain rfl := Except.ok.inj hconfig
    rfl
  have hrun : (answerOf (p.runStages unpushing
      (p.begin scaffold (.obj []) emptySession))).isOk = true := by
    obtain rfl := Except.ok.inj hconfig
    obtain rfl := Option.some.inj hfound
    decide +kernel
  have hseen : ((stateOf (p.runStages unpushing
      (p.begin scaffold (.obj []) emptySession))).run.log.getLast?.bind fun record =>
        record.result.publication).map (fun publication =>
          (publication.status, publication.failures.map CommandResult.command)) =
      some (.partialSuccess, ["git push"]) := by
    obtain rfl := Except.ok.inj hconfig
    obtain rfl := Option.some.inj hfound
    decide +kernel
  cases hresult : p.runStages unpushing (p.begin scaffold (.obj []) emptySession) with
  | error e later =>
      rw [hresult] at hrun
      simp [answerOf, Except.isOk, Except.toBool] at hrun
  | ok _ later =>
      obtain ⟨publication, hpublished, hsummarizes⟩ :=
        (publish_tells p unpushing).2 scaffold (.obj []) emptySession later hpush hresult
      obtain ⟨record, hrecord, -, hentered, hsuccess⟩ := hpublished.entered
      rw [hresult, stateOf, Option.mem_def.mp hrecord, Option.bind_some, hentered,
        Option.map_some, Option.some_inj, Prod.mk.injEq] at hseen
      refine ⟨p, scaffold, later, publication, record, hconfig, hpush, hfound, hresult, hpublished,
        hrecord, hentered, hseen.1, ?_, hseen.2, hsummarizes⟩
      simpa [hseen.1] using hsuccess

end Pipeline

end ScaffoldRunner
