import ScaffoldRunner.Proofs.Run.Courses

/-!
# Steps of a walk

Whatever turns a run takes, the acts of walking through its stages are few in
kind: it attempts frames of its plan, runs commands, changes the metrics, enters
results of stages and reports its audits.  Nothing is saved on the way.  The
results that are entered list the frames of the plan in its order, with an output
for every frame that was successful and for no other one.
-/

namespace ScaffoldRunner

/-- The entry of a frame holds an output when the frame was successful, and not
otherwise. -/
def FrameEntry.IsFaithful (e : FrameEntry) : Prop := e.success = e.result.isSome

/-- The result of a stage lists the frames that a scaffold plans for it, with
faithful entries. -/
structure StageResult.Lists (p : Pipeline) (scaffold : String) (result : StageResult) : Prop where
  frames : result.results.map FrameEntry.frameId =
    (p.registry.framesFor scaffold result.stage).map Frame.id
  faithful : ∀ e ∈ result.results, e.IsFaithful

/-- What a walk counts: attempts that are repeated, and stages that end or are
skipped. -/
inductive CountsProgress : (Metrics → Metrics) → Prop
  | retried : CountsProgress Metrics.frameRetried
  | ended (success : Bool) : CountsProgress fun m => m.stageEnded success
  | skipped : CountsProgress Metrics.stageSkipped

/-- The acts that a walk through the stages is made of. -/
inductive RunAct.IsStep (p : Pipeline) (origin : Run) : RunAct → Prop
  | attempt (call : FrameCall) (outcome : Option FrameOutcome) :
      call.frame ∈ p.registry.framesFor origin.scaffoldId call.stage →
      IsStep p origin (.attempt call outcome)
  | command (argv : List String) (result : Option CommandResult) :
      IsStep p origin (.command argv result)
  | count (change : Metrics → Metrics) : CountsProgress change →
      IsStep p origin (.count change)
  | enter (entry : Entry) : entry.result.Lists p origin.scaffoldId →
      IsStep p origin (.enter entry)
  | report (document : Json) (path : Except OsError String) :
      IsStep p origin (.report (ReportDirectory.auditSubject origin.scaffoldId) document path)

variable {p : Pipeline} {origin run : Run} {stage : Stage} {past : List Entry}
  {acts : List RunAct}

theorem IsTrial.isStep {retries : Nat} {call : FrameCall} {outcome : Option FrameOutcome}
    (h : IsTrial retries call acts outcome)
    (hplanned : call.frame ∈ p.registry.framesFor origin.scaffoldId call.stage) :
    ∀ act ∈ acts, act.IsStep p origin := by
  induction h with
  | interrupted | success | failure => simpa using .attempt _ _ hplanned
  | again e _ ih =>
      rw [List.forall_mem_cons, List.forall_mem_cons]
      exact ⟨.attempt _ _ hplanned, .count _ .retried, ih hplanned⟩

theorem IsSweep.isStep {frames : List Frame} {answer : Option (List FrameEntry)}
    (h : IsSweep p run stage frames acts answer)
    (hplanned : ∀ frame ∈ frames, frame ∈ p.registry.framesFor origin.scaffoldId stage) :
    ∀ act ∈ acts, act.IsStep p origin := by
  induction h with
  | done => simp
  | interrupted _ htrial => exact htrial.isStep (hplanned _ List.mem_cons_self)
  | later htrial _ ih | next htrial _ ih =>
      rw [List.forall_mem_append]
      refine ⟨htrial.isStep (hplanned _ List.mem_cons_self), ih ?_⟩
      intro frame hframe
      exact hplanned frame (List.mem_cons_of_mem _ hframe)

theorem Pipeline.isFaithful_frameEntry (p : Pipeline) (run : Run) (stage : Stage)
    (frame : Frame) (outcome : FrameOutcome) :
    (p.frameEntry run stage frame outcome).IsFaithful := by
  cases outcome <;> rfl

theorem IsSweep.isFaithful {frames : List Frame} {entries : List FrameEntry}
    (h : IsSweep p run stage frames acts (some entries)) : ∀ e ∈ entries, e.IsFaithful := by
  generalize hanswer : some entries = answer at h
  induction h generalizing entries with
  | done => simp_all
  | interrupted | later => simp at hanswer
  | next _ _ ih =>
      obtain rfl := Option.some.inj hanswer
      rw [List.forall_mem_cons]
      exact ⟨p.isFaithful_frameEntry _ _ _ _, ih rfl⟩

theorem isStep_entering (repeated : Bool) {result : StageResult}
    (h : result.Lists p origin.scaffoldId) :
    ∀ act ∈ entering repeated result, act.IsStep p origin := by
  rw [entering, List.forall_mem_cons, List.forall_mem_singleton]
  exact ⟨.count _ (.ended _), .enter _ h⟩

/-- A sweep over the frames of a plan has a result that lists them. -/
theorem IsSweep.lists {entries : List FrameEntry}
    (h : IsSweep p run stage (p.planned run stage) acts (some entries))
    (hpast : origin.Reached past run) :
    (StageResult.ofSweep stage entries).Lists p origin.scaffoldId where
  frames := by
    rw [StageResult.results_ofSweep, StageResult.stage_ofSweep, h.map_frameId,
      ← hpast.frame.2.1]
    rfl
  faithful := by
    rw [StageResult.results_ofSweep]
    exact h.isFaithful

theorem IsPass.isStep {repeated : Bool} {answer : Except RunError StageResult}
    (h : IsPass p run stage repeated acts answer) (hpast : origin.Reached past run) :
    ∀ act ∈ acts, act.IsStep p origin := by
  have hplanned : ∀ frame ∈ p.planned run stage,
      frame ∈ p.registry.framesFor origin.scaffoldId stage := by
    intro frame hframe
    rw [← hpast.frame.2.1]
    exact hframe
  cases h with
  | finished hsweep | interrupted hsweep => exact hsweep.isStep hplanned
  | failed hsweep =>
      rw [List.forall_mem_append]
      have hlists := hsweep.lists hpast
      exact ⟨hsweep.isStep hplanned, isStep_entering repeated ⟨hlists.frames, hlists.faithful⟩⟩

theorem IsPass.lists {repeated : Bool} {result : StageResult}
    (h : IsPass p run stage repeated acts (.ok result)) (hpast : origin.Reached past run) :
    result.Lists p origin.scaffoldId := by
  cases h with
  | finished hsweep => exact hsweep.lists hpast

/-- What all acts of every step have in common, all acts of a series have. -/
theorem IsSeries.forall_mem {P : RunAct → Prop}
    {step : List Entry → Run → Stage → List RunAct → Except RunError StageResult → Prop}
    {stages : List Stage} {answer : Except RunError (List StageResult)}
    (hstep : ∀ past run stage acts answer, origin.Reached past run →
      step past run stage acts answer → ∀ act ∈ acts, P act)
    (h : IsSeries origin step past stages acts answer) : ∀ act ∈ acts, P act := by
  induction h with
  | done => simp
  | stopped _ hpast hfirst => exact hstep _ _ _ _ _ hpast hfirst
  | later hpast hfirst _ ih | next hpast hfirst _ ih =>
      rw [List.forall_mem_append]
      exact ⟨hstep _ _ _ _ _ hpast hfirst, ih⟩

theorem IsRepetition.isStep {stages : List Stage}
    {answer : Except RunError (List StageResult)}
    (h : IsRepetition p origin past stages acts answer) : ∀ act ∈ acts, act.IsStep p origin := by
  refine IsSeries.forall_mem (fun past run stage acts answer hpast hrepeat => ?_) h
  cases hrepeat with
  | stopped hpass => exact hpass.isStep hpast
  | entered hpass =>
      rw [List.forall_mem_append]
      exact ⟨hpass.isStep hpast, isStep_entering true (hpass.lists hpast)⟩

theorem isStep_of_isCommand (h : ∀ act ∈ acts, act.IsCommand) :
    ∀ act ∈ acts, act.IsStep p origin := by
  intro act hact
  obtain ⟨argv, result, rfl⟩ := h act hact
  exact .command argv result

theorem IsCompletion.isStep {result : StageResult} {answer : Except RunError StageResult}
    (h : IsCompletion p origin past run result acts answer) (hpast : origin.Reached past run) :
    ∀ act ∈ acts, act.IsStep p origin := by
  cases h with
  | unrepeated | plain => simp
  | repeated _ _ hrepetition | repetitionFailed _ _ hrepetition => exact hrepetition.isStep
  | audited | unaudited =>
      rw [List.forall_mem_singleton, hpast.frame.2.1]
      exact .report _ _
  | unpublished =>
      rw [List.forall_mem_singleton]
      exact .count _ .skipped
  | published _ _ _ hcommands | publicationInterrupted _ _ hcommands =>
      exact isStep_of_isCommand hcommands

/-- What a stage does after its frames adds no frames. -/
theorem IsCompletion.lists {result completed : StageResult} {scaffold : String}
    (h : IsCompletion p origin past run result acts (.ok completed))
    (hresult : result.Lists p scaffold) : completed.Lists p scaffold := by
  cases h <;> exact ⟨hresult.frames, hresult.faithful⟩

theorem IsStageRun.isStep {answer : Except RunError StageResult}
    (h : IsStageRun p origin past run stage acts answer) (hpast : origin.Reached past run) :
    ∀ act ∈ acts, act.IsStep p origin := by
  cases h with
  | stopped hpass => exact hpass.isStep hpast
  | incomplete hpass hcompletion =>
      rw [List.forall_mem_append]
      exact ⟨hpass.isStep hpast, hcompletion.isStep hpast⟩
  | entered hpass hcompletion =>
      rw [List.forall_mem_append, List.forall_mem_append]
      exact ⟨⟨hpass.isStep hpast, hcompletion.isStep hpast⟩,
        isStep_entering false (hcompletion.lists (hpass.lists hpast))⟩

/-- A walk is made of steps. -/
theorem IsWalk.isStep {stopped : Bool} {answer : Except RunError Unit}
    (h : IsWalk p origin stopped acts answer) : ∀ act ∈ acts, act.IsStep p origin := by
  cases h with
  | stopped => simp
  | walked hcourse =>
      exact IsSeries.forall_mem (fun _ _ _ _ _ hpast hrun => hrun.isStep hpast) hcourse

/-- Nothing is saved on the way. -/
theorem IsWalk.save_notMem {stopped : Bool} {answer : Except RunError Unit}
    (h : IsWalk p origin stopped acts answer) (task : String) (old : Option Json) (new : Json)
    (merged : Except ContextError Json) : .save task old new merged ∉ acts := by
  intro hmem
  cases h.isStep _ hmem

/-- All reports on the way are audits. -/
theorem IsWalk.subject_of_report {stopped : Bool} {answer : Except RunError Unit}
    (h : IsWalk p origin stopped acts answer) {subject : String} {document : Json}
    {path : Except OsError String} (hmem : .report subject document path ∈ acts) :
    subject = ReportDirectory.auditSubject origin.scaffoldId := by
  cases h.isStep _ hmem
  rfl

end ScaffoldRunner
