import ScaffoldRunner.Proofs.Run.Acts

/-!
# Courses of a run

For every function of a run there is a relation between the acts that it may do
and the answer that it gives then: trials of a frame make up the sweep over the
frames of a stage, a sweep makes up a pass, passes that are run again make up
the completion of the fifth stage, and the stages make up the run.  What
is proved about runs is proved by induction on these relations.
-/

namespace ScaffoldRunner

/-! ## Interruptions -/

/-- An act that has no answer because the run is interrupted. -/
def RunAct.IsInterruption : RunAct → Prop
  | attempt _ none => True
  | command _ none => True
  | _ => False

/-- Acts none of which is interrupted. -/
def Uninterrupted (acts : List RunAct) : Prop := ∀ act ∈ acts, ¬act.IsInterruption

/-- Acts of which the last one is interrupted, and no other. -/
def EndsInterrupted (acts : List RunAct) : Prop :=
  ∃ before act, acts = before ++ [act] ∧ Uninterrupted before ∧ act.IsInterruption

theorem Uninterrupted.append {before rest : List RunAct} (hbefore : Uninterrupted before)
    (hrest : Uninterrupted rest) : Uninterrupted (before ++ rest) :=
  List.forall_mem_append.mpr ⟨hbefore, hrest⟩

theorem EndsInterrupted.after {before acts : List RunAct} (h : EndsInterrupted acts)
    (hbefore : Uninterrupted before) : EndsInterrupted (before ++ acts) := by
  obtain ⟨first, act, rfl, hfirst, hact⟩ := h
  exact ⟨before ++ first, act, (List.append_assoc ..).symm, hbefore.append hfirst, hact⟩

/-- Acts stop at an interruption: when there is one, it comes last. -/
structure Heeds (acts : List RunAct) (interrupted : Prop) : Prop where
  ends : interrupted → EndsInterrupted acts
  quiet : ¬interrupted → Uninterrupted acts

theorem Heeds.after {before acts : List RunAct} {interrupted : Prop}
    (h : Heeds acts interrupted) (hbefore : Uninterrupted before) :
    Heeds (before ++ acts) interrupted where
  ends hinterrupted := (h.ends hinterrupted).after hbefore
  quiet hnot := hbefore.append (h.quiet hnot)

theorem EndsInterrupted.exists_interruption {acts : List RunAct} (h : EndsInterrupted acts) :
    ∃ act ∈ acts, act.IsInterruption := by
  obtain ⟨before, act, rfl, -, hact⟩ := h
  exact ⟨act, List.mem_append_right before List.mem_cons_self, hact⟩

/-! ## Trials -/

/-- The acts of trying a frame that may be tried a number of times again. -/
inductive IsTrial : Nat → FrameCall → List RunAct → Option FrameOutcome → Prop
  | interrupted (retries : Nat) (call : FrameCall) :
      IsTrial retries call [.attempt call none] none
  | success (retries : Nat) (call : FrameCall) (result : Members) :
      IsTrial retries call [.attempt call (some (.ok result))] (some (.ok result))
  | failure (call : FrameCall) (e : FrameError) :
      IsTrial 0 call [.attempt call (some (.error e))] (some (.error e))
  | again {retries : Nat} {call : FrameCall} (e : FrameError) {acts : List RunAct}
      {outcome : Option FrameOutcome} :
      IsTrial retries call.next acts outcome →
      IsTrial (retries + 1) call
        (.attempt call (some (.error e)) :: .count Metrics.frameRetried :: acts) outcome

/-- The number of times that a call may be tried again. -/
def FrameCall.retries (call : FrameCall) : Nat := call.maxAttempts - call.attempt

section FirstCall

variable (p : Pipeline) (stage : Stage) (run : Run) (frame : Frame)

@[simp] theorem Pipeline.attemptCount_firstCall :
    (p.firstCall stage run frame).attemptCount = 0 :=
  rfl

@[simp] theorem Pipeline.attempt_firstCall : (p.firstCall stage run frame).attempt = 1 :=
  rfl

@[simp] theorem Pipeline.maxAttempts_firstCall :
    (p.firstCall stage run frame).maxAttempts = max p.maxAttempts 1 :=
  rfl

/-- A frame has one attempt and those that remain. -/
theorem Pipeline.retries_firstCall :
    1 + (p.firstCall stage run frame).retries = max p.maxAttempts 1 := by
  rw [FrameCall.retries, attempt_firstCall, maxAttempts_firstCall]
  omega

end FirstCall

/-! ## Sweeps and passes -/

/-- The entry of a frame at a stage of a run. -/
def Pipeline.frameEntry (p : Pipeline) (run : Run) (stage : Stage) (frame : Frame)
    (outcome : FrameOutcome) : FrameEntry :=
  .ofOutcome frame (p.registry.isCritical run.scaffoldId stage frame.id) outcome

/-- The frames that a run plans for a stage. -/
def Pipeline.planned (p : Pipeline) (run : Run) (stage : Stage) : List Frame :=
  p.registry.framesFor run.scaffoldId stage

/-- The acts of running frames one after another. -/
inductive IsSweep (p : Pipeline) (run : Run) (stage : Stage) :
    List Frame → List RunAct → Option (List FrameEntry) → Prop
  | done : IsSweep p run stage [] [] (some [])
  | interrupted {frame : Frame} (frames : List Frame) {acts : List RunAct} :
      IsTrial (p.firstCall stage run frame).retries (p.firstCall stage run frame) acts none →
      IsSweep p run stage (frame :: frames) acts none
  | later {frame : Frame} {frames : List Frame} {acts more : List RunAct}
      {outcome : FrameOutcome} :
      IsTrial (p.firstCall stage run frame).retries (p.firstCall stage run frame) acts
        (some outcome) →
      IsSweep p run stage frames more none →
      IsSweep p run stage (frame :: frames) (acts ++ more) none
  | next {frame : Frame} {frames : List Frame} {acts more : List RunAct}
      {outcome : FrameOutcome} {entries : List FrameEntry} :
      IsTrial (p.firstCall stage run frame).retries (p.firstCall stage run frame) acts
        (some outcome) →
      IsSweep p run stage frames more (some entries) →
      IsSweep p run stage (frame :: frames) (acts ++ more)
        (some (p.frameEntry run stage frame outcome :: entries))

/-- The result of a stage with the given frames, if it has any. -/
def StageResult.ofSweep (stage : Stage) : List FrameEntry → StageResult
  | [] => .noFrames stage
  | entry :: entries => .ofFrames stage (entry :: entries)

/-- The acts of entering the result of a stage. -/
def entering (repeated : Bool) (result : StageResult) : List RunAct :=
  [.count fun m => m.stageEnded result.isSuccessful, .enter ⟨repeated, result⟩]

/-- The result of a stage that fails the run. -/
def StageResult.failing (result : StageResult) : StageResult :=
  { result with message := some (Pipeline.failureMessage result.criticalFailures) }

/-- The acts of running the frames that are planned for a stage. -/
inductive IsPass (p : Pipeline) (run : Run) (stage : Stage) (repeated : Bool) :
    List RunAct → Except RunError StageResult → Prop
  | finished {acts : List RunAct} {entries : List FrameEntry} :
      IsSweep p run stage (p.planned run stage) acts (some entries) →
      (StageResult.ofSweep stage entries).criticalFailures = [] →
      IsPass p run stage repeated acts (.ok (.ofSweep stage entries))
  | failed {acts : List RunAct} {entries : List FrameEntry} :
      IsSweep p run stage (p.planned run stage) acts (some entries) →
      (StageResult.ofSweep stage entries).criticalFailures ≠ [] →
      IsPass p run stage repeated
        (acts ++ entering repeated (StageResult.ofSweep stage entries).failing)
        (.error (.stageFailed stage
          (Pipeline.failureMessage (StageResult.ofSweep stage entries).criticalFailures)))
  | interrupted {acts : List RunAct} :
      IsSweep p run stage (p.planned run stage) acts none →
      IsPass p run stage repeated acts (.error (.aborted shutdownReason))

/-! ## Series of stages -/

/-- The acts of a series of stages, each of which enters its result or ends the
series.  What a stage does may depend on what was entered before. -/
inductive IsSeries (origin : Run)
    (step : List Entry → Run → Stage → List RunAct → Except RunError StageResult → Prop) :
    List Entry → List Stage → List RunAct → Except RunError (List StageResult) → Prop
  | done (past : List Entry) : IsSeries origin step past [] [] (.ok [])
  | stopped {past : List Entry} {run : Run} {stage : Stage} (stages : List Stage)
      {acts : List RunAct} {e : RunError} :
      origin.Reached past run → step past run stage acts (.error e) →
      IsSeries origin step past (stage :: stages) acts (.error e)
  | later {past : List Entry} {run : Run} {stage : Stage} {stages : List Stage}
      {acts more : List RunAct} {result : StageResult} {e : RunError} :
      origin.Reached past run → step past run stage acts (.ok result) →
      IsSeries origin step (past ++ RunAct.entries acts) stages more (.error e) →
      IsSeries origin step past (stage :: stages) (acts ++ more) (.error e)
  | next {past : List Entry} {run : Run} {stage : Stage} {stages : List Stage}
      {acts more : List RunAct} {result : StageResult} {results : List StageResult} :
      origin.Reached past run → step past run stage acts (.ok result) →
      IsSeries origin step (past ++ RunAct.entries acts) stages more (.ok results) →
      IsSeries origin step past (stage :: stages) (acts ++ more) (.ok (result :: results))

/-- The acts of running a stage again. -/
inductive IsRepeat (p : Pipeline) (run : Run) (stage : Stage) :
    List RunAct → Except RunError StageResult → Prop
  | stopped {acts : List RunAct} {e : RunError} :
      IsPass p run stage true acts (.error e) → IsRepeat p run stage acts (.error e)
  | entered {acts : List RunAct} {result : StageResult} :
      IsPass p run stage true acts (.ok result) →
      IsRepeat p run stage (acts ++ entering true result) (.ok result)

/-- The acts of running stages again. -/
def IsRepetition (p : Pipeline) (origin : Run) :
    List Entry → List Stage → List RunAct → Except RunError (List StageResult) → Prop :=
  IsSeries origin fun _ => IsRepeat p

/-- What running stages again answers when all of them were entered. -/
def Pipeline.retryOutcome (run : Run) (results : List StageResult) : RetryOutcome where
  failed := run.failedStages
  retried := repeatedStages
  recovered := results.all StageResult.isSuccessful

def RunAct.IsCommand (act : RunAct) : Prop := ∃ argv result, act = .command argv result

/-- The acts that a stage does after its frames. -/
inductive IsCompletion (p : Pipeline) (origin : Run) (past : List Entry) (run : Run)
    (result : StageResult) : List RunAct → Except RunError StageResult → Prop
  | unrepeated :
      result.stage = .successContinue → run.failedStages = [] →
      IsCompletion p origin past run result [] (.ok result)
  | repeated {acts : List RunAct} {results : List StageResult} :
      result.stage = .successContinue → run.failedStages ≠ [] →
      IsRepetition p origin past Pipeline.repeatedStages acts (.ok results) →
      IsCompletion p origin past run result acts (.ok { result with
        status := .retryCompleted
        retry := some (Pipeline.retryOutcome run results) })
  | repetitionFailed {acts : List RunAct} {e : RunError} :
      result.stage = .successContinue → run.failedStages ≠ [] →
      IsRepetition p origin past Pipeline.repeatedStages acts (.error e) →
      IsCompletion p origin past run result acts (.error e)
  | audited (path : String) :
      result.stage = .metaAudit →
      IsCompletion p origin past run result
        [.report (ReportDirectory.auditSubject run.scaffoldId)
          (StageRecord.audit run.log run.preserved).toJson (.ok path)]
        (.ok { result with
          status := .metaAuditComplete
          audit := some {
            audit := StageRecord.audit run.log run.preserved
            reportPath := path } })
  | unaudited (e : OsError) :
      result.stage = .metaAudit →
      IsCompletion p origin past run result
        [.report (ReportDirectory.auditSubject run.scaffoldId)
          (StageRecord.audit run.log run.preserved).toJson (.error e)]
        (.error (.io e))
  | unpublished :
      result.stage = .pushRemote → p.skipPush = true →
      IsCompletion p origin past run result [.count Metrics.stageSkipped]
        (.ok (Pipeline.unpublished result))
  | published {acts : List RunAct} (publication : Publication) :
      result.stage = .pushRemote → p.skipPush = false →
      (∀ act ∈ acts, act.IsCommand) → Uninterrupted acts →
      IsCompletion p origin past run result acts (.ok { result with
        status := .published
        message := some publication.message
        publication := some publication })
  | publicationInterrupted {acts : List RunAct} :
      result.stage = .pushRemote → p.skipPush = false →
      (∀ act ∈ acts, act.IsCommand) → EndsInterrupted acts →
      IsCompletion p origin past run result acts (.error (.aborted shutdownReason))
  | plain :
      result.stage ≠ .successContinue → result.stage ≠ .metaAudit →
      result.stage ≠ .pushRemote →
      IsCompletion p origin past run result [] (.ok result)

/-- The acts of running a stage for the first time. -/
inductive IsStageRun (p : Pipeline) (origin : Run) (past : List Entry) (run : Run)
    (stage : Stage) : List RunAct → Except RunError StageResult → Prop
  | stopped {acts : List RunAct} {e : RunError} :
      IsPass p run stage false acts (.error e) →
      IsStageRun p origin past run stage acts (.error e)
  | incomplete {acts more : List RunAct} {result : StageResult} {e : RunError} :
      IsPass p run stage false acts (.ok result) →
      IsCompletion p origin past run result more (.error e) →
      IsStageRun p origin past run stage (acts ++ more) (.error e)
  | entered {acts more : List RunAct} {result completed : StageResult} :
      IsPass p run stage false acts (.ok result) →
      IsCompletion p origin past run result more (.ok completed) →
      IsStageRun p origin past run stage (acts ++ more ++ entering false completed)
        (.ok completed)

/-- The acts of running stages for the first time. -/
def IsCourse (p : Pipeline) (origin : Run) :
    List Entry → List Stage → List RunAct → Except RunError (List StageResult) → Prop :=
  IsSeries origin (IsStageRun p origin)

/-- The acts of walking through the stages, unless the shutdown comes first. -/
inductive IsWalk (p : Pipeline) (origin : Run) :
    Bool → List RunAct → Except RunError Unit → Prop
  | stopped : IsWalk p origin true [] (.error (.aborted shutdownReason))
  | walked {acts : List RunAct} {answer : Except RunError (List StageResult)} :
      IsCourse p origin [] Stage.all acts answer →
      IsWalk p origin false acts (answer.map fun _ => ())

namespace IsSeries

variable {origin : Run} {acts : List RunAct} {past : List Entry} {stages : List Stage}
  {step : List Entry → Run → Stage → List RunAct → Except RunError StageResult → Prop}

/-- What all acts of every finished step have in common, all acts of a finished
series have. -/
theorem forall_of_ok {P : RunAct → Prop} {results : List StageResult}
    (hstep : ∀ past run stage acts result, origin.Reached past run → stage ∈ stages →
      step past run stage acts (.ok result) → ∀ act ∈ acts, P act)
    (h : IsSeries origin step past stages acts (.ok results)) : ∀ act ∈ acts, P act := by
  generalize hanswer : Except.ok results = answer at h
  induction h generalizing results with
  | done => simp
  | stopped | later => simp at hanswer
  | next hpast hfirst _ ih =>
      intro act hact
      rcases List.mem_append.mp hact with hact | hact
      · exact hstep _ _ _ _ _ hpast List.mem_cons_self hfirst act hact
      · refine ih (fun past run stage acts result hpast hstage => ?_) rfl act hact
        exact hstep past run stage acts result hpast (List.mem_cons_of_mem _ hstage)

/-- A series that fails does so at one of its stages, after finishing those
before it. -/
theorem exists_of_error {e : RunError}
    (h : IsSeries origin step past stages acts (.error e)) :
    ∃ finished stage rest before last results run,
      stages = finished ++ stage :: rest ∧ acts = before ++ last ∧
      IsSeries origin step past finished before (.ok results) ∧
      origin.Reached (past ++ RunAct.entries before) run ∧
      step (past ++ RunAct.entries before) run stage last (.error e) := by
  generalize hanswer : Except.error e = answer at h
  induction h with
  | done | next => simp at hanswer
  | @stopped past run stage stages acts e' hpast hfirst =>
      obtain rfl := Except.error.inj hanswer
      refine ⟨[], stage, stages, [], acts, [], run, rfl, rfl, .done past, ?_, ?_⟩
      · simpa using hpast
      · simpa using hfirst
  | @later past run stage stages acts more result e' hpast hfirst _ ih =>
      obtain ⟨finished, last, rest, before, lastActs, results, run', rfl, rfl, hseries,
        hreached, hlast⟩ := ih hanswer
      refine ⟨stage :: finished, last, rest, acts ++ before, lastActs, result :: results,
        run', rfl, (List.append_assoc ..).symm, .next hpast hfirst hseries, ?_, ?_⟩
      · simpa using hreached
      · simpa using hlast

/-- A finished series is one of its first stages and then one of the others. -/
theorem append_of_ok {front back : List Stage} {results : List StageResult}
    (h : IsSeries origin step past (front ++ back) acts (.ok results)) :
    ∃ before rest firsts others,
      acts = before ++ rest ∧ results = firsts ++ others ∧
      IsSeries origin step past front before (.ok firsts) ∧
      IsSeries origin step (past ++ RunAct.entries before) back rest (.ok others) := by
  induction front generalizing past acts results with
  | nil => exact ⟨[], acts, [], results, rfl, rfl, .done past, by simpa using h⟩
  | cons stage front ih =>
      cases h with
      | @next _ run _ _ acts more result results hpast hfirst hmore =>
          obtain ⟨before, rest, firsts, others, rfl, rfl, hbefore, hrest⟩ := ih hmore
          refine ⟨acts ++ before, rest, result :: firsts, others, by simp, rfl,
            .next hpast hfirst hbefore, ?_⟩
          simpa using hrest

end IsSeries

/-! ## Entries of passes -/

theorem IsTrial.entries {retries : Nat} {call : FrameCall} {acts : List RunAct}
    {outcome : Option FrameOutcome} (h : IsTrial retries call acts outcome) :
    RunAct.entries acts = [] := by
  induction h with
  | interrupted | success | failure => rfl
  | again _ _ ih => simpa [RunAct.entered?] using ih

theorem IsSweep.entries {p : Pipeline} {run : Run} {stage : Stage} {frames : List Frame}
    {acts : List RunAct} {answer : Option (List FrameEntry)}
    (h : IsSweep p run stage frames acts answer) : RunAct.entries acts = [] := by
  induction h with
  | done => rfl
  | interrupted _ htrial => exact htrial.entries
  | later htrial _ ih | next htrial _ ih =>
      rw [RunAct.entries_append, htrial.entries, ih, List.append_nil]

theorem Pipeline.frameId_frameEntry (p : Pipeline) (run : Run) (stage : Stage)
    (frame : Frame) (outcome : FrameOutcome) :
    (p.frameEntry run stage frame outcome).frameId = frame.id := by
  cases outcome <;> rfl

/-- A sweep makes one entry for every frame, in the order of the frames. -/
theorem IsSweep.map_frameId {p : Pipeline} {run : Run} {stage : Stage} {frames : List Frame}
    {acts : List RunAct} {entries : List FrameEntry}
    (h : IsSweep p run stage frames acts (some entries)) :
    entries.map FrameEntry.frameId = frames.map Frame.id := by
  generalize hanswer : some entries = answer at h
  induction h generalizing entries with
  | done => simp_all
  | interrupted | later => simp at hanswer
  | next _ _ ih =>
      obtain rfl := Option.some.inj hanswer
      rw [List.map_cons, List.map_cons, p.frameId_frameEntry, ih rfl]

theorem IsSweep.length {p : Pipeline} {run : Run} {stage : Stage} {frames : List Frame}
    {acts : List RunAct} {entries : List FrameEntry}
    (h : IsSweep p run stage frames acts (some entries)) :
    entries.length = frames.length := by
  simpa using congrArg List.length h.map_frameId

theorem IsPass.entries_of_ok {p : Pipeline} {run : Run} {stage : Stage} {repeated : Bool}
    {acts : List RunAct} {result : StageResult}
    (h : IsPass p run stage repeated acts (.ok result)) : RunAct.entries acts = [] := by
  cases h with
  | finished hsweep _ => exact hsweep.entries

/-- A stage with a failed critical frame is not successful. -/
theorem StageResult.isSuccessful_of_criticalFailures {result : StageResult}
    (h : result.criticalFailures ≠ []) : result.isSuccessful = false := by
  obtain ⟨entry, hentry⟩ := List.exists_mem_of_ne_nil _ h
  obtain ⟨hmem, hends⟩ := List.mem_filter.mp hentry
  have hframes : result.framesSuccessful = false := by
    rw [framesSuccessful, List.all_eq_false]
    refine ⟨entry, hmem, ?_⟩
    simp_all [FrameEntry.endsRun]
  simp [isSuccessful, hframes]

/-! ## Interrupted attempts -/

theorem IsTrial.exists_interruption {retries : Nat} {call : FrameCall} {acts : List RunAct}
    (h : IsTrial retries call acts none) : ∃ call, .attempt call none ∈ acts := by
  generalize hanswer : none = outcome at h
  induction h with
  | interrupted retries call => exact ⟨call, List.mem_singleton_self _⟩
  | success | failure => simp at hanswer
  | again _ _ ih =>
      obtain ⟨call, hcall⟩ := ih hanswer
      exact ⟨call, List.mem_cons_of_mem _ (List.mem_cons_of_mem _ hcall)⟩

theorem IsSweep.exists_interruption {p : Pipeline} {run : Run} {stage : Stage}
    {frames : List Frame} {acts : List RunAct} (h : IsSweep p run stage frames acts none) :
    ∃ call, .attempt call none ∈ acts := by
  generalize hanswer : none = answer at h
  induction h with
  | done | next => simp at hanswer
  | interrupted _ htrial => exact htrial.exists_interruption
  | later _ _ ih =>
      obtain ⟨call, hcall⟩ := ih hanswer
      exact ⟨call, List.mem_append_right _ hcall⟩

/-! ## Attempts -/

/-- A trial goes on with the same call but for the number of the attempt. -/
theorem IsTrial.split {retries : Nat} {call attempted : FrameCall} {acts : List RunAct}
    {outcome reply : Option FrameOutcome} {before rest : List RunAct}
    (h : IsTrial retries call acts outcome)
    (hsplit : acts = before ++ .attempt attempted reply :: rest) :
    ∃ n ≤ retries, attempted = { call with attemptCount := call.attemptCount + n } ∧
      RunAct.calls before =
        (List.range n).map fun m => { call with attemptCount := call.attemptCount + m } := by
  induction h generalizing before with
  | interrupted retries call | success retries call | failure call =>
      cases before with
      | nil =>
          obtain ⟨hcall, _⟩ := List.cons.inj hsplit
          obtain ⟨rfl, _⟩ := RunAct.attempt.inj hcall
          exact ⟨0, Nat.zero_le _, rfl, rfl⟩
      | cons act before => simp at hsplit
  | @again retries call e acts outcome _ ih =>
      match before, hsplit with
      | [], hsplit =>
          obtain ⟨hcall, _⟩ := List.cons.inj hsplit
          obtain ⟨rfl, _⟩ := RunAct.attempt.inj hcall
          exact ⟨0, Nat.zero_le _, rfl, rfl⟩
      | [act], hsplit =>
          obtain ⟨_, hcount⟩ := List.cons.inj hsplit
          simp at hcount
      | first :: second :: before, hsplit =>
          obtain ⟨rfl, hmore⟩ := List.cons.inj hsplit
          obtain ⟨rfl, hacts⟩ := List.cons.inj hmore
          obtain ⟨n, hn, rfl, hcalls⟩ := ih hacts
          refine ⟨n + 1, by omega, ?_, ?_⟩
          · simp [FrameCall.next, Nat.add_assoc, Nat.add_comm 1]
          · rw [RunAct.calls_cons, RunAct.calls_cons, hcalls, List.range_succ_eq_map]
            simp [RunAct.call?, FrameCall.next, Nat.add_assoc, Nat.add_comm 1, Function.comp_def]

theorem IsTrial.attempted {retries : Nat} {call : FrameCall} {acts : List RunAct}
    {outcome : Option FrameOutcome} (h : IsTrial retries call acts outcome)
    {attempted : FrameCall} {reply : Option FrameOutcome}
    (hmem : .attempt attempted reply ∈ acts) :
    ∃ n ≤ retries, attempted = { call with attemptCount := call.attemptCount + n } := by
  obtain ⟨before, rest, hsplit⟩ := List.append_of_mem hmem
  obtain ⟨n, hn, hcall, _⟩ := h.split hsplit
  exact ⟨n, hn, hcall⟩

/-- What is attempted in a sweep is the first call of a frame, but for the number
of the attempt. -/
theorem IsSweep.attempted {p : Pipeline} {run : Run} {stage : Stage} {frames : List Frame}
    {acts : List RunAct} {answer : Option (List FrameEntry)}
    (h : IsSweep p run stage frames acts answer) {call : FrameCall}
    {reply : Option FrameOutcome} (hmem : .attempt call reply ∈ acts) :
    ∃ frame ∈ frames, ∃ n ≤ (p.firstCall stage run frame).retries,
      call = { p.firstCall stage run frame with attemptCount := n } := by
  have hfirst {frame : Frame} {acts : List RunAct} {outcome : Option FrameOutcome}
      (htrial : IsTrial (p.firstCall stage run frame).retries (p.firstCall stage run frame)
        acts outcome) (hmem : .attempt call reply ∈ acts) :
      ∃ n ≤ (p.firstCall stage run frame).retries,
        call = { p.firstCall stage run frame with attemptCount := n } := by
    obtain ⟨n, hn, rfl⟩ := htrial.attempted hmem
    exact ⟨n, hn, by simp⟩
  induction h with
  | done => simp at hmem
  | interrupted frames htrial => exact ⟨_, List.mem_cons_self, hfirst htrial hmem⟩
  | later htrial _ ih | next htrial _ ih =>
      rcases List.mem_append.mp hmem with hmem | hmem
      · exact ⟨_, List.mem_cons_self, hfirst htrial hmem⟩
      · obtain ⟨frame, hframe, hcall⟩ := ih hmem
        exact ⟨frame, List.mem_cons_of_mem _ hframe, hcall⟩

theorem IsSweep.stage_of_attempted {p : Pipeline} {run : Run} {stage : Stage}
    {frames : List Frame} {acts : List RunAct} {answer : Option (List FrameEntry)}
    (h : IsSweep p run stage frames acts answer) {call : FrameCall}
    {reply : Option FrameOutcome} (hmem : .attempt call reply ∈ acts) :
    call.stage = stage := by
  obtain ⟨frame, _, n, _, rfl⟩ := h.attempted hmem
  rfl

/-! ## Entries of a course -/

section Entries

variable {p : Pipeline} {origin run : Run} {stage : Stage} {acts : List RunAct}

@[simp] theorem StageResult.results_ofSweep (stage : Stage) (entries : List FrameEntry) :
    (StageResult.ofSweep stage entries).results = entries := by
  cases entries <;> rfl

theorem StageResult.stage_ofSweep (stage : Stage) (entries : List FrameEntry) :
    (StageResult.ofSweep stage entries).stage = stage := by
  cases entries <;> rfl

theorem entries_entering (repeated : Bool) (result : StageResult) :
    RunAct.entries (entering repeated result) = [⟨repeated, result⟩] :=
  rfl

theorem IsPass.stage_of_ok {repeated : Bool} {result : StageResult}
    (h : IsPass p run stage repeated acts (.ok result)) : result.stage = stage := by
  cases h with
  | finished => exact StageResult.stage_ofSweep _ _

theorem IsPass.criticalFailures_of_ok {repeated : Bool} {result : StageResult}
    (h : IsPass p run stage repeated acts (.ok result)) : result.criticalFailures = [] := by
  cases h with
  | finished _ hcritical => exact hcritical

/-- A pass that fails without an interruption enters its result first. -/
theorem IsPass.entries_of_error {repeated : Bool} {e : RunError}
    (h : IsPass p run stage repeated acts (.error e))
    (hquiet : ∀ call, .attempt call none ∉ acts) :
    ∃ result : StageResult, RunAct.entries acts = [⟨repeated, result⟩] ∧
      result.stage = stage ∧ result.criticalFailures ≠ [] ∧
      e = .stageFailed stage (Pipeline.failureMessage result.criticalFailures) := by
  cases h with
  | interrupted hsweep =>
      obtain ⟨call, hcall⟩ := hsweep.exists_interruption
      exact absurd hcall (hquiet call)
  | @failed acts entries hsweep hcritical =>
      refine ⟨(StageResult.ofSweep stage entries).failing, ?_,
        StageResult.stage_ofSweep stage entries, hcritical, rfl⟩
      rw [RunAct.entries_append, hsweep.entries, entries_entering, List.nil_append]

theorem RunAct.entries_eq_nil_of_isCommand (h : ∀ act ∈ acts, act.IsCommand) :
    RunAct.entries acts = [] := by
  refine List.filterMap_eq_nil_iff.mpr fun act hact => ?_
  obtain ⟨argv, result, rfl⟩ := h act hact
  rfl

/-- What a series enters whose steps each enter their result. -/
theorem IsSeries.entries_of_ok (repeated : Bool)
    {step : List Entry → Run → Stage → List RunAct → Except RunError StageResult → Prop}
    {past : List Entry} {stages : List Stage} {results : List StageResult}
    (hstep : ∀ past run stage acts result, stage ∈ stages →
      step past run stage acts (.ok result) →
      RunAct.entries acts = [⟨repeated, result⟩] ∧ result.stage = stage ∧
        result.criticalFailures = [])
    (h : IsSeries origin step past stages acts (.ok results)) :
    RunAct.entries acts = results.map (Entry.mk repeated) ∧
      results.map StageResult.stage = stages ∧
      ∀ result ∈ results, result.criticalFailures = [] := by
  generalize hanswer : Except.ok results = answer at h
  induction h generalizing results with
  | done =>
      obtain rfl := Except.ok.inj hanswer
      simp
  | stopped | later => simp at hanswer
  | next _ hfirst _ ih =>
      obtain rfl := Except.ok.inj hanswer
      obtain ⟨hentry, hstage, hcritical⟩ := hstep _ _ _ _ _ List.mem_cons_self hfirst
      obtain ⟨hentries, hstages, hcriticals⟩ := ih
        (fun past run stage acts result hmem =>
          hstep past run stage acts result (List.mem_cons_of_mem _ hmem)) rfl
      refine ⟨?_, ?_, ?_⟩
      · rw [RunAct.entries_append, hentry, hentries]
        rfl
      · rw [List.map_cons, hstage, hstages]
      · intro result hresult
        rcases List.mem_cons.mp hresult with rfl | hresult
        · exact hcritical
        · exact hcriticals result hresult

theorem IsRepeat.entries_of_ok {result : StageResult}
    (h : IsRepeat p run stage acts (.ok result)) :
    RunAct.entries acts = [⟨true, result⟩] ∧ result.stage = stage ∧
      result.criticalFailures = [] := by
  cases h with
  | entered hpass =>
      refine ⟨?_, hpass.stage_of_ok, hpass.criticalFailures_of_ok⟩
      rw [RunAct.entries_append, hpass.entries_of_ok, entries_entering, List.nil_append]

theorem IsRepetition.entries_of_ok {past : List Entry} {stages : List Stage}
    {results : List StageResult} (h : IsRepetition p origin past stages acts (.ok results)) :
    RunAct.entries acts = results.map (Entry.mk true) ∧
      results.map StageResult.stage = stages ∧
      ∀ result ∈ results, result.criticalFailures = [] :=
  IsSeries.entries_of_ok true (fun _ _ _ _ _ _ hrepeat => hrepeat.entries_of_ok) h

/-- Running stages again stops at the first one in which a critical frame
fails. -/
theorem IsRepetition.entries_of_error {past : List Entry} {stages : List Stage} {e : RunError}
    (h : IsRepetition p origin past stages acts (.error e))
    (hquiet : ∀ call, .attempt call none ∉ acts) :
    ∃ (results : List StageResult) (last : StageResult),
      RunAct.entries acts = (results ++ [last]).map (Entry.mk true) ∧
      (results ++ [last]).map StageResult.stage <+: stages ∧
      (∀ result ∈ results, result.criticalFailures = []) ∧ last.criticalFailures ≠ [] ∧
      e = .stageFailed last.stage (Pipeline.failureMessage last.criticalFailures) := by
  obtain ⟨finished, stage, rest, before, more, results, run, rfl, rfl, hbefore, _, hlast⟩ :=
    IsSeries.exists_of_error h
  obtain ⟨hentries, hstages, hcriticals⟩ := IsRepetition.entries_of_ok hbefore
  cases hlast with
  | stopped hpass =>
      obtain ⟨last, hentry, rfl, hcritical, he⟩ := hpass.entries_of_error
        fun call hcall => hquiet call (List.mem_append_right before hcall)
      refine ⟨results, last, ?_, ?_, hcriticals, hcritical, he⟩
      · rw [RunAct.entries_append, hentries, hentry, List.map_append, List.map_singleton]
      · rw [List.map_append, hstages, List.map_singleton]
        exact ⟨rest, by simp⟩

end Entries

/-! ## Properties that are put together -/

/-- A property of acts, given what was entered before them, that holds of the
parts of a run and of whatever is put together from them. -/
structure Assembles (p : Pipeline) (origin : Run) (P : List Entry → List RunAct → Prop) :
    Prop where
  nil : ∀ {past : List Entry}, P past []
  append : ∀ {past : List Entry} {before rest : List RunAct},
    P past before → P (past ++ RunAct.entries before) rest → P past (before ++ rest)
  pass : ∀ {past : List Entry} {run : Run} {stage : Stage} {repeated : Bool}
    {acts : List RunAct} {answer : Except RunError StageResult},
    origin.Reached past run → (repeated = true → stage ∈ Pipeline.repeatedStages) →
    IsPass p run stage repeated acts answer → P past acts
  other : ∀ {past : List Entry} {act : RunAct}, act.call? = none → P past [act]

namespace Assembles

variable {p : Pipeline} {P : List Entry → List RunAct → Prop} {origin run : Run} {stage : Stage}
  {acts : List RunAct} {past : List Entry}

theorem cons (hP : Assembles p origin P) {act : RunAct} (hact : act.call? = none)
    (h : P (past ++ act.entered?.toList) acts) : P past (act :: acts) := by
  refine hP.append (hP.other hact) ?_
  rwa [RunAct.entries_cons, RunAct.entries_nil, List.append_nil]

theorem entering (hP : Assembles p origin P) (repeated : Bool) (result : StageResult) :
    P past (ScaffoldRunner.entering repeated result) :=
  hP.cons rfl (hP.other rfl)

theorem commands (hP : Assembles p origin P) (h : ∀ act ∈ acts, act.IsCommand) :
    P past acts := by
  induction acts generalizing past with
  | nil => exact hP.nil
  | cons act acts ih =>
      obtain ⟨argv, result, rfl⟩ := h act List.mem_cons_self
      exact hP.cons rfl (ih fun act hact => h act (List.mem_cons_of_mem _ hact))

theorem series (hP : Assembles p origin P)
    {step : List Entry → Run → Stage → List RunAct → Except RunError StageResult → Prop}
    {stages : List Stage} {answer : Except RunError (List StageResult)}
    (hstep : ∀ past run stage acts answer, origin.Reached past run → stage ∈ stages →
      step past run stage acts answer → P past acts)
    (h : IsSeries origin step past stages acts answer) : P past acts := by
  induction h with
  | done => exact hP.nil
  | stopped _ hpast hfirst => exact hstep _ _ _ _ _ hpast List.mem_cons_self hfirst
  | later hpast hfirst _ ih | next hpast hfirst _ ih =>
      refine hP.append (hstep _ _ _ _ _ hpast List.mem_cons_self hfirst) (ih ?_)
      intro past run stage acts answer hpast hstage
      exact hstep past run stage acts answer hpast (List.mem_cons_of_mem _ hstage)

theorem repetition (hP : Assembles p origin P) {answer : Except RunError (List StageResult)}
    (h : IsRepetition p origin past Pipeline.repeatedStages acts answer) : P past acts := by
  refine hP.series (fun _ _ stage _ _ hpast hstage hrepeat => ?_) h
  cases hrepeat with
  | stopped hpass => exact hP.pass hpast (fun _ => hstage) hpass
  | entered hpass => exact hP.append (hP.pass hpast (fun _ => hstage) hpass) (hP.entering _ _)

theorem completion (hP : Assembles p origin P) {result : StageResult}
    {answer : Except RunError StageResult}
    (h : IsCompletion p origin past run result acts answer) : P past acts := by
  cases h with
  | unrepeated | plain => exact hP.nil
  | repeated _ _ hrepetition | repetitionFailed _ _ hrepetition =>
      exact hP.repetition hrepetition
  | audited | unaudited | unpublished => exact hP.other rfl
  | published _ _ _ hcommands | publicationInterrupted _ _ hcommands =>
      exact hP.commands hcommands

theorem stageRun (hP : Assembles p origin P) {answer : Except RunError StageResult}
    (hpast : origin.Reached past run)
    (h : IsStageRun p origin past run stage acts answer) : P past acts := by
  cases h with
  | stopped hpass => exact hP.pass hpast (by simp) hpass
  | incomplete hpass hcompletion =>
      refine hP.append (hP.pass hpast (by simp) hpass) ?_
      rw [hpass.entries_of_ok, List.append_nil]
      exact hP.completion hcompletion
  | entered hpass hcompletion =>
      refine hP.append (hP.append (hP.pass hpast (by simp) hpass) ?_) (hP.entering _ _)
      rw [hpass.entries_of_ok, List.append_nil]
      exact hP.completion hcompletion

theorem walk (hP : Assembles p origin P) {stopped : Bool} {answer : Except RunError Unit}
    (h : IsWalk p origin stopped acts answer) : P [] acts := by
  cases h with
  | stopped => exact hP.nil
  | walked hcourse =>
      exact hP.series (fun _ _ _ _ _ hpast _ hrun => hP.stageRun hpast hrun) hcourse

end Assembles

end ScaffoldRunner
