import ScaffoldRunner.Proofs.Run.Effects
import ScaffoldRunner.Proofs.Run.Schedule
import ScaffoldRunner.Proofs.Run.Tally
import ScaffoldRunner.Proofs.Workspace.Reports

/-!
# Interrupted runs

The shutdown may come before the first stage, and whenever the host is asked for
a frame or a command: in an attempt, in a stage that is run again, while the
working directory is published.  Wherever it comes, nothing is asked of the host
after it and nothing is saved.  The run is counted as failed and reported with
the log as it is at that point.
-/

namespace ScaffoldRunner

/-- The answer is that of an interrupted run. -/
def Aborts {α : Type} : Except RunError α → Prop
  | .ok _ => False
  | .error e => e = .aborted shutdownReason

theorem Aborts.not_isOk {α : Type} {answer : Except RunError α} (h : Aborts answer) :
    answer.isOk = false := by
  cases answer with
  | ok a => exact h.elim
  | error e => rfl

theorem Aborts.eq_error {α : Type} {answer : Except RunError α} (h : Aborts answer) :
    answer = .error (.aborted shutdownReason) := by
  cases answer with
  | ok a => exact h.elim
  | error e => exact congrArg Except.error h

variable {p : Pipeline} {origin run : Run} {stage : Stage} {past : List Entry}
  {acts : List RunAct}

/-! ## Where a walk stops -/

theorem uninterrupted_nil : Uninterrupted [] := by
  simp [Uninterrupted]

theorem uninterrupted_entering (repeated : Bool) (result : StageResult) :
    Uninterrupted (entering repeated result) := by
  simp [Uninterrupted, entering, RunAct.IsInterruption]

theorem Uninterrupted.heeds {interrupted : Prop} (h : Uninterrupted acts)
    (hnot : ¬interrupted) : Heeds acts interrupted where
  ends hinterrupted := absurd hinterrupted hnot
  quiet _ := h

theorem IsTrial.heeds {retries : Nat} {call : FrameCall} {outcome : Option FrameOutcome}
    (h : IsTrial retries call acts outcome) : Heeds acts (outcome = none) := by
  induction h with
  | interrupted retries call =>
      refine ⟨fun _ => ⟨[], _, rfl, uninterrupted_nil, trivial⟩, fun hnot => absurd rfl hnot⟩
  | success | failure =>
      refine Uninterrupted.heeds ?_ (by simp)
      simp [Uninterrupted, RunAct.IsInterruption]
  | @again retries call e acts outcome _ ih =>
      have hfirst : Uninterrupted [.attempt call (some (.error e)),
          .count Metrics.frameRetried] := by
        simp [Uninterrupted, RunAct.IsInterruption]
      exact ih.after hfirst

theorem IsSweep.heeds {frames : List Frame} {answer : Option (List FrameEntry)}
    (h : IsSweep p run stage frames acts answer) : Heeds acts (answer = none) := by
  induction h with
  | done => exact uninterrupted_nil.heeds (by simp)
  | interrupted _ htrial => exact ⟨fun _ => htrial.heeds.ends rfl, fun hnot => absurd rfl hnot⟩
  | later htrial _ ih => exact ih.after (htrial.heeds.quiet (by simp))
  | next htrial _ ih =>
      have hquiet := (htrial.heeds.quiet (by simp)).append (ih.quiet (by simp))
      exact hquiet.heeds (by simp)

theorem IsPass.heeds {repeated : Bool} {answer : Except RunError StageResult}
    (h : IsPass p run stage repeated acts answer) : Heeds acts (Aborts answer) := by
  cases h with
  | finished hsweep => exact (hsweep.heeds.quiet (by simp)).heeds id
  | @failed _ entries hsweep =>
      have hquiet := (hsweep.heeds.quiet (by simp)).append
        (uninterrupted_entering repeated (StageResult.ofSweep stage entries).failing)
      exact hquiet.heeds (by simp [Aborts])
  | interrupted hsweep =>
      exact ⟨fun _ => hsweep.heeds.ends rfl, fun hnot => absurd rfl hnot⟩

/-- A series stops where one of its steps does. -/
theorem IsSeries.heeds
    {step : List Entry → Run → Stage → List RunAct → Except RunError StageResult → Prop}
    (hstep : ∀ past run stage acts answer, step past run stage acts answer →
      Heeds acts (Aborts answer))
    {stages : List Stage} {answer : Except RunError (List StageResult)}
    (h : IsSeries origin step past stages acts answer) : Heeds acts (Aborts answer) := by
  induction h with
  | done => exact uninterrupted_nil.heeds id
  | stopped stages _ hfirst => exact hstep _ _ _ _ _ hfirst
  | later _ hfirst _ ih => exact ih.after ((hstep _ _ _ _ _ hfirst).quiet id)
  | next _ hfirst _ ih =>
      exact (((hstep _ _ _ _ _ hfirst).quiet id).append (ih.quiet id)).heeds id

theorem IsRepeat.heeds {answer : Except RunError StageResult}
    (h : IsRepeat p run stage acts answer) : Heeds acts (Aborts answer) := by
  cases h with
  | stopped hpass => exact hpass.heeds
  | entered hpass =>
      exact ((hpass.heeds.quiet id).append (uninterrupted_entering true _)).heeds id

theorem IsRepetition.heeds {stages : List Stage} {answer : Except RunError (List StageResult)}
    (h : IsRepetition p origin past stages acts answer) : Heeds acts (Aborts answer) :=
  IsSeries.heeds (fun _ _ _ _ _ hrepeat => hrepeat.heeds) h

theorem IsCompletion.heeds {result : StageResult} {answer : Except RunError StageResult}
    (h : IsCompletion p origin past run result acts answer) : Heeds acts (Aborts answer) := by
  cases h with
  | unrepeated | plain => exact uninterrupted_nil.heeds id
  | repeated _ _ hrepetition => exact (hrepetition.heeds.quiet id).heeds id
  | repetitionFailed _ _ hrepetition => exact hrepetition.heeds
  | audited | unaudited | unpublished =>
      refine Uninterrupted.heeds ?_ (by simp [Aborts])
      simp [Uninterrupted, RunAct.IsInterruption]
  | published _ _ _ _ hquiet => exact hquiet.heeds id
  | publicationInterrupted _ _ _ hends => exact ⟨fun _ => hends, fun hnot => absurd rfl hnot⟩

theorem IsStageRun.heeds {answer : Except RunError StageResult}
    (h : IsStageRun p origin past run stage acts answer) : Heeds acts (Aborts answer) := by
  cases h with
  | stopped hpass => exact hpass.heeds
  | incomplete hpass hcompletion => exact hcompletion.heeds.after (hpass.heeds.quiet id)
  | entered hpass hcompletion =>
      have hquiet := (hpass.heeds.quiet id).append (hcompletion.heeds.quiet id)
      exact (hquiet.append (uninterrupted_entering false _)).heeds id

/-- A walk that is begun stops at an interruption. -/
theorem IsWalk.heeds {answer : Except RunError Unit} (h : IsWalk p origin false acts answer) :
    Heeds acts (Aborts answer) := by
  cases h with
  | @walked acts answer hcourse =>
      have hheeds : Heeds acts (Aborts answer) :=
        IsSeries.heeds (fun _ _ _ _ _ hrun => hrun.heeds) hcourse
      cases answer <;> exact hheeds

/-! ## What follows an interruption -/

theorem IsFinish.not_aborts {scaffold : Scaffold} {answer : Except RunError RunOutcome}
    (h : IsFinish scaffold run acts answer) : ¬Aborts answer := by
  cases h with
  | unsaved hsaving => cases hsaving; simp [Aborts]
  | saved _ hreporting => cases hreporting <;> simp [Aborts]

theorem IsFinish.uninterrupted {scaffold : Scaffold} {answer : Except RunError RunOutcome}
    (h : IsFinish scaffold run acts answer) : Uninterrupted acts := by
  cases h with
  | unsaved hsaving => cases hsaving; simp [Uninterrupted, RunAct.IsInterruption]
  | saved hsaving hreporting =>
      cases hsaving <;> cases hreporting <;> simp [Uninterrupted, RunAct.IsInterruption]

theorem IsFailing.uninterrupted {change : Metrics → Metrics} {e : RunError}
    (h : IsFailing change run e acts) : Uninterrupted acts := by
  cases h
  simp [Uninterrupted, RunAct.IsInterruption]

theorem IsEnding.uninterrupted {scaffold : Scaffold} {answer : Except RunError Unit}
    {outcome : Except RunError RunOutcome} (h : IsEnding scaffold run answer acts outcome) :
    Uninterrupted acts := by
  have hcount (millis : Nat) : Uninterrupted [.count (Metrics.markDone millis)] := by
    simp [Uninterrupted, RunAct.IsInterruption]
  cases h with
  | completed millis hfinish => exact (hcount millis).append hfinish.uninterrupted
  | unfinished millis hfinish hfailing =>
      exact ((hcount millis).append hfinish.uninterrupted).append hfailing.uninterrupted
  | failed _ _ hfailing => exact hfailing.uninterrupted

/-- An ending neither adds an interruption nor hides one. -/
theorem IsEnding.aborts_iff {scaffold : Scaffold} {answer : Except RunError Unit}
    {outcome : Except RunError RunOutcome} (h : IsEnding scaffold run answer acts outcome) :
    Aborts outcome ↔ Aborts answer := by
  cases h with
  | completed => exact Iff.rfl
  | unfinished _ hfinish => exact iff_of_false hfinish.not_aborts id
  | failed => exact Iff.rfl

/-- A walk aborts when it is stopped before it is begun or interrupted on the way. -/
theorem IsWalk.aborts_iff {stopped : Bool} {answer : Except RunError Unit}
    (h : IsWalk p origin stopped acts answer) :
    Aborts answer ↔ stopped = true ∨ ∃ act ∈ acts, act.IsInterruption := by
  cases stopped with
  | true =>
      cases h
      exact iff_of_true rfl (.inl rfl)
  | false =>
      have hheeds := h.heeds
      constructor
      · intro haborts
        exact .inr (hheeds.ends haborts).exists_interruption
      · rintro (hstopped | ⟨act, hact, hinterruption⟩)
        · simp at hstopped
        · by_contra hnot
          exact hheeds.quiet hnot act hact hinterruption

theorem head?_toList_append {front : String} {c : Char} (h : front.toList.head? = some c)
    (back : String) : (front ++ back).toList.head? = some c := by
  rw [String.toList_append, List.head?_append, h, Option.some_or]

/-- The reports on completed runs are told from all others by their first letter. -/
theorem head?_executionSubject (id : String) :
    (ReportDirectory.executionSubject id).toList.head? = some 's' :=
  head?_toList_append (by decide) id

theorem executionSubject_ne_auditSubject (id scaffold : String) :
    ReportDirectory.executionSubject id ≠ ReportDirectory.auditSubject scaffold := by
  intro heq
  have haudit : (ReportDirectory.auditSubject scaffold).toList.head? = some 'm' :=
    head?_toList_append (by decide) scaffold
  rw [← heq, head?_executionSubject] at haudit
  exact absurd haudit (by decide)

theorem executionSubject_ne_failureSubject (id : String) :
    ReportDirectory.executionSubject id ≠ ReportDirectory.failureSubject := by
  intro heq
  have hfailure : ReportDirectory.failureSubject.toList.head? = some 'f' := by decide
  rw [← heq, head?_executionSubject] at hfailure
  exact absurd hfailure (by decide)

/-! ## Runs that are broken off -/

variable {σ : Type}

/-- The acts of a run that is broken off: a walk that stops where the shutdown comes,
and after it the report on the failure and nothing else of consequence. -/
structure BreaksOff (p : Pipeline) (host : Host σ) (stopped : Bool) (start : Progress σ)
    (acts walk : List RunAct) (document : FailureDocument) (path : Except OsError String) :
    Prop where
  stops : if stopped then walk = [] else EndsInterrupted walk
  acts_eq : ∃ change,
    acts = walk ++ [.count change, .report ReportDirectory.failureSubject document.toJson path]
  unsaved : ∀ task old new merged, .save task old new merged ∉ acts
  unfinished : ∀ id report path, .report (ReportDirectory.executionSubject id) report path ∉ acts
  /-- The reports of the walk itself are audits, so the failure is reported once. -/
  audits : ∀ subject report path, .report subject report path ∈ walk →
    subject = ReportDirectory.auditSubject start.run.scaffoldId
  error : document.error = .aborted shutdownReason
  run : document.run = (p.after host walk start).run
  inOrder : ∃ k, document.run.InOrder k
  written : p.reports.IsWritable ReportDirectory.failureSubject
      (p.after host walk start).session.now (p.after host walk start).session.world.files →
    ∃ name, path = .ok name ∧
      (p.after host acts start).session.world.files.readBytes name =
        .ok document.toJson.pretty.toUTF8

namespace Pipeline

variable {p : Pipeline} {host : Host σ}

/-- A report that is made where that is possible is there afterwards. -/
theorem exists_readBytes_report {subject : String} {document : Json}
    {path : Except OsError String} {s : Progress σ}
    (hwritable : p.reports.IsWritable subject s.session.now s.session.world.files)
    (htrue : (RunAct.report subject document path).IsTrue p host s.session) :
    ∃ name, path = .ok name ∧
      ((RunAct.report subject document path).perform p host s).session.world.files.readBytes
        name = .ok document.pretty.toUTF8 := by
  obtain ⟨name, after, hwrite⟩ := hwritable.exists_write document
  change (s.session.onFiles (p.reports.write subject s.session.now document)).1 = path at htrue
  rw [Session.answer_onFiles, hwrite] at htrue
  refine ⟨name, htrue.symm, ?_⟩
  change (s.session.onFiles
    (p.reports.write subject s.session.now document)).2.world.files.readBytes name = _
  rw [Session.files_onFiles, hwrite]
  let request : ReportRequest := ⟨subject, s.session.now, document⟩
  exact (ReportDirectory.readBytes_of_write (r := request) hwrite).2

theorem breaksOff {stopped : Bool} {start : Progress σ} {scaffold : Scaffold}
    (hfresh : start.run.IsFresh) {walk ending : List RunAct} {answer : Except RunError Unit}
    {outcome : Except RunError RunOutcome} (hwalk : IsWalk p start.run stopped walk answer)
    (hending : IsEnding scaffold (p.after host walk start).run answer ending outcome)
    (hplays : p.Plays host start (walk ++ ending)) (haborts : Aborts outcome) :
    ∃ document path, BreaksOff p host stopped start (walk ++ ending) walk document path := by
  have hanswer := hending.aborts_iff.mp haborts
  cases hending with
  | completed => exact hanswer.elim
  | unfinished => exact hanswer.elim
  | @failed millis _ e hfailing =>
      obtain ⟨document, path, herror, hrun⟩ := hfailing
      refine ⟨document, path, ?stops, ⟨_, rfl⟩, ?unsaved, ?unreported,
        fun _ _ _ => hwalk.subject_of_report, herror.trans hanswer, hrun, ?inOrder, ?written⟩
      case stops =>
        cases stopped with
        | true =>
            cases hwalk
            rfl
        | false => exact hwalk.heeds.ends hanswer
      case unsaved => simp [hwalk.save_notMem]
      case unreported =>
        intro id report path hmem
        rcases List.mem_append.mp hmem with hmem | hmem
        · exact executionSubject_ne_auditSubject id _ (hwalk.subject_of_report hmem)
        · simp [executionSubject_ne_failureSubject] at hmem
      case inOrder =>
        rw [hrun]
        exact ⟨_, hwalk.inOrder hfresh (List.prefix_refl walk)
          (p.reached_after host (.start : Run.Reached _ [] start.run) walk)⟩
      case written =>
        intro hwritable
        obtain ⟨-, -, htrue, -⟩ := (plays_append ..).mp hplays
        -- Counting the failure does not touch the files.
        let counted := (RunAct.count (Metrics.markBroken millis)).perform p host
          (p.after host walk start)
        have hcounted : p.reports.IsWritable ReportDirectory.failureSubject counted.session.now
            counted.session.world.files := hwritable
        obtain ⟨name, hname, hbytes⟩ := exists_readBytes_report hcounted htrue
        exact ⟨name, hname, by rw [after_append]; exact hbytes⟩

/-- A run aborts when the shutdown comes before its first stage or during an act of its
stages.  Nothing is attempted or run after that act and nothing is saved; the run
counts as failed, and one report tells of the failure with the log as it is then. -/
theorem execute_aborts {scaffoldId : String} {scaffold : Scaffold} {input document : Json}
    (hfound : p.registry.scaffolds.get? scaffoldId = some scaffold)
    (hinput : runInput input = .ok document) (host : Host σ) (stopped : Bool)
    (session : Session σ) :
    ∃ walk ending answer,
      p.IsRun host scaffold document stopped session walk ending answer
        (p.execute host scaffoldId input stopped session) ∧
      (Aborts (answerOf (p.execute host scaffoldId input stopped session)) ↔
        stopped = true ∨ ∃ act ∈ walk ++ ending, act.IsInterruption) ∧
      (Aborts (answerOf (p.execute host scaffoldId input stopped session)) →
        (∃ report path, BreaksOff p host stopped (p.begin scaffold document session)
          (walk ++ ending) walk report path) ∧
        (stateOf (p.execute host scaffoldId input stopped session)).metrics.runsFailed =
          session.metrics.runsFailed + 1 ∧
        (stateOf (p.execute host scaffoldId input stopped session)).metrics.runsCompleted =
          session.metrics.runsCompleted ∧
        (stateOf (p.execute host scaffoldId input stopped session)).metrics.runState =
          "failed") := by
  obtain ⟨walk, ending, answer, hrun⟩ := exists_isRun hfound hinput host stopped session
  refine ⟨walk, ending, answer, hrun, ?_, fun haborts => ⟨?_, ?_⟩⟩
  · rw [hrun.ends.aborts_iff, hrun.walks.aborts_iff]
    simp only [List.mem_append, or_and_right, exists_or]
    have hquiet : ¬∃ act ∈ ending, act.IsInterruption := fun ⟨act, hact, hinterruption⟩ =>
      hrun.ends.uninterrupted act hact hinterruption
    rw [or_iff_left hquiet]
  · exact breaksOff (p.begin_isFresh scaffold document session) hrun.walks hrun.ends hrun.plays
      haborts
  · have hanswer := hrun.ends.aborts_iff.mp haborts
    have htally := p.tally_walk host hrun.walks hrun.ends
    rw [haborts.not_isOk, hanswer.not_isOk, p.tally_begin] at htally
    rw [hrun.state]
    exact ⟨congrArg RunTally.failed htally, congrArg RunTally.completed htally,
      congrArg RunTally.state htally⟩

/-- A host that is told to stop while it runs a frame. -/
def interrupting : Host (List FrameCall) where
  callFrame call world := (.interrupted, { world with state := world.state ++ [call] })
  runProgram _ world := (.done (.notStarted "not found"), world)

theorem execute_oneFrame_aborts :
    ∃ p scaffold walk ending answer report path session',
      Pipeline.ofConfig oneFrame "/" true = .ok p ∧
      p.registry.scaffolds.get? "check" = some scaffold ∧
      p.execute interrupting "check" .null false emptySession =
        .error (.aborted shutdownReason) session' ∧
      p.IsRun interrupting scaffold (.obj []) false emptySession walk ending answer
        (p.execute interrupting "check" .null false emptySession) ∧
      session'.world.state.length = 1 ∧
      session'.metrics.runsFailed = 1 ∧
      session'.world.files.pathExists "/reports/framework_failure_19700101_000000.json" = true ∧
      BreaksOff p interrupting false (p.begin scaffold (.obj []) emptySession) (walk ++ ending) walk
        report path := by
  obtain ⟨p, scaffold, hconfig, hfound⟩ := exists_pipeline_oneFrame
  obtain ⟨hstate, hexists⟩ :
      (stateOf (p.execute interrupting "check" .null false emptySession)).world.state.length = 1 ∧
      (stateOf (p.execute interrupting "check" .null false emptySession)).world.files.pathExists
        "/reports/framework_failure_19700101_000000.json" = true := by
    obtain rfl := Except.ok.inj hconfig
    decide +kernel
  obtain ⟨session', hruns⟩ : ∃ session',
      p.execute interrupting "check" .null false emptySession =
        .error (.aborted shutdownReason) session' := by
    obtain rfl := Except.ok.inj hconfig
    exact ⟨_, rfl⟩
  obtain ⟨walk, ending, answer, hrun, -, haborts⟩ :=
    execute_aborts hfound (rfl : runInput .null = .ok (.obj [])) interrupting false emptySession
  obtain ⟨⟨report, path, hbreaks⟩, hfailed, -⟩ := haborts (by rw [hruns]; rfl)
  rw [hruns] at hstate hexists hfailed
  exact ⟨p, scaffold, walk, ending, answer, report, path, session', hconfig, hfound, hruns, hrun,
    hstate, hfailed, hexists, hbreaks⟩

end Pipeline

end ScaffoldRunner
