import ScaffoldRunner.Proofs.Run.Interruption
import ScaffoldRunner.Proofs.Run.Outline

/-!
# Running stages again

A run that is not interrupted runs stages again exactly when its outline says
so.  The records of the log tell which stages ran again, and the fifth stage
tells whether that helped.  Since stages run again once at most, there is a
bound on how often frames are called.
-/

namespace ScaffoldRunner

variable {σ : Type} {p : Pipeline} {origin run : Run} {stage : Stage}
  {acts : List RunAct}

/-! ## How often frames are called -/

def Mark.isFrame : Mark → Bool
  | frame .. => true
  | entered _ => false

/-- How many frames a scaffold plans for some stages. -/
def Pipeline.frameCount (p : Pipeline) (scaffold : String) (stages : List Stage) : Nat :=
  (stages.flatMap (p.registry.framesFor scaffold)).length

/-- No frame that is taken up is attempted more often than it may be. -/
def KeepsLimit (p : Pipeline) (acts : List RunAct) : Prop :=
  (RunAct.calls acts).length ≤ max p.maxAttempts 1 * (RunAct.marks acts).countP Mark.isFrame

theorem KeepsLimit.append {before rest : List RunAct} (hbefore : KeepsLimit p before)
    (hrest : KeepsLimit p rest) : KeepsLimit p (before ++ rest) := by
  unfold KeepsLimit at *
  rw [RunAct.calls_append, RunAct.marks_append, List.length_append, List.countP_append, Nat.mul_add]
  omega

theorem IsTrial.length_calls {retries : Nat} {call : FrameCall}
    {outcome : Option FrameOutcome} (h : IsTrial retries call acts outcome) :
    (RunAct.calls acts).length ≤ retries + 1 := by
  induction h with
  | interrupted | success | failure => simp [RunAct.call?]
  | again _ _ ih => simpa [RunAct.call?] using ih

theorem IsTrial.keepsLimit {frame : Frame} {outcome : Option FrameOutcome}
    (h : IsTrial (p.firstCall stage run frame).retries (p.firstCall stage run frame) acts
      outcome) : KeepsLimit p acts := by
  have hlength := h.length_calls
  have hretries := p.retries_firstCall stage run frame
  have hmarks : (RunAct.marks acts).countP Mark.isFrame = 1 := by
    rw [h.marks_firstCall]
    rfl
  rw [KeepsLimit, hmarks]
  omega

theorem IsSweep.keepsLimit {frames : List Frame} {answer : Option (List FrameEntry)}
    (h : IsSweep p run stage frames acts answer) : KeepsLimit p acts := by
  induction h with
  | done => simp [KeepsLimit]
  | interrupted _ htrial => exact htrial.keepsLimit
  | later htrial _ ih | next htrial _ ih => exact htrial.keepsLimit.append ih

theorem keepsLimit_of_noCall {act : RunAct} (h : act.call? = none) : KeepsLimit p [act] := by
  simp [KeepsLimit, h]

theorem assembles_keepsLimit (p : Pipeline) (origin : Run) :
    Assembles p origin fun _ acts => KeepsLimit p acts where
  nil := by simp [KeepsLimit]
  append := KeepsLimit.append
  pass _ _ hpass := by
    cases hpass with
    | finished hsweep | interrupted hsweep => exact hsweep.keepsLimit
    | failed hsweep =>
        exact hsweep.keepsLimit.append
          ((keepsLimit_of_noCall rfl).append (keepsLimit_of_noCall rfl))
  other := keepsLimit_of_noCall

theorem Pipeline.countP_sweepWord (p : Pipeline) (scaffold : String) (stage : Stage) :
    (p.sweepWord scaffold stage).countP Mark.isFrame =
      (p.registry.framesFor scaffold stage).length := by
  simp [sweepWord, List.countP_map, Function.comp_def, Mark.isFrame]

theorem Pipeline.countP_runWord (p : Pipeline) (scaffold : String) (repeats : Bool) :
    (p.runWord scaffold repeats).countP Mark.isFrame ≤
      p.frameCount scaffold Stage.all + p.frameCount scaffold repeatedStages := by
  cases repeats
  · simp [runWord, Stage.all, stageWord, completionWord, countP_sweepWord, frameCount,
      Mark.isFrame]
  · simp [runWord, Stage.all, stageWord, completionWord, repetitionWord, passWord,
      repeatedStages, countP_sweepWord, frameCount, Mark.isFrame]
    omega

/-! ## Stages are run again when they have to be -/

/-- When and how a run goes through stages again: what it has entered first and
again, what it answers and what its log comes to. -/
structure RepeatsOnDemand (p : Pipeline) (scaffold : String) (acts : List RunAct)
    (answer : Except RunError Unit) (final : Run) (first again : List StageResult) :
    Prop where
  /-- What was entered first are the results of the first stages, in their order. -/
  first_prefix : first.map StageResult.stage <+: Stage.all
  /-- Stages are run again when the fifth one is reached, none of its own critical
  frames failed, and one of the first four was not successful. -/
  happens_iff : again ≠ [] ↔
    (4 ≤ first.length ∧ ∀ result ∈ first.take 4, result.criticalFailures = []) ∧
    ¬FailsAtFifth p scaffold acts ∧
    ∃ result ∈ first.take 4, result.isSuccessful = false
  /-- It happens once, after the frames of the fifth stage. -/
  marks_prefix : RunAct.marks acts <+: p.runWord scaffold !again.isEmpty
  stages_prefix : again.map StageResult.stage <+: Pipeline.repeatedStages
  /-- It stops, and the run with it, at the first stage that fails. -/
  stops : ∀ result ∈ again, result.criticalFailures ≠ [] →
    again.getLast? = some result ∧
      answer = .error (.stageFailed result.stage
        (Pipeline.failureMessage result.criticalFailures))
  goes_on : again ≠ [] → (∀ result ∈ again, result.criticalFailures = []) →
    again.map StageResult.stage = Pipeline.repeatedStages
  /-- When no stage fails, the fifth one tells what became of it. -/
  completes : again ≠ [] → (∀ result ∈ again, result.criticalFailures = []) →
    ∃ fifth ∈ final.log, ∃ outcome, fifth.stage = .successContinue ∧
      fifth.result.status = .retryCompleted ∧ fifth.result.retry = some outcome ∧
      outcome.failed =
        ((first.take 4).filter fun result => !result.isSuccessful).map StageResult.stage ∧
      outcome.retried = Pipeline.repeatedStages ∧
      (outcome.recovered = true ↔
        ∀ r ∈ final.log, r.stage ∈ Pipeline.repeatedStages → r.isSuccessful = true)
  retried_iff : ∀ r ∈ final.log,
    (r.retried = true ↔ r.stage ∈ again.map StageResult.stage)

/-- Only the entry of the fifth stage can tell that one of its critical frames
failed. -/
theorem assembles_failsAtFifth (p : Pipeline) (origin : Run) :
    Assembles p origin fun _ acts => FailsAtFifth p origin.scaffoldId acts →
      (∃ call, .attempt call none ∈ acts) ∨
      ∃ result ∈ Entry.firstResults (RunAct.entries acts),
        result.stage = .successContinue ∧ result.criticalFailures ≠ [] where
  nil := by simp [FailsAtFifth]
  append := by
    rintro past before rest hbefore hrest ⟨call, outcome, hmem, hfails⟩
    rw [RunAct.entries_append, Entry.firstResults_append]
    rcases List.mem_append.mp hmem with hmem | hmem
    · rcases hbefore ⟨call, outcome, hmem, hfails⟩ with
        ⟨other, hother⟩ | ⟨result, hresult, h⟩
      · exact .inl ⟨other, List.mem_append_left _ hother⟩
      · exact .inr ⟨result, List.mem_append_left _ hresult, h⟩
    · rcases hrest ⟨call, outcome, hmem, hfails⟩ with
        ⟨other, hother⟩ | ⟨result, hresult, h⟩
      · exact .inl ⟨other, List.mem_append_right _ hother⟩
      · exact .inr ⟨result, List.mem_append_right _ hresult, h⟩
  pass := by
    rintro past run stage repeated acts answer hpast hrepeated hpass
      ⟨call, outcome, hmem, hstage, hends⟩
    rw [← hpast.frame.2.1] at hends
    cases hpass with
    | interrupted hsweep => exact .inl hsweep.exists_interruption
    | finished hsweep hcritical =>
        exact absurd hcritical (hsweep.endsRun_iff_criticalFailures.mp ⟨_, hmem, hends⟩)
    | @failed sweep entries hsweep hcritical =>
        have hattempt : .attempt call outcome ∈ sweep := by
          simpa [ScaffoldRunner.entering] using hmem
        obtain rfl := hsweep.stage_of_attempted hattempt
        obtain rfl : repeated = false := by
          refine Bool.eq_false_iff.mpr fun hagain => ?_
          exact absurd (hstage ▸ hrepeated hagain) (by decide)
        refine .inr ⟨(StageResult.ofSweep call.stage entries).failing, ?_,
          (StageResult.stage_ofSweep _ _).trans hstage, hcritical⟩
        rw [RunAct.entries_append, hsweep.entries, entries_entering]
        simp [Entry.firstResults]
  other := by
    rintro past act hact ⟨call, outcome, hmem, _⟩
    obtain rfl := List.mem_singleton.mp hmem
    simp [RunAct.call?] at hact

section Outlines

variable {scaffold : String} {answer : Except RunError Unit}

theorem length_of_opening {front : List StageResult}
    (h : front.map StageResult.stage = Stage.opening) : front.length = 4 := by
  simpa [Stage.opening] using congrArg List.length h

theorem IsOutline.happens_iff (h : IsOutline p scaffold acts answer)
    (hturns : Turn.OnSchedule ((RunAct.entries acts).map Entry.turn))
    (hfails : FailsAtFifth p scaffold acts →
      ∃ result ∈ Entry.firstResults (RunAct.entries acts),
        result.stage = .successContinue ∧ result.criticalFailures ≠ []) :
    Entry.repeatedResults (RunAct.entries acts) ≠ [] ↔
      (4 ≤ (Entry.firstResults (RunAct.entries acts)).length ∧
        ∀ result ∈ (Entry.firstResults (RunAct.entries acts)).take 4,
          result.criticalFailures = []) ∧
      ¬FailsAtFifth p scaffold acts ∧
      ∃ result ∈ (Entry.firstResults (RunAct.entries acts)).take 4,
        result.isSuccessful = false := by
  have hnodup := Entry.nodup_stage_firstResults hturns
  cases h with
  | early front last hentries hlength hcritical =>
      rw [hentries, Entry.firstResults_map_first, Entry.repeatedResults_map_first]
      refine iff_of_false (fun hne => hne rfl) ?_
      rintro ⟨⟨_, hpassed⟩, _⟩
      rw [List.take_of_length_le hlength] at hpassed
      exact hcritical (hpassed last (by simp))
  | fifth front last hentries hfifth =>
      rw [hentries, Entry.repeatedResults_map_first]
      exact iff_of_false (fun hne => hne rfl) fun hright => hright.2.1 hfifth
  | broken front again last hentries hfront hcritical hunsuccessful =>
      rw [hentries, Entry.firstResults_append, Entry.firstResults_map_first,
        Entry.firstResults_map_repeated, List.append_nil] at hfails ⊢
      have hlength := length_of_opening hfront
      rw [List.take_of_length_le (Nat.le_of_eq hlength)]
      refine iff_of_true (by simp)
        ⟨⟨Nat.le_of_eq hlength.symm, hcritical⟩, fun hfifth => ?_, hunsuccessful⟩
      obtain ⟨result, hresult, hstage, _⟩ := hfails hfifth
      have hopening : Stage.successContinue ∈ Stage.opening :=
        hfront ▸ hstage ▸ List.mem_map_of_mem hresult
      exact absurd hopening (by decide)
  | passed hpassed =>
      cases hpassed with
      | straight front fifth more hentries hfront hsuccessful =>
          rw [hentries, Entry.firstResults_map_first, Entry.repeatedResults_map_first,
            List.take_left' (length_of_opening hfront)]
          refine iff_of_false (fun hne => hne rfl) ?_
          rintro ⟨_, _, result, hresult, hunsuccessful⟩
          simp [hsuccessful result hresult] at hunsuccessful
      | detour front again fifth more hentries hfront hcritical hunsuccessful hagain _ hstage
          hfifth =>
          have hfirst : Entry.firstResults (RunAct.entries acts) = front ++ fifth :: more := by
            simp [hentries]
          have hagains : Entry.repeatedResults (RunAct.entries acts) = again := by
            simp [hentries]
          have hlength := length_of_opening hfront
          rw [hfirst] at hfails hnodup
          rw [hfirst, hagains, List.take_left' hlength]
          refine iff_of_true ?_
            ⟨⟨by simp [hlength], hcritical⟩, fun hends => ?_, hunsuccessful⟩
          · rintro rfl
            simp [Pipeline.repeatedStages] at hagain
          · obtain ⟨result, hresult, hresultStage, hne⟩ := hfails hends
            obtain rfl := List.inj_on_of_nodup_map hnodup hresult
              (List.mem_append_right front List.mem_cons_self) (hresultStage.trans hstage.symm)
            exact hne hfifth

theorem IsOutline.stops (h : IsOutline p scaffold acts answer) {result : StageResult}
    (hresult : result ∈ Entry.repeatedResults (RunAct.entries acts))
    (hcritical : result.criticalFailures ≠ []) :
    (Entry.repeatedResults (RunAct.entries acts)).getLast? = some result ∧
      answer = .error (.stageFailed result.stage
        (Pipeline.failureMessage result.criticalFailures)) := by
  cases h with
  | early _ _ hentries | fifth _ _ hentries => simp [hentries] at hresult
  | broken front again last hentries _ _ _ _ hcriticals _ hanswer =>
      have hagains : Entry.repeatedResults (RunAct.entries acts) = again ++ [last] := by
        simp [hentries]
      rw [hagains] at hresult ⊢
      rcases List.mem_append.mp hresult with hmem | hmem
      · exact absurd (hcriticals result hmem) hcritical
      · obtain rfl := List.mem_singleton.mp hmem
        exact ⟨List.getLast?_concat, hanswer⟩
  | passed hpassed =>
      cases hpassed with
      | straight _ _ _ hentries => simp [hentries] at hresult
      | detour front again fifth more hentries _ _ _ _ hcriticals =>
          have hagains : Entry.repeatedResults (RunAct.entries acts) = again := by
            simp [hentries]
          exact absurd (hcriticals result (hagains ▸ hresult)) hcritical

theorem IsOutline.completes (h : IsOutline p scaffold acts answer)
    (hagain : Entry.repeatedResults (RunAct.entries acts) ≠ [])
    (hcriticals : ∀ result ∈ Entry.repeatedResults (RunAct.entries acts),
      result.criticalFailures = []) :
    (Entry.repeatedResults (RunAct.entries acts)).map StageResult.stage =
        Pipeline.repeatedStages ∧
      ∃ fifth, (Entry.firstResults (RunAct.entries acts))[4]? = some fifth ∧
        fifth.stage = .successContinue ∧ fifth.status = .retryCompleted ∧
        fifth.retry = some {
          failed := (((Entry.firstResults (RunAct.entries acts)).take 4).filter
            fun result => !result.isSuccessful).map StageResult.stage
          retried := Pipeline.repeatedStages
          recovered := (Entry.repeatedResults (RunAct.entries acts)).all
            StageResult.isSuccessful } := by
  cases h with
  | early _ _ hentries | fifth _ _ hentries => simp [hentries] at hagain
  | broken front again last hentries _ _ _ _ _ hlast =>
      exact absurd (hcriticals last (by simp [hentries])) hlast
  | passed hpassed =>
      cases hpassed with
      | straight _ _ _ hentries => simp [hentries] at hagain
      | detour front again fifth more hentries hfront _ _ hstages _ hstage _ hstatus hretry =>
          have hfirst : Entry.firstResults (RunAct.entries acts) = front ++ fifth :: more := by
            simp [hentries]
          have hagains : Entry.repeatedResults (RunAct.entries acts) = again := by
            simp [hentries]
          have hlength := length_of_opening hfront
          rw [hfirst, hagains, List.take_left' hlength]
          exact ⟨hstages, fifth, by simp [hlength], hstage, hstatus, hretry⟩

end Outlines

/-- Stages run again in a walk exactly if the walk enters results of theirs. -/
theorem IsWalk.marks_prefix {answer : Except RunError Unit}
    (h : IsWalk p origin false acts answer) (hquiet : ∀ call, .attempt call none ∉ acts) :
    RunAct.marks acts <+: p.runWord origin.scaffoldId
      !(Entry.repeatedResults (RunAct.entries acts)).isEmpty := by
  obtain ⟨repeats, hinit, _, hvisibly⟩ := h.marks
  have hrepeats : (!(Entry.repeatedResults (RunAct.entries acts)).isEmpty) = repeats := by
    cases repeats with
    | true =>
        rcases hvisibly rfl with ⟨call, hcall⟩ | hne
        · exact absurd hcall (hquiet call)
        · simpa using hne
    | false =>
        have hturns : _ <+: Turn.straight := RunAct.turns_of_marks hinit
        have hnone : Turn.again ((RunAct.entries acts).map Entry.turn) <+: [] :=
          (hturns.filter _).map Prod.snd
        rw [← Entry.map_stage_repeatedResults] at hnone
        have hempty := List.map_eq_nil_iff.mp (List.prefix_nil.mp hnone)
        simp [hempty]
  rw [hrepeats]
  exact hinit

/-- A walk through the stages that is not interrupted repeats stages when it
has to. -/
theorem IsWalk.repeatsOnDemand {answer : Except RunError Unit} (hfresh : origin.IsFresh)
    (h : IsWalk p origin false acts answer) (hquiet : ∀ call, .attempt call none ∉ acts)
    (hrun : origin.Reached (RunAct.entries acts) run) :
    RepeatsOnDemand p origin.scaffoldId acts answer run
      (Entry.firstResults (RunAct.entries acts)) (Entry.repeatedResults (RunAct.entries acts)) := by
  have hturns := h.turns.1
  have houtline := h.isOutline hfresh hquiet
  have hfails : FailsAtFifth p origin.scaffoldId acts →
      ∃ result ∈ Entry.firstResults (RunAct.entries acts),
        result.stage = .successContinue ∧ result.criticalFailures ≠ [] := by
    intro hfifth
    refine ((assembles_failsAtFifth p origin).walk h hfifth).resolve_left ?_
    rintro ⟨call, hcall⟩
    exact hquiet call hcall
  have hretried : ∀ r ∈ run.log, (r.retried = true ↔
      r.stage ∈ (Entry.repeatedResults (RunAct.entries acts)).map StageResult.stage) :=
    fun r hr => hrun.retried_iff hfresh hturns hr
  refine ⟨?_, houtline.happens_iff hturns hfails, h.marks_prefix hquiet, ?_,
    fun result => houtline.stops, fun hne hcriticals => (houtline.completes hne hcriticals).1,
    ?_, hretried⟩
  · rw [Entry.map_stage_firstResults]
    exact hturns.first_prefix
  · rw [Entry.map_stage_repeatedResults]
    exact hturns.again_prefix
  · intro hne hcriticals
    obtain ⟨hstages, fifth, hfifth, hstage, hstatus, hretry⟩ :=
      houtline.completes hne hcriticals
    have honce : fifth.stage ∉
        (Entry.repeatedResults (RunAct.entries acts)).map StageResult.stage := by
      rw [hstages, hstage]
      decide
    obtain ⟨record, hrecord, _, rfl⟩ :=
      hrun.exists_record_of_first hfresh hturns (List.mem_of_getElem? hfifth) honce
    refine ⟨record, hrecord, _, hstage, hstatus, hretry, rfl, rfl, ?_⟩
    rw [List.all_eq_true]
    constructor
    · intro hsuccessful r hr hmem
      have hmark := (hretried r hr).mpr (hstages ▸ hmem)
      exact hsuccessful r.result
        ((hrun.mem_repeatedResults_iff hfresh hturns).mpr ⟨r, hr, hmark, rfl⟩)
    · intro hsuccessful result hresult
      obtain ⟨r, hr, _, rfl⟩ := (hrun.mem_repeatedResults_iff hfresh hturns).mp hresult
      exact hsuccessful r hr (hstages ▸ List.mem_map_of_mem hresult)

/-- The host is not called more often than the frames of all stages, and once
more those of the stages that may be repeated, have attempts. -/
theorem IsWalk.length_received_le {answer : Except RunError Unit}
    (h : IsWalk p origin false acts answer) :
    (RunAct.received acts).length ≤ max p.maxAttempts 1 *
      (p.frameCount origin.scaffoldId Stage.all +
        p.frameCount origin.scaffoldId Pipeline.repeatedStages) := by
  obtain ⟨repeats, hinit, _⟩ := h.marks
  have hcalls : KeepsLimit p acts := (assembles_keepsLimit p origin).walk h
  have hmarks := hinit.sublist.countP_le (p := Mark.isFrame)
  calc (RunAct.received acts).length
      ≤ (RunAct.calls acts).length := List.length_filter_le _ _
    _ ≤ max p.maxAttempts 1 * (RunAct.marks acts).countP Mark.isFrame := hcalls
    _ ≤ _ := Nat.mul_le_mul_left _
      (Nat.le_trans hmarks (p.countP_runWord origin.scaffoldId repeats))

namespace Pipeline

/-- Whatever the host answers, a run that is not interrupted runs stages again
exactly when it has to, and the host is never called more often than the frames
of the stages, repetitions included, have attempts. -/
theorem runStages_repeatsOnDemand (p : Pipeline) (host : Host σ) (scaffold : Scaffold)
    (input : Json) (session : Session σ) :
    ∃ walk answer,
      IsWalk p (p.begin scaffold input session).run false walk answer ∧
      p.Plays host (p.begin scaffold input session) walk ∧
      p.runStages host (p.begin scaffold input session) =
        ended answer (p.after host walk (p.begin scaffold input session)) ∧
      (answer ≠ .error (.aborted shutdownReason) → ∀ call, .attempt call none ∉ walk) ∧
      ((∀ call, .attempt call none ∉ walk) →
        RepeatsOnDemand p scaffold.id walk answer
          (p.after host walk (p.begin scaffold input session)).run
          (Entry.firstResults (RunAct.entries walk))
          (Entry.repeatedResults (RunAct.entries walk))) ∧
      ∀ log, host.Records log →
        (log (p.after host walk (p.begin scaffold input session)).session.world.state).length ≤
          (log session.world.state).length + max p.maxAttempts 1 *
            (p.frameCount scaffold.id Stage.all +
              p.frameCount scaffold.id repeatedStages) := by
  obtain ⟨walk, answer, hcourse, hplays, hdoes⟩ :=
    p.runStages_does host (p.begin scaffold input session)
  have hwalk : IsWalk p (p.begin scaffold input session).run false walk _ := .walked hcourse
  have hreached := p.reached_after host
    (.start : Run.Reached _ [] (p.begin scaffold input session).run) walk
  refine ⟨walk, _, hwalk, hplays, hdoes, fun hanswer call hcall => ?_,
    fun hquiet => hwalk.repeatsOnDemand (p.begin_isFresh scaffold input session) hquiet hreached,
    fun log hlog => ?_⟩
  · exact hanswer (Aborts.eq_error (hwalk.aborts_iff.mpr (.inr ⟨_, hcall, trivial⟩)))
  · rw [hlog.after, List.length_append]
    exact Nat.add_le_add_left hwalk.length_received_le _

/-- A scaffold with one frame at the second stage, which is not critical. -/
def doubting : Config where
  frames := [("probe", Frame.ofScript "probe" "Probe" "probe.py")]
  scaffolds := [("check", (Scaffold.empty "check" "Check").withStage .identifyAnalyze ["probe"] [])]

/-- When the frame fails, three stages are run again. -/
theorem runStages_doubting_repeatsOnDemand :
    ∃ p scaffold walk,
      Pipeline.ofConfig doubting "/" true = .ok p ∧
      p.registry.scaffolds.get? "check" = some scaffold ∧
      IsWalk p (p.begin scaffold (.obj []) emptySession).run false walk (.ok ()) ∧
      p.runStages refusing (p.begin scaffold (.obj []) emptySession) =
        .ok () (p.after refusing walk (p.begin scaffold (.obj []) emptySession)) ∧
      RepeatsOnDemand p scaffold.id walk (.ok ())
        (p.after refusing walk (p.begin scaffold (.obj []) emptySession)).run
        (Entry.firstResults (RunAct.entries walk))
        (Entry.repeatedResults (RunAct.entries walk)) ∧
      (Entry.repeatedResults (RunAct.entries walk)).map StageResult.stage = repeatedStages := by
  obtain ⟨p, scaffold, hconfig, hfound⟩ : ∃ p scaffold,
      Pipeline.ofConfig doubting "/" true = .ok p ∧
        p.registry.scaffolds.get? "check" = some scaffold :=
    ⟨_, _, rfl, rfl⟩
  have hrun : (answerOf (p.runStages refusing (p.begin scaffold (.obj []) emptySession))).isOk =
        true ∧
      (stateOf (p.runStages refusing (p.begin scaffold (.obj []) emptySession))).run.log.any
        StageRecord.retried = true := by
    obtain rfl := Except.ok.inj hconfig
    obtain rfl := Option.some.inj hfound
    decide +kernel
  obtain ⟨walk, answer, hwalk, -, hruns, hquiet, hrepeats, -⟩ :=
    runStages_repeatsOnDemand p refusing scaffold (.obj []) emptySession
  rw [hruns, stateOf_ended, answerOf_ended] at hrun
  obtain ⟨hok, hretried⟩ := hrun
  match answer with
  | .error e => simp [Except.isOk, Except.toBool] at hok
  | .ok () =>
      have hdemand := hrepeats (hquiet (by simp))
      obtain ⟨r, hr, hagain⟩ := List.any_eq_true.mp hretried
      have hne : Entry.repeatedResults (RunAct.entries walk) ≠ [] := by
        intro hnone
        have hmem := (hdemand.retried_iff r hr).mp hagain
        simp [hnone] at hmem
      refine ⟨p, scaffold, walk, hconfig, hfound, hwalk, hruns, hdemand, ?_⟩
      refine hdemand.goes_on hne fun result hresult => ?_
      by_contra hcritical
      cases (hdemand.stops result hresult hcritical).2

end Pipeline

end ScaffoldRunner
