import ScaffoldRunner.Proofs.Run.Acts
import ScaffoldRunner.Proofs.Run.Outline
import ScaffoldRunner.Proofs.Run.Schedule

/-!
# What frames get to see

All frames of a pass are called with the results that had been entered when the
pass began, and nothing is entered while it lasts.  Which results these are
follows from the schedule: those of the stages before, or those of the first
four stages for a stage that is run again.  Of every stage the latest result is
shown.
-/

namespace ScaffoldRunner

variable {σ : Type} {p : Pipeline} {origin run : Run} {stage : Stage} {past : List Entry}
  {acts : List RunAct}

/-! ## The place of a call -/

/-- Some acts are the attempts before the one of a call, and nothing is entered
among them. -/
structure IsTried (call : FrameCall) (acts : List RunAct) : Prop where
  calls : RunAct.calls acts =
    (List.range call.attemptCount).map fun n => { call with attemptCount := n }
  entries : RunAct.entries acts = []

/-- A call is made with what had been entered up to then, and directly after the
earlier attempts of the same frame. -/
structure IsPlaced (p : Pipeline) (origin : Run) (past : List Entry) (before : List RunAct)
    (call : FrameCall) : Prop where
  planned : call.frame ∈ p.registry.framesFor origin.scaffoldId call.stage
  limit : call.attempt ≤ call.maxAttempts
  tried : ∃ earlier trial, before = earlier ++ trial ∧ IsTried call trial
  reached : ∃ run, origin.Reached (past ++ RunAct.entries before) run ∧
    call = { p.firstCall call.stage run call.frame with attemptCount := call.attemptCount }

/-- All calls among some acts are in their places. -/
def ArePlaced (p : Pipeline) (origin : Run) (past : List Entry) (acts : List RunAct) : Prop :=
  ∀ before call reply rest, acts = before ++ .attempt call reply :: rest →
    IsPlaced p origin past before call

theorem IsPlaced.after {earlier before : List RunAct} {call : FrameCall}
    (h : IsPlaced p origin (past ++ RunAct.entries earlier) before call) :
    IsPlaced p origin past (earlier ++ before) call where
  planned := h.planned
  limit := h.limit
  tried := by
    obtain ⟨other, trial, rfl, htried⟩ := h.tried
    exact ⟨earlier ++ other, trial, (List.append_assoc ..).symm, htried⟩
  reached := by
    rw [RunAct.entries_append, ← List.append_assoc]
    exact h.reached

theorem ArePlaced.append {before rest : List RunAct} (hbefore : ArePlaced p origin past before)
    (hrest : ArePlaced p origin (past ++ RunAct.entries before) rest) :
    ArePlaced p origin past (before ++ rest) := by
  intro front call reply back hsplit
  rcases List.append_eq_append_iff.mp hsplit with
    ⟨middle, rfl, hmiddle⟩ | ⟨middle, hmiddle, hback⟩
  · exact (hrest middle call reply back hmiddle).after
  · cases middle with
    | nil =>
        have hempty : IsPlaced p origin (past ++ RunAct.entries before) [] call :=
          hrest [] call reply back hback.symm
        rw [List.append_nil] at hmiddle
        simpa [hmiddle] using hempty.after
    | cons act middle =>
        obtain ⟨rfl, _⟩ := List.cons.inj hback
        exact hbefore front call reply middle hmiddle

theorem arePlaced_of_noCall {act : RunAct} (h : act.call? = none) :
    ArePlaced p origin past [act] := by
  intro before call reply rest hsplit
  have hmem : RunAct.attempt call reply ∈ [act] := by
    rw [hsplit]
    exact List.mem_append_right before List.mem_cons_self
  rw [← List.mem_singleton.mp hmem] at h
  simp [RunAct.call?] at h

theorem IsTrial.arePlaced {frame : Frame} {outcome : Option FrameOutcome}
    (h : IsTrial (p.firstCall stage run frame).retries (p.firstCall stage run frame) acts
      outcome) (hpast : origin.Reached past run) (hframe : frame ∈ p.planned run stage) :
    ArePlaced p origin past acts := by
  intro before call reply rest hsplit
  obtain ⟨n, hn, hcall, hcalls⟩ := h.split hsplit
  have hnumber : call = { p.firstCall stage run frame with attemptCount := n } := by
    rw [hcall]
    simp
  have hentries : RunAct.entries before = [] := by
    have hall := h.entries
    rw [hsplit, RunAct.entries_append] at hall
    exact (List.append_eq_nil_iff.mp hall).1
  have hretries := p.retries_firstCall stage run frame
  subst hnumber
  refine ⟨?_, ?_, ⟨[], before, rfl, ?_, hentries⟩, run, ?_, rfl⟩
  · exact hpast.frame.2.1 ▸ hframe
  · change n + 1 ≤ max p.maxAttempts 1
    omega
  · simpa using hcalls
  · rw [hentries, List.append_nil]
    exact hpast

/-- The calls of a sweep are in their places. -/
theorem IsSweep.arePlaced {frames : List Frame} {answer : Option (List FrameEntry)}
    (h : IsSweep p run stage frames acts answer) (hpast : origin.Reached past run)
    (hframes : ∀ frame ∈ frames, frame ∈ p.planned run stage) :
    ArePlaced p origin past acts := by
  induction h with
  | done => simp [ArePlaced]
  | interrupted _ htrial => exact htrial.arePlaced hpast (hframes _ List.mem_cons_self)
  | later htrial _ ih | next htrial _ ih =>
      refine (htrial.arePlaced hpast (hframes _ List.mem_cons_self)).append ?_
      rw [htrial.entries, List.append_nil]
      exact ih fun frame hframe => hframes frame (List.mem_cons_of_mem _ hframe)

theorem assembles_arePlaced (p : Pipeline) (origin : Run) :
    Assembles p origin (ArePlaced p origin) where
  nil := by simp [ArePlaced]
  append := ArePlaced.append
  pass hpast _ hpass := by
    cases hpass with
    | finished hsweep | interrupted hsweep =>
        exact hsweep.arePlaced hpast fun _ hframe => hframe
    | failed hsweep =>
        refine (hsweep.arePlaced hpast fun _ hframe => hframe).append ?_
        exact (arePlaced_of_noCall rfl).append (arePlaced_of_noCall rfl)
  other := arePlaced_of_noCall

/-! ## The place of a frame in the schedule -/

/-- What a run has entered when it calls a frame of a stage, of the stages that
ran first and of those that ran again. -/
inductive EnteredBefore (stage : Stage) (first again : List Stage) : Prop
  /-- The stage runs first, after all stages before it.  If it comes after the
  fifth stage, the repeated stages may have run again. -/
  | first : first = Stage.all.take (stage.number - 1) →
      (again = [] ∨
        Stage.successContinue.number < stage.number ∧ again = Pipeline.repeatedStages) →
      EnteredBefore stage first again
  /-- The stage runs again, after the first four stages and the repeated ones
  before it. -/
  | again : stage ∈ Pipeline.repeatedStages → first = Stage.opening →
      again = Pipeline.repeatedStages.takeWhile (· ≠ stage) →
      EnteredBefore stage first again

section Words

variable {α β : Type}

theorem concat_prefix_append {word front back : List α} {a : α}
    (h : word ++ [a] <+: front ++ back) :
    word ++ [a] <+: front ∨ ∃ rest, word = front ++ rest ∧ rest ++ [a] <+: back := by
  obtain ⟨tail, htail⟩ := h
  rcases List.append_eq_append_iff.mp htail with
    ⟨middle, hfront, _⟩ | ⟨middle, hword, hback⟩
  · exact .inl ⟨middle, hfront.symm⟩
  · rcases List.eq_nil_or_concat middle with rfl | ⟨rest, last, rfl⟩
    · exact .inl ⟨[], by simpa using hword⟩
    · rw [List.concat_eq_append, ← List.append_assoc] at hword
      obtain ⟨hrest, hlast⟩ := List.append_inj' hword rfl
      obtain rfl := List.singleton_inj.mp hlast
      exact .inr ⟨rest, hrest, tail, by simpa using hback.symm⟩

theorem concat_prefix_flatMap {f : α → List β} {xs : List α} {word : List β} {b : β}
    (h : word ++ [b] <+: xs.flatMap f) :
    ∃ n x rest, xs[n]? = some x ∧ word = (xs.take n).flatMap f ++ rest ∧
      rest ++ [b] <+: f x := by
  induction xs generalizing word with
  | nil => simp at h
  | cons x xs ih =>
      rcases concat_prefix_append h with hfirst | ⟨rest, rfl, hrest⟩
      · exact ⟨0, x, word, rfl, rfl, hfirst⟩
      · obtain ⟨n, other, word, hget, rfl, hword⟩ := ih hrest
        exact ⟨n + 1, other, word, hget, by simp, hword⟩

end Words

namespace Pipeline

variable {scaffold : String} {repeats : Bool} {frame : Frame} {word : List Mark}

theorem turns_before_sweepWord {other : Stage}
    (h : word ++ [.frame stage frame] <+: p.sweepWord scaffold other) :
    other = stage ∧ word.filterMap Mark.turn? = [] := by
  constructor
  · have hmem := h.subset (List.mem_append_right word (List.mem_singleton_self _))
    obtain ⟨_, _, heq⟩ := List.mem_map.mp hmem
    exact (Mark.frame.inj heq).1
  · have hword := ((List.prefix_append word _).trans h).filterMap Mark.turn?
    rw [turns_sweepWord] at hword
    exact List.prefix_nil.mp hword

/-- A frame is taken up before the entry that its pass ends with. -/
theorem turns_before_passWord {other : Stage} {turn : Turn}
    (h : word ++ [.frame stage frame] <+: p.sweepWord scaffold other ++ [.entered turn]) :
    other = stage ∧ word.filterMap Mark.turn? = [] := by
  rcases concat_prefix_append h with hsweep | ⟨rest, _, hrest⟩
  · exact turns_before_sweepWord hsweep
  · have hmem := hrest.subset (List.mem_append_right rest (List.mem_singleton_self _))
    simp at hmem

theorem turns_before_repetitionWord
    (h : word ++ [.frame stage frame] <+: p.repetitionWord scaffold) :
    ∃ n, repeatedStages[n]? = some stage ∧
      word.filterMap Mark.turn? = (repeatedStages.take n).map (Prod.mk true) := by
  obtain ⟨n, other, rest, hget, rfl, hrest⟩ := concat_prefix_flatMap h
  obtain ⟨rfl, hnone⟩ := turns_before_passWord hrest
  refine ⟨n, hget, ?_⟩
  rw [List.filterMap_append, hnone, List.filterMap_flatMap, List.append_nil]
  simp [List.map_eq_flatMap]

theorem turns_before_stageWord {other : Stage}
    (h : word ++ [.frame stage frame] <+: p.stageWord scaffold repeats other) :
    (other = stage ∧ word.filterMap Mark.turn? = []) ∨
    (other = .successContinue ∧ ∃ n, repeatedStages[n]? = some stage ∧
      word.filterMap Mark.turn? = (repeatedStages.take n).map (Prod.mk true)) := by
  rw [stageWord, List.append_assoc] at h
  rcases concat_prefix_append h with hsweep | ⟨rest, rfl, hrest⟩
  · exact .inl (turns_before_sweepWord hsweep)
  · rcases concat_prefix_append hrest with hcompletion | ⟨last, _, hlast⟩
    · rw [completionWord] at hcompletion
      split at hcompletion
      · next hboth =>
          obtain ⟨n, hget, hturns⟩ := turns_before_repetitionWord hcompletion
          refine .inr ⟨hboth.2, n, hget, ?_⟩
          rw [List.filterMap_append, turns_sweepWord, List.nil_append, hturns]
      · simp at hcompletion
    · have hmem := hlast.subset (List.mem_append_right last (List.mem_singleton_self _))
      simp at hmem

/-- What a run has entered when it takes up a frame. -/
theorem enteredBefore_of_prefix
    (h : word ++ [.frame stage frame] <+: p.runWord scaffold repeats) :
    EnteredBefore stage (Turn.firsts (word.filterMap Mark.turn?))
      (Turn.again (word.filterMap Mark.turn?)) := by
  obtain ⟨n, other, rest, hget, rfl, hrest⟩ := concat_prefix_flatMap h
  have hn : n < Stage.all.length := (List.getElem?_eq_some_iff.mp hget).1
  have hturns : ((Stage.all.take n).flatMap (p.stageWord scaffold repeats) ++ rest).filterMap
      Mark.turn? = (Stage.all.take n).flatMap (stageTurns repeats) ++
        rest.filterMap Mark.turn? := by
    rw [List.filterMap_append, List.filterMap_flatMap]
    simp only [turns_stageWord]
  rw [hturns]
  rcases turns_before_stageWord hrest with ⟨rfl, hnone⟩ | ⟨rfl, m, hagain, hrepeated⟩
  · -- The frame belongs to the first pass of its stage.
    have hcheck : ∀ repeats, ∀ n < Stage.all.length, ∀ stage ∈ Stage.all[n]?,
        Turn.firsts ((Stage.all.take n).flatMap (stageTurns repeats)) =
          Stage.all.take (stage.number - 1) ∧
        (Turn.again ((Stage.all.take n).flatMap (stageTurns repeats)) = [] ∨
          Stage.successContinue.number < stage.number ∧
            Turn.again ((Stage.all.take n).flatMap (stageTurns repeats)) =
              repeatedStages) := by
      decide
    rw [hnone, List.append_nil]
    obtain ⟨hfirst, hrepeats⟩ := hcheck repeats n hn other hget
    exact .first hfirst hrepeats
  · -- The frame belongs to a pass that is made from the fifth stage.
    have hcheck : ∀ repeats, ∀ n < Stage.all.length, Stage.all[n]? = some .successContinue →
        ∀ m < repeatedStages.length, ∀ stage ∈ repeatedStages[m]?,
          Turn.firsts ((Stage.all.take n).flatMap (stageTurns repeats) ++
              (repeatedStages.take m).map (Prod.mk true)) = Stage.opening ∧
            Turn.again ((Stage.all.take n).flatMap (stageTurns repeats) ++
              (repeatedStages.take m).map (Prod.mk true)) =
                repeatedStages.takeWhile (· ≠ stage) := by
      decide
    have hm : m < repeatedStages.length := (List.getElem?_eq_some_iff.mp hagain).1
    rw [hrepeated]
    obtain ⟨hfirst, hrepeats⟩ := hcheck repeats n hn hget m hm stage hagain
    exact .again (List.mem_of_getElem? hagain) hfirst hrepeats

end Pipeline

theorem RunAct.marks_of_entries_eq_nil (h : RunAct.entries acts = []) :
    RunAct.marks acts =
      (RunAct.calls acts).filterMap fun call => (RunAct.attempt call none).mark? := by
  induction acts with
  | nil => rfl
  | cons act acts ih =>
      rw [RunAct.entries_cons, List.append_eq_nil_iff] at h
      rw [RunAct.marks_cons, RunAct.calls_cons, List.filterMap_append, ih h.2]
      cases act with
      | attempt call outcome =>
          by_cases hfirst : call.attemptCount = 0 <;> simp [RunAct.mark?, RunAct.call?, hfirst]
      | enter entry => simp [RunAct.entered?] at h
      | command | count | report | save => rfl

/-- A call and the attempts before it take up one frame. -/
theorem IsTried.marks {call : FrameCall} (h : IsTried call acts) (reply : Option FrameOutcome) :
    RunAct.marks (acts ++ [.attempt call reply]) = [.frame call.stage call.frame] := by
  have hentries : RunAct.entries (acts ++ [.attempt call reply]) = [] := by
    simp [h.entries, RunAct.entered?]
  have hcalls : RunAct.calls (acts ++ [.attempt call reply]) =
      (List.range (call.attemptCount + 1)).map fun n => { call with attemptCount := n } := by
    rw [RunAct.calls_append, h.calls, List.range_succ, List.map_append]
    rfl
  rw [RunAct.marks_of_entries_eq_nil hentries, hcalls, List.range_succ_eq_map]
  simp [RunAct.mark?, List.filterMap_map, Function.comp_def]

/-- The turns before a call of a walk tell which pass it belongs to. -/
theorem IsPlaced.enteredBefore {stopped : Bool} {walk before rest : List RunAct}
    {answer : Except RunError Unit} {call : FrameCall} {reply : Option FrameOutcome}
    (h : IsPlaced p origin [] before call) (hwalk : IsWalk p origin stopped walk answer)
    (hsplit : walk = before ++ .attempt call reply :: rest) :
    EnteredBefore call.stage
      ((Entry.firstResults (RunAct.entries before)).map StageResult.stage)
      ((Entry.repeatedResults (RunAct.entries before)).map StageResult.stage) := by
  obtain ⟨repeats, hinit, _⟩ := hwalk.marks
  obtain ⟨earlier, trial, rfl, htried⟩ := h.tried
  have hmarks : RunAct.marks earlier ++ [.frame call.stage call.frame] <+:
      p.runWord origin.scaffoldId repeats := by
    refine List.IsPrefix.trans ?_ hinit
    rw [← htried.marks reply, ← RunAct.marks_append, hsplit]
    exact ⟨RunAct.marks rest, by simp⟩
  have hentries : RunAct.entries (earlier ++ trial) = RunAct.entries earlier := by
    rw [RunAct.entries_append, htried.entries, List.append_nil]
  rw [hentries, Entry.map_stage_firstResults, Entry.map_stage_repeatedResults,
    RunAct.map_turn_entries]
  exact Pipeline.enteredBefore_of_prefix hmarks

/-! ## What is shown -/

/-- The results that are shown are those of the stages that were entered.  Of a
stage that was entered again it is the later one. -/
structure Shows (results : Members) (first again : List StageResult) : Prop where
  sorted : results.Sorted
  keys : results.keys.Perm (first.map fun result => result.stage.resultKey)
  repeated : ∀ result ∈ again,
    results.get? result.stage.resultKey = some result.toJson.sorted
  unrepeated : ∀ result ∈ first, result.stage ∉ again.map StageResult.stage →
    results.get? result.stage.resultKey = some result.toJson.sorted

/-- The keys of the first stages, counted from one. -/
theorem Stage.map_resultKey_of_prefix {stages : List Stage} (h : stages <+: all) :
    stages.map resultKey =
      (List.range' 1 stages.length).map fun n => "stage_" ++ toString n := by
  have hcheck : ∀ n ≤ all.length, (all.take n).map number = List.range' 1 n := by
    decide
  have hnumbers := hcheck stages.length h.length_le
  rw [← List.prefix_iff_eq_take.mp h] at hnumbers
  rw [← hnumbers, List.map_map]
  rfl

/-- As long as the turns are kept, the latest results are shown. -/
theorem Run.Reached.shows (h : origin.Reached past run) (hfresh : origin.IsFresh)
    (hturns : Turn.OnSchedule (past.map Entry.turn)) :
    Shows run.previousResults (Entry.firstResults past) (Entry.repeatedResults past) := by
  have horder := h.inOrder hfresh hturns
  refine ⟨horder.results_sorted, ?_, ?_, ?_⟩
  · have hstages := Entry.map_stage_firstResults past
    have hlength : (Turn.firsts (past.map Entry.turn)).length =
        Turn.reached (past.map Entry.turn) := by
      rw [Turn.firsts, List.length_map, Turn.reached, List.countP_eq_length_filter]
    have hkeys := Stage.map_resultKey_of_prefix hturns.first_prefix
    rw [hlength, ← hstages, List.map_map] at hkeys
    exact hkeys ▸ horder.result_keys
  · intro result hresult
    obtain ⟨r, hr, _, rfl⟩ := (h.mem_repeatedResults_iff hfresh hturns).mp hresult
    exact horder.result_values r hr
  · intro result hresult honce
    obtain ⟨r, hr, _, rfl⟩ := h.exists_record_of_first hfresh hturns hresult honce
    exact horder.result_values r hr

/-- The results that are shown depend on the entries only. -/
theorem Run.Reached.previousResults_eq (h : origin.Reached past run) :
    run.previousResults = past.foldl
      (fun results e => results.insert e.stage.resultKey e.result.toJson.sorted)
      origin.previousResults := by
  induction h with
  | start => rfl
  | enter now e _ ih => rw [Run.enter_previousResults, ih, List.foldl_concat]

/-- What the call of a frame at a point of a run tells the frame. -/
structure FrameCall.Sees (p : Pipeline) (scaffold : Scaffold) (document : Json)
    (files : FileTree) (before : List RunAct) (current : Run) (call : FrameCall) : Prop where
  /-- The frame is one of the plan, and it gets its own parameters. -/
  planned : ∃ frame ∈ p.registry.framesFor scaffold.id call.stage,
    call.frame = frame ∧ call.parameters = frame.parameters
  input : call.inputData = document
  /-- The preserved context is the one that lay in the files when the run began. -/
  preserved : call.preserved = p.preservedContext scaffold files
  /-- The attempts are counted; the earlier ones of the frame come directly before
  and differ in their number only. -/
  tried : ∃ earlier trial, before = earlier ++ trial ∧ IsTried call trial
  limit : call.attempt ≤ max p.maxAttempts 1
  current : call.previousResults = current.previousResults
  entered : EnteredBefore call.stage
    ((Entry.firstResults (RunAct.entries before)).map StageResult.stage)
    ((Entry.repeatedResults (RunAct.entries before)).map StageResult.stage)
  shown : Shows call.previousResults (Entry.firstResults (RunAct.entries before))
    (Entry.repeatedResults (RunAct.entries before))

/-- A call among the acts of a walk and its ending is made in the walk. -/
theorem IsEnding.split {scaffold : Scaffold} {answer : Except RunError Unit}
    {walk ending before rest : List RunAct} {outcome : Except RunError RunOutcome}
    {call : FrameCall} {reply : Option FrameOutcome}
    (h : IsEnding scaffold run answer ending outcome)
    (hsplit : walk ++ ending = before ++ .attempt call reply :: rest) :
    ∃ more, walk = before ++ .attempt call reply :: more := by
  have hnone : .attempt call reply ∉ ending := fun hmem => by
    simpa [RunAct.call?] using (h.silent _ hmem).2
  rcases List.append_eq_append_iff.mp hsplit with
    ⟨middle, _, hending⟩ | ⟨middle, hwalk, hback⟩
  · exact absurd (hending ▸ List.mem_append_right middle List.mem_cons_self) hnone
  · cases middle with
    | nil => exact absurd (hback ▸ List.mem_cons_self : _ ∈ [] ++ ending) hnone
    | cons act middle =>
        obtain ⟨rfl, _⟩ := List.cons.inj hback
        exact ⟨middle, hwalk⟩

namespace Pipeline

/-- Every call of a frame, in every run and whatever the host answers, tells the
frame the input of the run, its own parameters, the context from before the run
and the latest results of the stages that were entered before its pass. -/
theorem execute_calls_see {scaffoldId : String} {scaffold : Scaffold} {input document : Json}
    (hfound : p.registry.scaffolds.get? scaffoldId = some scaffold)
    (hinput : runInput input = .ok document) (host : Host σ) (stopped : Bool)
    (session : Session σ) :
    ∃ walk ending answer,
      p.IsRun host scaffold document stopped session walk ending answer
        (p.execute host scaffoldId input stopped session) ∧
      (∀ log, host.Records log →
        log (stateOf (p.execute host scaffoldId input stopped session)).world.state =
          log session.world.state ++ RunAct.received (walk ++ ending)) ∧
      ∀ before call reply rest, walk ++ ending = before ++ .attempt call reply :: rest →
        call.Sees p scaffold document session.world.files before
          (p.after host before (p.begin scaffold document session)).run := by
  obtain ⟨walk, ending, answer, hrun⟩ := exists_isRun hfound hinput host stopped session
  refine ⟨walk, ending, answer, hrun, fun log hlog => ?_,
    fun before call reply rest hsplit => ?_⟩
  · rw [hrun.state, hlog.after]
    rfl
  have hwalk := hrun.walks
  obtain ⟨more, hsplit⟩ := hrun.ends.split hsplit
  have hfresh := p.begin_isFresh scaffold document session
  have hturns := hwalk.turns_of_prefix ⟨_, hsplit.symm⟩
  have hplaced := (assembles_arePlaced p _).walk hwalk before call reply more hsplit
  have hafter := p.reached_after host
    (.start : Run.Reached _ [] (p.begin scaffold document session).run) before
  obtain ⟨run, hreached, hcall⟩ := hplaced.reached
  rw [List.nil_append] at hreached hafter
  have hresults : call.previousResults = run.previousResults := by
    rw [hcall]
    rfl
  refine ⟨⟨call.frame, hplaced.planned, rfl, rfl⟩, ?_, ?_, hplaced.tried, ?_, ?_,
    hplaced.enteredBefore hwalk hsplit, ?_⟩
  · rw [hcall]
    exact hreached.frame.1
  · rw [hcall]
    exact hreached.frame.2.2
  · refine Nat.le_trans hplaced.limit (Nat.le_of_eq ?_)
    rw [hcall]
    rfl
  · rw [hresults, hreached.previousResults_eq, hafter.previousResults_eq]
  · rw [hresults]
    exact hreached.shows hfresh hturns

theorem execute_oneFrame_calls_see :
    ∃ p scaffold walk ending answer,
      Pipeline.ofConfig oneFrame "/" true = .ok p ∧
      p.registry.scaffolds.get? "check" = some scaffold ∧
      p.IsRun refusing scaffold (.obj []) false emptySession walk ending answer
        (p.execute refusing "check" .null false emptySession) ∧
      (RunAct.received (walk ++ ending)).length = 2 ∧
      ∀ before call reply rest, walk ++ ending = before ++ .attempt call reply :: rest →
        call.Sees p scaffold (.obj []) emptySession.world.files before
          (p.after refusing before (p.begin scaffold (.obj []) emptySession)).run := by
  obtain ⟨p, scaffold, hconfig, hfound⟩ := exists_pipeline_oneFrame
  have hrecords : refusing.Records id := ⟨fun _ _ => rfl, fun _ _ => rfl⟩
  obtain ⟨e, progress, hfails, htwo⟩ : ∃ e progress,
      stateOf (p.execute refusing "check" .null false emptySession) =
        p.reportFailure e progress ∧ progress.session.world.state.length = 2 := by
    obtain rfl := Except.ok.inj hconfig
    exact ⟨_, _, rfl, rfl⟩
  obtain ⟨walk, ending, answer, hrun, hlog, hsees⟩ :=
    execute_calls_see hfound (rfl : runInput .null = .ok (.obj [])) refusing false emptySession
  have hreceived : progress.session.world.state = RunAct.received (walk ++ ending) := by
    have hstate := hlog id hrecords
    rw [hfails, reportFailure, Session.onFiles_state] at hstate
    exact hstate
  exact ⟨p, scaffold, walk, ending, answer, hconfig, hfound, hrun, hreceived ▸ htwo, hsees⟩

end Pipeline

end ScaffoldRunner
