import ScaffoldRunner.Proofs.Run.Ending

/-!
# The schedule of a run

The marks of a run are the frames that it takes up and the entries that it
makes.  Up to the point where it ends, a run leaves the marks of one of two
words: in both of them the stages follow one another, each with its frames and
then its entry, and in the longer one the stages two to four are gone through
again between the frames of the fifth stage and its entry.
-/

namespace ScaffoldRunner

/-- A point that a run passes: it takes up a frame, or enters a result. -/
inductive Mark where
  | frame (stage : Stage) (frame : Frame)
  | entered (turn : Turn)

/-- The turn of an entry. -/
def Mark.turn? : Mark → Option Turn
  | frame .. => none
  | entered turn => some turn

namespace RunAct

/-- The mark that an act leaves; of the attempts of a frame, the first one
does. -/
def mark? : RunAct → Option Mark
  | attempt call _ => if call.attemptCount = 0 then some (.frame call.stage call.frame) else none
  | enter entry => some (.entered entry.turn)
  | _ => none

/-- The marks that some acts leave. -/
def marks (acts : List RunAct) : List Mark := acts.filterMap mark?

@[simp] theorem marks_nil : marks [] = [] :=
  rfl

@[simp] theorem marks_append (before rest : List RunAct) :
    marks (before ++ rest) = marks before ++ marks rest :=
  List.filterMap_append

@[simp] theorem marks_cons (act : RunAct) (acts : List RunAct) :
    marks (act :: acts) = act.mark?.toList ++ marks acts := by
  cases h : act.mark? <;> simp [marks, h]

theorem map_turn_entries (acts : List RunAct) :
    (entries acts).map Entry.turn = (marks acts).filterMap Mark.turn? := by
  induction acts with
  | nil => rfl
  | cons act acts ih =>
      cases act with
      | attempt call outcome =>
          by_cases hfirst : call.attemptCount = 0 <;>
            simp [entered?, mark?, hfirst, List.filterMap_cons, Mark.turn?, ih]
      | enter entry => simp [entered?, mark?, Mark.turn?, ih]
      | command | count | report | save => simp [entered?, mark?, ih]

theorem marks_eq_nil_of_isCommand {acts : List RunAct} (h : ∀ act ∈ acts, act.IsCommand) :
    marks acts = [] := by
  refine List.filterMap_eq_nil_iff.mpr fun act hact => ?_
  obtain ⟨argv, result, rfl⟩ := h act hact
  rfl

end RunAct

/-! ## Words -/

namespace Pipeline

/-- The marks of the frames that a scaffold plans for a stage. -/
def sweepWord (p : Pipeline) (scaffold : String) (stage : Stage) : List Mark :=
  (p.registry.framesFor scaffold stage).map (Mark.frame stage)

/-- The marks of a pass through a stage. -/
def passWord (p : Pipeline) (scaffold : String) (repeated : Bool) (stage : Stage) : List Mark :=
  p.sweepWord scaffold stage ++ [.entered (repeated, stage)]

/-- The marks of running stages again. -/
def repetitionWord (p : Pipeline) (scaffold : String) : List Mark :=
  repeatedStages.flatMap (p.passWord scaffold true)

/-- The marks of what a stage does after its frames, in a run that does or does
not run stages again. -/
def completionWord (p : Pipeline) (scaffold : String) (repeats : Bool) (stage : Stage) :
    List Mark :=
  if repeats ∧ stage = .successContinue then p.repetitionWord scaffold else []

/-- The marks of a stage, in a run that does or does not run stages again. -/
def stageWord (p : Pipeline) (scaffold : String) (repeats : Bool) (stage : Stage) : List Mark :=
  p.sweepWord scaffold stage ++ p.completionWord scaffold repeats stage ++
    [.entered (false, stage)]

/-- The marks of a run that does or does not run stages again. -/
def runWord (p : Pipeline) (scaffold : String) (repeats : Bool) : List Mark :=
  Stage.all.flatMap (p.stageWord scaffold repeats)

/-- The turns of a stage, in a run that does or does not run stages again. -/
def stageTurns (repeats : Bool) (stage : Stage) : List Turn :=
  (if repeats ∧ stage = .successContinue then repeatedStages.map (Prod.mk true) else []) ++
    [(false, stage)]

variable (p : Pipeline) (scaffold : String)

theorem completionWord_of_ne (repeats : Bool) {stage : Stage} (h : stage ≠ .successContinue) :
    p.completionWord scaffold repeats stage = [] :=
  if_neg fun hboth => h hboth.2

/-- Only the marks of the fifth stage depend on whether stages run again. -/
theorem stageWord_eq_of_ne (repeats repeats' : Bool) {stage : Stage}
    (h : stage ≠ .successContinue) :
    p.stageWord scaffold repeats stage = p.stageWord scaffold repeats' stage := by
  rw [stageWord, stageWord, p.completionWord_of_ne scaffold repeats h,
    p.completionWord_of_ne scaffold repeats' h]

@[simp] theorem turns_sweepWord (stage : Stage) :
    (p.sweepWord scaffold stage).filterMap Mark.turn? = [] := by
  simp [sweepWord, List.filterMap_map, Function.comp_def, Mark.turn?]

@[simp] theorem turns_passWord (repeated : Bool) (stage : Stage) :
    (p.passWord scaffold repeated stage).filterMap Mark.turn? = [(repeated, stage)] := by
  simp [passWord, Mark.turn?]

theorem turns_stageWord (repeats : Bool) (stage : Stage) :
    (p.stageWord scaffold repeats stage).filterMap Mark.turn? = stageTurns repeats stage := by
  rw [stageWord, completionWord, stageTurns]
  split
  · simp [repetitionWord, repeatedStages, Mark.turn?]
  · simp [Mark.turn?]

theorem turns_runWord (repeats : Bool) :
    (p.runWord scaffold repeats).filterMap Mark.turn? =
      if repeats then Turn.detour else Turn.straight := by
  rw [runWord, List.filterMap_flatMap]
  simp only [turns_stageWord]
  cases repeats <;> rfl

end Pipeline

/-! ## The marks of a course -/

variable {p : Pipeline} {origin run : Run} {stage : Stage} {acts : List RunAct}

theorem IsTrial.marks {retries : Nat} {call : FrameCall} {outcome : Option FrameOutcome}
    (h : IsTrial retries call acts outcome) :
    RunAct.marks acts = (RunAct.attempt call none).mark?.toList := by
  induction h with
  | interrupted | success | failure => exact (RunAct.marks_cons _ _).trans (List.append_nil _)
  | @again retries call e acts outcome _ ih =>
      have hlater : (RunAct.attempt call.next none).mark? = none := by
        simp [RunAct.mark?, FrameCall.next]
      rw [RunAct.marks_cons, RunAct.marks_cons, ih, hlater]
      exact List.append_nil _

theorem IsTrial.marks_firstCall {retries : Nat} {frame : Frame} {outcome : Option FrameOutcome}
    (h : IsTrial retries (p.firstCall stage run frame) acts outcome) :
    RunAct.marks acts = [.frame stage frame] :=
  h.marks

theorem IsSweep.marks_prefix {frames : List Frame} {answer : Option (List FrameEntry)}
    (h : IsSweep p run stage frames acts answer) :
    RunAct.marks acts <+: frames.map (Mark.frame stage) := by
  induction h with
  | done => exact List.prefix_refl _
  | interrupted frames htrial =>
      rw [htrial.marks_firstCall]
      exact List.prefix_append _ _
  | later htrial _ ih | next htrial _ ih =>
      rw [RunAct.marks_append, htrial.marks_firstCall]
      exact (List.prefix_append_right_inj _).mpr ih

theorem IsSweep.marks {frames : List Frame} {entries : List FrameEntry}
    (h : IsSweep p run stage frames acts (some entries)) :
    RunAct.marks acts = frames.map (Mark.frame stage) := by
  generalize hanswer : some entries = answer at h
  induction h generalizing entries with
  | done => rfl
  | interrupted | later => simp at hanswer
  | next htrial _ ih =>
      rw [RunAct.marks_append, htrial.marks_firstCall, ih rfl]
      rfl

theorem marks_entering (repeated : Bool) (result : StageResult) :
    RunAct.marks (entering repeated result) = [.entered (repeated, result.stage)] :=
  rfl

theorem IsPass.marks {repeated : Bool} {result : StageResult}
    (h : IsPass p run stage repeated acts (.ok result)) :
    RunAct.marks acts = p.sweepWord run.scaffoldId stage := by
  cases h with
  | finished hsweep => exact hsweep.marks

theorem IsPass.marks_prefix {repeated : Bool} {answer : Except RunError StageResult}
    (h : IsPass p run stage repeated acts answer) :
    RunAct.marks acts <+: p.passWord run.scaffoldId repeated stage := by
  cases h with
  | finished hsweep | interrupted hsweep =>
      exact hsweep.marks_prefix.trans (List.prefix_append _ _)
  | @failed acts entries hsweep =>
      have hstage : (StageResult.ofSweep stage entries).failing.stage = stage :=
        StageResult.stage_ofSweep stage entries
      rw [RunAct.marks_append, hsweep.marks, marks_entering, hstage]
      exact List.prefix_refl _

theorem IsRepeat.marks {result : StageResult} (h : IsRepeat p run stage acts (.ok result)) :
    RunAct.marks acts = p.passWord run.scaffoldId true stage := by
  cases h with
  | entered hpass =>
      rw [RunAct.marks_append, hpass.marks, marks_entering, hpass.stage_of_ok]
      rfl

theorem IsRepeat.marks_prefix {answer : Except RunError StageResult}
    (h : IsRepeat p run stage acts answer) :
    RunAct.marks acts <+: p.passWord run.scaffoldId true stage := by
  cases h with
  | stopped hpass => exact hpass.marks_prefix
  | entered hpass =>
      have hmarks := (IsRepeat.entered hpass).marks
      exact hmarks ▸ List.prefix_refl _

theorem IsSeries.marks
    {step : List Entry → Run → Stage → List RunAct → Except RunError StageResult → Prop}
    {word : Stage → List Mark}
    (hstep : ∀ past run stage acts result, origin.Reached past run →
      step past run stage acts (.ok result) → RunAct.marks acts = word stage)
    {past : List Entry} {stages : List Stage} {results : List StageResult}
    (h : IsSeries origin step past stages acts (.ok results)) :
    RunAct.marks acts = stages.flatMap word := by
  generalize hanswer : Except.ok results = answer at h
  induction h generalizing results with
  | done => rfl
  | stopped | later => simp at hanswer
  | next hpast hfirst _ ih =>
      rw [RunAct.marks_append, hstep _ _ _ _ _ hpast hfirst, ih rfl, List.flatMap_cons]

theorem IsSeries.marks_prefix
    {step : List Entry → Run → Stage → List RunAct → Except RunError StageResult → Prop}
    {word : Stage → List Mark}
    (hstep : ∀ past run stage acts result, origin.Reached past run →
      step past run stage acts (.ok result) → RunAct.marks acts = word stage)
    (hinit : ∀ past run stage acts answer, origin.Reached past run →
      step past run stage acts answer → RunAct.marks acts <+: word stage)
    {past : List Entry} {stages : List Stage} {answer : Except RunError (List StageResult)}
    (h : IsSeries origin step past stages acts answer) :
    RunAct.marks acts <+: stages.flatMap word := by
  induction h with
  | done => exact List.prefix_refl _
  | stopped stages hpast hfirst =>
      exact (hinit _ _ _ _ _ hpast hfirst).trans (List.prefix_append _ _)
  | later hpast hfirst _ ih | next hpast hfirst _ ih =>
      rw [RunAct.marks_append, hstep _ _ _ _ _ hpast hfirst, List.flatMap_cons]
      exact (List.prefix_append_right_inj _).mpr ih

theorem IsRepetition.marks {past : List Entry} {stages : List Stage}
    {results : List StageResult} (h : IsRepetition p origin past stages acts (.ok results)) :
    RunAct.marks acts = stages.flatMap (p.passWord origin.scaffoldId true) :=
  IsSeries.marks (fun _ _ _ _ _ hpast hrepeat => hpast.frame.2.1 ▸ hrepeat.marks) h

theorem IsRepetition.marks_prefix {past : List Entry} {stages : List Stage}
    {answer : Except RunError (List StageResult)}
    (h : IsRepetition p origin past stages acts answer) :
    RunAct.marks acts <+: stages.flatMap (p.passWord origin.scaffoldId true) :=
  IsSeries.marks_prefix (fun _ _ _ _ _ hpast hrepeat => hpast.frame.2.1 ▸ hrepeat.marks)
    (fun _ _ _ _ _ hpast hrepeat => hpast.frame.2.1 ▸ hrepeat.marks_prefix) h

/-- That stages are run again can be seen from the entries, unless an
interruption comes first. -/
def RepeatsVisibly (acts : List RunAct) (repeats : Bool) : Prop :=
  repeats = true →
    (∃ call, .attempt call none ∈ acts) ∨ Entry.repeatedResults (RunAct.entries acts) ≠ []

theorem RepeatsVisibly.mono {more : List RunAct} {repeats : Bool}
    (h : RepeatsVisibly acts repeats) (hmore : acts.Sublist more) :
    RepeatsVisibly more repeats := by
  intro hrepeats
  refine (h hrepeats).imp ?_ ?_
  · rintro ⟨call, hcall⟩
    exact ⟨call, hmore.subset hcall⟩
  · intro hresults hnone
    have hsub : (Entry.repeatedResults (RunAct.entries acts)).Sublist
        (Entry.repeatedResults (RunAct.entries more)) :=
      ((hmore.filterMap _).filter _).map _
    rw [hnone] at hsub
    exact hresults (List.sublist_nil.mp hsub)

theorem repeatsVisibly_false : RepeatsVisibly acts false := by
  simp [RepeatsVisibly]

theorem IsRepetition.repeatsVisibly {past : List Entry}
    {answer : Except RunError (List StageResult)}
    (h : IsRepetition p origin past Pipeline.repeatedStages acts answer) :
    RepeatsVisibly acts true := by
  intro _
  by_cases hquiet : ∀ call, .attempt call none ∉ acts
  · right
    match answer with
    | .ok results =>
        obtain ⟨hentries, hstages, _⟩ := h.entries_of_ok
        rw [hentries, Entry.repeatedResults_map_repeated]
        rintro rfl
        simp [Pipeline.repeatedStages] at hstages
    | .error e =>
        obtain ⟨results, last, hentries, _⟩ := h.entries_of_error hquiet
        rw [hentries, Entry.repeatedResults_map_repeated]
        simp
  · left
    simpa using hquiet

theorem IsCompletion.stage_of_ok {past : List Entry} {result completed : StageResult}
    (h : IsCompletion p origin past run result acts (.ok completed)) :
    completed.stage = result.stage := by
  cases h <;> rfl

theorem IsCompletion.marks {past : List Entry} {result : StageResult}
    {answer : Except RunError StageResult}
    (h : IsCompletion p origin past run result acts answer) :
    ∃ repeats, RunAct.marks acts <+: p.completionWord origin.scaffoldId repeats result.stage ∧
      ((∃ completed, answer = .ok completed) →
        RunAct.marks acts = p.completionWord origin.scaffoldId repeats result.stage) ∧
      RepeatsVisibly acts repeats := by
  have hnone (hmarks : RunAct.marks acts = []) :
      ∃ repeats, RunAct.marks acts <+: p.completionWord origin.scaffoldId repeats result.stage ∧
        ((∃ completed, answer = .ok completed) →
          RunAct.marks acts = p.completionWord origin.scaffoldId repeats result.stage) ∧
        RepeatsVisibly acts repeats :=
    ⟨false, hmarks ▸ List.nil_prefix, fun _ => hmarks, repeatsVisibly_false⟩
  cases h with
  | repeated hstage _ hrepetition =>
      have hword : RunAct.marks acts = p.completionWord origin.scaffoldId true result.stage := by
        rw [hrepetition.marks, Pipeline.completionWord, if_pos ⟨rfl, hstage⟩]
        rfl
      exact ⟨true, hword ▸ List.prefix_refl _, fun _ => hword, hrepetition.repeatsVisibly⟩
  | repetitionFailed hstage _ hrepetition =>
      refine ⟨true, ?_, by simp, hrepetition.repeatsVisibly⟩
      rw [Pipeline.completionWord, if_pos ⟨rfl, hstage⟩]
      exact hrepetition.marks_prefix
  | published _ _ _ hcommands | publicationInterrupted _ _ hcommands =>
      exact hnone (RunAct.marks_eq_nil_of_isCommand hcommands)
  | unrepeated | audited | unaudited | unpublished | plain => exact hnone rfl

theorem IsStageRun.marks {past : List Entry} {answer : Except RunError StageResult}
    (hpast : origin.Reached past run)
    (h : IsStageRun p origin past run stage acts answer) :
    ∃ repeats, RunAct.marks acts <+: p.stageWord origin.scaffoldId repeats stage ∧
      ((∃ result, answer = .ok result) →
        RunAct.marks acts = p.stageWord origin.scaffoldId repeats stage) ∧
      RepeatsVisibly acts repeats := by
  have hid := hpast.frame.2.1
  cases h with
  | stopped hpass =>
      -- The entry of a stage that fails comes without a repetition.
      refine ⟨false, ?_, by simp, repeatsVisibly_false⟩
      rw [Pipeline.stageWord, Pipeline.completionWord, if_neg (by simp), List.append_nil]
      exact hid ▸ hpass.marks_prefix
  | @incomplete acts more result e hpass hcompletion =>
      obtain ⟨repeats, hinit, _, hvisibly⟩ := hcompletion.marks
      refine ⟨repeats, ?_, by simp, hvisibly.mono (List.sublist_append_right _ _)⟩
      rw [RunAct.marks_append, hpass.marks, hid, ← hpass.stage_of_ok]
      exact ((List.prefix_append_right_inj _).mpr hinit).trans (List.prefix_append _ _)
  | @entered acts more result completed hpass hcompletion =>
      obtain ⟨repeats, _, heq, hvisibly⟩ := hcompletion.marks
      have hmarks : RunAct.marks (acts ++ more ++ entering false completed) =
          p.stageWord origin.scaffoldId repeats stage := by
        rw [RunAct.marks_append, RunAct.marks_append, hpass.marks, heq ⟨completed, rfl⟩,
          marks_entering, hcompletion.stage_of_ok, hpass.stage_of_ok, hid]
        rfl
      exact ⟨repeats, hmarks ▸ List.prefix_refl _, fun _ => hmarks,
        (hvisibly.mono (List.sublist_append_right _ _)).mono (List.sublist_append_left _ _)⟩

/-- The fifth stage of a course settles the word for the others. -/
theorem Pipeline.exists_common_word (p : Pipeline) (scaffold : String) {stage : Stage}
    {stages : List Stage} (hstage : stage ∉ stages) (first rest : Bool) :
    ∃ repeats, p.stageWord scaffold repeats stage = p.stageWord scaffold first stage ∧
      stages.flatMap (p.stageWord scaffold repeats) =
        stages.flatMap (p.stageWord scaffold rest) ∧ (repeats = first ∨ repeats = rest) := by
  by_cases hfifth : stage = .successContinue
  · refine ⟨first, rfl, congrArg List.flatten (List.map_congr_left fun other hother => ?_),
      .inl rfl⟩
    exact p.stageWord_eq_of_ne scaffold _ _ fun heq => hstage (hfifth ▸ heq ▸ hother)
  · exact ⟨rest, p.stageWord_eq_of_ne scaffold _ _ hfifth, rfl, .inr rfl⟩

/-- The marks of a course, as far as it goes. -/
theorem IsCourse.marks {past : List Entry} {stages : List Stage}
    {answer : Except RunError (List StageResult)} (hnodup : stages.Nodup)
    (h : IsCourse p origin past stages acts answer) :
    ∃ repeats, RunAct.marks acts <+: stages.flatMap (p.stageWord origin.scaffoldId repeats) ∧
      ((∃ results, answer = .ok results) →
        RunAct.marks acts = stages.flatMap (p.stageWord origin.scaffoldId repeats)) ∧
      RepeatsVisibly acts repeats := by
  induction h with
  | done => exact ⟨false, List.prefix_refl _, fun _ => rfl, repeatsVisibly_false⟩
  | stopped stages hpast hfirst =>
      obtain ⟨repeats, hinit, _, hvisibly⟩ := hfirst.marks hpast
      exact ⟨repeats, hinit.trans (List.prefix_append _ _), by simp, hvisibly⟩
  | @later past run stage stages acts more result e hpast hfirst _ ih =>
      obtain ⟨hstage, hrest⟩ := List.nodup_cons.mp hnodup
      obtain ⟨first, _, hmarks, hfirst⟩ := hfirst.marks hpast
      obtain ⟨rest, hinit, _, hrest⟩ := ih hrest
      obtain ⟨repeats, hword, hwords, hrepeats⟩ :=
        p.exists_common_word origin.scaffoldId hstage first rest
      refine ⟨repeats, ?_, by simp, ?_⟩
      · rw [RunAct.marks_append, hmarks ⟨result, rfl⟩, List.flatMap_cons, hword, hwords]
        exact (List.prefix_append_right_inj _).mpr hinit
      · rcases hrepeats with rfl | rfl
        · exact hfirst.mono (List.sublist_append_left _ _)
        · exact hrest.mono (List.sublist_append_right _ _)
  | @next past run stage stages acts more result results hpast hfirst _ ih =>
      obtain ⟨hstage, hrest⟩ := List.nodup_cons.mp hnodup
      obtain ⟨first, _, hmarks, hfirst⟩ := hfirst.marks hpast
      obtain ⟨rest, _, heq, hrest⟩ := ih hrest
      obtain ⟨repeats, hword, hwords, hrepeats⟩ :=
        p.exists_common_word origin.scaffoldId hstage first rest
      have hall : RunAct.marks (acts ++ more) =
          (stage :: stages).flatMap (p.stageWord origin.scaffoldId repeats) := by
        rw [RunAct.marks_append, hmarks ⟨result, rfl⟩, List.flatMap_cons, hword, hwords,
          heq ⟨results, rfl⟩]
      refine ⟨repeats, hall ▸ List.prefix_refl _, fun _ => hall, ?_⟩
      rcases hrepeats with rfl | rfl
      · exact hfirst.mono (List.sublist_append_left _ _)
      · exact hrest.mono (List.sublist_append_right _ _)

/-- The marks of a walk through the stages, as far as it goes. -/
theorem IsWalk.marks {stopped : Bool} {answer : Except RunError Unit}
    (h : IsWalk p origin stopped acts answer) :
    ∃ repeats, RunAct.marks acts <+: p.runWord origin.scaffoldId repeats ∧
      (answer = .ok () → RunAct.marks acts = p.runWord origin.scaffoldId repeats) ∧
      RepeatsVisibly acts repeats := by
  cases h with
  | stopped => exact ⟨false, List.nil_prefix, by simp, repeatsVisibly_false⟩
  | @walked acts answer hcourse =>
      obtain ⟨repeats, hinit, heq, hvisibly⟩ := hcourse.marks (by decide)
      refine ⟨repeats, hinit, fun hanswer => heq ?_, hvisibly⟩
      cases answer with
      | ok results => exact ⟨results, rfl⟩
      | error e => simp [Except.map] at hanswer

theorem RunAct.turns_of_marks {repeats : Bool} {scaffold : String}
    (h : RunAct.marks acts <+: p.runWord scaffold repeats) :
    (RunAct.entries acts).map Entry.turn <+: if repeats then Turn.detour else Turn.straight := by
  rw [RunAct.map_turn_entries, ← p.turns_runWord scaffold repeats]
  exact h.filterMap Mark.turn?

/-- The turns that are taken by a walk through the stages are on schedule, and
they are all taken unless the walk fails. -/
theorem IsWalk.turns {stopped : Bool} {answer : Except RunError Unit}
    (h : IsWalk p origin stopped acts answer) :
    Turn.OnSchedule ((RunAct.entries acts).map Entry.turn) ∧
      (answer = .ok () → Turn.reached ((RunAct.entries acts).map Entry.turn) = 10) := by
  obtain ⟨repeats, hinit, heq, _⟩ := h.marks
  constructor
  · have hturns := RunAct.turns_of_marks hinit
    cases repeats
    · exact .inl hturns
    · exact .inr hturns
  · intro hanswer
    rw [RunAct.map_turn_entries, heq hanswer, p.turns_runWord]
    cases repeats <;> rfl

/-! ## The log of a run

Wherever a run has got to, its log lists an initial part of the stages in their
order, and the results that later frames are shown are those of the log.
-/

variable {σ : Type} {p : Pipeline} {origin : Run} {stopped : Bool} {walk : List RunAct}
  {answer : Except RunError Unit}

theorem IsWalk.turns_of_prefix (h : IsWalk p origin stopped walk answer)
    {before : List RunAct} (hbefore : before <+: walk) :
    Turn.OnSchedule ((RunAct.entries before).map Entry.turn) := by
  obtain ⟨rest, rfl⟩ := hbefore
  have hturns := h.turns.1
  rw [RunAct.entries_append, List.map_append] at hturns
  exact hturns.of_append

/-- Every point of a walk leaves the log in order. -/
theorem IsWalk.inOrder (h : IsWalk p origin stopped walk answer) (hfresh : origin.IsFresh)
    {before : List RunAct} (hbefore : before <+: walk) {run : Run}
    (hrun : origin.Reached (RunAct.entries before) run) :
    run.InOrder (Turn.reached ((RunAct.entries before).map Entry.turn)) :=
  hrun.inOrder hfresh (h.turns_of_prefix hbefore)

/-- A stage is only entered again when it is in the log. -/
theorem IsWalk.mem_log_of_repeated (h : IsWalk p origin stopped walk answer)
    (hfresh : origin.IsFresh) {before rest : List RunAct} {entry : Entry}
    (hwalk : walk = before ++ .enter entry :: rest) (hrepeated : entry.repeated = true)
    {run : Run} (hrun : origin.Reached (RunAct.entries before) run) :
    entry.stage ∈ run.log.map StageRecord.stage := by
  have horder := h.inOrder hfresh ⟨_, hwalk.symm⟩ hrun
  have hnext : Turn.OnSchedule ((RunAct.entries before).map Entry.turn ++ [entry.turn]) := by
    have hinit : before ++ [.enter entry] <+: walk := ⟨rest, by simp [hwalk]⟩
    simpa [RunAct.entered?] using h.turns_of_prefix hinit
  have hagain : entry.turn.1 = true := hrepeated
  have hnumber := hnext.next
  rw [if_pos hagain] at hnumber
  exact horder.mem_stages.mpr hnumber

/-- At every point of a run the log lists the first `k` stages in their order,
and the results shown to later frames are exactly those of the log.  A stage
that is entered again is in the log already, and a run through all stages ends
with all ten of them. -/
theorem Pipeline.log_inOrder_throughout (p : Pipeline) (host : Host σ) (scaffold : Scaffold)
    (input : Json) (session : Session σ) (stopped : Bool) :
    ∃ walk answer,
      IsWalk p (p.begin scaffold input session).run stopped walk answer ∧
      p.Plays host (p.begin scaffold input session) walk ∧
      p.runUnlessStopped host stopped (p.begin scaffold input session) =
        ended answer (p.after host walk (p.begin scaffold input session)) ∧
      (∀ before, before <+: walk →
        ∃ k, (p.after host before (p.begin scaffold input session)).run.InOrder k) ∧
      (∀ before entry rest, walk = before ++ .enter entry :: rest → entry.repeated = true →
        entry.stage ∈
          (p.after host before (p.begin scaffold input session)).run.log.map
            StageRecord.stage) ∧
      (answer = .ok () →
        (p.after host walk (p.begin scaffold input session)).run.InOrder 10) := by
  obtain ⟨walk, answer, hwalk, hplays, hdoes⟩ :=
    p.runUnlessStopped_does host stopped (p.begin scaffold input session)
  have hfresh := p.begin_isFresh scaffold input session
  have hreached (before : List RunAct) :=
    p.reached_after host (.start : Run.Reached _ [] (p.begin scaffold input session).run) before
  refine ⟨walk, answer, hwalk, hplays, hdoes, ?_, ?_, ?_⟩
  · intro before hbefore
    exact ⟨_, hwalk.inOrder hfresh hbefore (hreached before)⟩
  · intro before entry rest hacts hrepeated
    exact hwalk.mem_log_of_repeated hfresh hacts hrepeated (hreached before)
  · intro hanswer
    have horder := hwalk.inOrder hfresh (List.prefix_refl walk) (hreached walk)
    rwa [hwalk.turns.2 hanswer] at horder

end ScaffoldRunner
