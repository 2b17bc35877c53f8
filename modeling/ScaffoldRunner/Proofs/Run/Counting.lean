import ScaffoldRunner.Proofs.Run.Errors
import ScaffoldRunner.Proofs.Run.Outline
import ScaffoldRunner.Proofs.Run.Schedule
import ScaffoldRunner.Proofs.Run.Tally

/-!
# What a run counts

Stages and frames are counted in other places than those that enter them into
the log and the history.  The counters and the entries still move together: a
stage is counted when its result is entered, also when the result is that of a
failing stage or of a stage that was run again, and a frame is counted when its
attempt enters the history.  How the run ends makes no difference.
-/

namespace ScaffoldRunner

/-! ## The counters -/

/-- What the metrics tell about stages. -/
structure StageTally where
  completed : Nat
  failed : Nat
  skipped : Nat

/-- What the metrics tell about one frame. -/
structure FrameTally where
  executions : Nat
  failures : Nat
  timeouts : Nat

namespace StageTally

/-- The tally when some results have been entered and some stages skipped. -/
def enter (t : StageTally) (entries : List Entry) (skips : Nat) : StageTally where
  completed := t.completed + entries.countP fun e => e.result.isSuccessful
  failed := t.failed + entries.countP fun e => !e.result.isSuccessful
  skipped := t.skipped + skips

theorem enter_nil (t : StageTally) : t.enter [] 0 = t :=
  rfl

theorem enter_append (t : StageTally) (before rest : List Entry) (m n : Nat) :
    t.enter (before ++ rest) (m + n) = (t.enter before m).enter rest n := by
  simp [enter, Nat.add_assoc]

end StageTally

namespace FrameTally

/-- The tally of a frame when some attempts have been answered. -/
def enter (t : FrameTally) (id : String) (tried : List AnsweredAttempt) : FrameTally where
  executions := t.executions + tried.countP fun a => a.1.frame.id = id
  failures := t.failures + tried.countP fun a =>
    decide (a.1.frame.id = id) && !FrameCall.succeeded a.2
  timeouts := t.timeouts + tried.countP fun a =>
    decide (a.1.frame.id = id) && FrameCall.timedOut a.2

theorem enter_nil (t : FrameTally) (id : String) : t.enter id [] = t :=
  rfl

theorem enter_append (t : FrameTally) (id : String) (before rest : List AnsweredAttempt) :
    t.enter id (before ++ rest) = (t.enter id before).enter id rest := by
  simp [enter, Nat.add_assoc]

end FrameTally

namespace Metrics

/-- The tally of stages. -/
def stageTally (m : Metrics) : StageTally where
  completed := m.stagesCompleted
  failed := m.stagesFailed
  skipped := m.stagesSkipped

def frameTally (m : Metrics) (id : String) : FrameTally :=
  let stats := (m.frameStats.get? id).getD {}
  ⟨stats.executions, stats.failures, stats.timeouts⟩

def attempted (m : Metrics) (frame : String) (second millis : Nat) (outcome : FrameOutcome) :
    Metrics :=
  let tried := m.frameTried frame second millis (FrameCall.succeeded outcome)
  if FrameCall.timedOut outcome then tried.frameTimedOut frame else tried

variable (m : Metrics)

theorem stageTally_setState (state : String) : (m.setState state).stageTally = m.stageTally := by
  unfold setState
  split <;> rfl

theorem frameStats_setState (state : String) : (m.setState state).frameStats = m.frameStats := by
  unfold setState
  split <;> rfl

theorem stageTally_stageEnded (repeated : Bool) (result : StageResult) :
    (m.stageEnded result.isSuccessful).stageTally =
      m.stageTally.enter [⟨repeated, result⟩] 0 := by
  by_cases hsuccess : result.isSuccessful = true
  · simp [stageEnded, stageTally, StageTally.enter, hsuccess]
  · simp [stageEnded, stageTally, StageTally.enter, hsuccess]

theorem frameStats_stageEnded (success : Bool) :
    (m.stageEnded success).frameStats = m.frameStats := by
  cases success <;> rfl

theorem stageTally_frameTimedOut (frame : String) :
    (m.frameTimedOut frame).stageTally = m.stageTally := by
  unfold frameTimedOut
  split <;> rfl

theorem stageTally_attempted (frame : String) (second millis : Nat) (outcome : FrameOutcome) :
    (m.attempted frame second millis outcome).stageTally = m.stageTally := by
  by_cases htimeout : FrameCall.timedOut outcome = true
  · rw [attempted, if_pos htimeout, stageTally_frameTimedOut]
    rfl
  · rw [attempted, if_neg htimeout]
    rfl

theorem frameTally_frameTried (frame : String) (second millis : Nat) (success : Bool)
    (id : String) :
    (m.frameTried frame second millis success).frameTally id =
      if frame = id then
        { m.frameTally id with
          executions := (m.frameTally id).executions + 1
          failures := (m.frameTally id).failures + if success then 0 else 1 }
      else m.frameTally id := by
  have hstats : ((m.frameTried frame second millis success).frameStats.get? id) =
      if id = frame then _ else m.frameStats.get? id :=
    Dict.get?_insert ..
  by_cases hid : frame = id
  · subst hid
    rw [if_pos rfl] at hstats
    rw [if_pos rfl, frameTally, hstats]
    cases success <;> rfl
  · rw [if_neg (Ne.symm hid)] at hstats
    rw [if_neg hid, frameTally, hstats]
    rfl

theorem frameTally_frameTimedOut {frame : String} {stats : FrameStats}
    (hknown : m.frameStats.get? frame = some stats) (id : String) :
    (m.frameTimedOut frame).frameTally id =
      if frame = id then
        { m.frameTally id with timeouts := (m.frameTally id).timeouts + 1 }
      else m.frameTally id := by
  have hcounted : m.frameTimedOut frame =
      { m with frameStats :=
        m.frameStats.insert frame { stats with timeouts := stats.timeouts + 1 } } := by
    rw [frameTimedOut, hknown]
  have hstats : (m.frameTimedOut frame).frameStats.get? id =
      if id = frame then some { stats with timeouts := stats.timeouts + 1 }
      else m.frameStats.get? id := by
    rw [hcounted]
    exact Dict.get?_insert ..
  by_cases hid : frame = id
  · subst hid
    rw [if_pos rfl] at hstats
    rw [if_pos rfl, frameTally, frameTally, hstats, hknown]
    rfl
  · rw [if_neg (Ne.symm hid)] at hstats
    rw [if_neg hid, frameTally, hstats]
    rfl

/-- An attempt is counted for its own frame.  A timeout finds the frame known,
because the attempt itself has been counted before. -/
theorem frameTally_attempted (call : FrameCall) (second millis : Nat) (outcome : FrameOutcome)
    (id : String) :
    (m.attempted call.frame.id second millis outcome).frameTally id =
      (m.frameTally id).enter id [(call, outcome)] := by
  have htried := m.frameTally_frameTried call.frame.id second millis
    (FrameCall.succeeded outcome) id
  by_cases htimeout : FrameCall.timedOut outcome = true
  · obtain ⟨stats, hknown⟩ : ∃ stats, (m.frameTried call.frame.id second millis
        (FrameCall.succeeded outcome)).frameStats.get? call.frame.id = some stats :=
      ⟨_, Dict.get?_insert_self ..⟩
    rw [attempted, if_pos htimeout, frameTally_frameTimedOut _ hknown, htried]
    by_cases hid : call.frame.id = id <;> cases hsuccess : FrameCall.succeeded outcome <;>
      simp [FrameTally.enter, hid, htimeout, hsuccess]
  · rw [attempted, if_neg htimeout, htried]
    by_cases hid : call.frame.id = id <;> cases hsuccess : FrameCall.succeeded outcome <;>
      simp [FrameTally.enter, hid, htimeout, hsuccess]

end Metrics

/-! ## What an act counts -/

variable {σ β : Type} {p : Pipeline} {host : Host σ}

/-- What an act may make of the metrics. -/
inductive RunAct.Recounts : RunAct → Metrics → Metrics → Prop
  | attempted (call : FrameCall) (outcome : FrameOutcome) (second millis : Nat) (m : Metrics) :
      Recounts (.attempt call (some outcome)) m (m.attempted call.frame.id second millis outcome)
  | unanswered (call : FrameCall) (m : Metrics) : Recounts (.attempt call none) m m
  | ran (argv : List String) (result : CommandResult) (m : Metrics) :
      Recounts (.command argv (some result)) m (m.commandRun result.success)
  | stopped (argv : List String) (m : Metrics) : Recounts (.command argv none) m m
  | counted (change : Metrics → Metrics) (m : Metrics) : Recounts (.count change) m (change m)
  | entered (entry : Entry) (m : Metrics) : Recounts (.enter entry) m m
  | reported (subject : String) (document : Json) (path : Except OsError String) (m : Metrics) :
      Recounts (.report subject document path) m m
  | saved (task : String) (old : Option Json) (new : Json) (merged : Except ContextError Json)
      (m : Metrics) : Recounts (.save task old new merged) m m

theorem RunAct.recounts {session : Session σ} {act : RunAct}
    (htrue : act.IsTrue p host session) :
    act.Recounts session.metrics (act.inSession p host session).metrics := by
  cases act with
  | attempt call outcome =>
      change (answerOf (call.tryOnce host p.contexts session)).toOption = outcome at htrue
      rw [FrameCall.tryOnce_eq] at htrue
      rw [inSession, FrameCall.tryOnce_eq]
      rcases hreply : call.reply host session.world with ⟨answer | _, world⟩
      · rw [hreply] at htrue
        obtain rfl : some answer = outcome := htrue
        change Recounts _ _ (call.concludeAttempt p.contexts session.now answer _).metrics
        rw [FrameCall.metrics_concludeAttempt]
        exact .attempted call answer _ _ session.metrics
      · rw [hreply] at htrue
        obtain rfl : none = outcome := htrue
        exact .unanswered call session.metrics
  | command argv result =>
      change (answerOf (CommandResult.execute host p.commands argv session)).toOption = result
        at htrue
      rw [CommandResult.execute_eq] at htrue
      rw [inSession, CommandResult.execute_eq]
      rcases hreply : CommandResult.reply host p.commands argv session.world with
        ⟨answer | _, world⟩
      · rw [hreply] at htrue
        obtain rfl : some answer = result := htrue
        exact .ran argv answer session.metrics
      · rw [hreply] at htrue
        obtain rfl : none = result := htrue
        exact .stopped argv session.metrics
  | count change => exact .counted change session.metrics
  | enter entry => exact .entered entry session.metrics
  | report subject document path =>
      rw [inSession, Session.metrics_onFiles]
      exact .reported subject document path session.metrics
  | save task old new merged =>
      rw [inSession, Session.metrics_onFiles]
      exact .saved task old new merged session.metrics

/-- An act that does not change a part of the metrics on purpose. -/
def RunAct.Keeps (part : Metrics → β) : RunAct → Prop
  | count change => ∀ m, part (change m) = part m
  | attempt .. | command .. | enter _ | report .. | save .. => True

namespace RunAct.Recounts

variable {act : RunAct} {m m' : Metrics}

theorem stageTally (h : act.Recounts m m') (hkeeps : act.Keeps Metrics.stageTally) :
    m'.stageTally = m.stageTally := by
  cases h with
  | attempted call outcome second millis => exact m.stageTally_attempted _ second millis outcome
  | counted change => exact hkeeps m
  | ran | unanswered | stopped | entered | reported | saved => rfl

theorem frameTally (h : act.Recounts m m') (hkeeps : act.Keeps Metrics.frameStats)
    (id : String) : m'.frameTally id = (m.frameTally id).enter id act.answered?.toList := by
  cases h with
  | attempted call outcome second millis =>
      exact m.frameTally_attempted call second millis outcome id
  | counted change =>
      have hstats : (change m).frameStats = m.frameStats := hkeeps m
      rw [Metrics.frameTally, hstats]
      rfl
  | ran | unanswered | stopped | entered | reported | saved => rfl

end RunAct.Recounts

namespace Pipeline

/-- The tally of a frame follows the attempts that are answered. -/
theorem frameTally_after {acts : List RunAct} {s : Progress σ} (h : p.Plays host s acts)
    (hkeeps : ∀ act ∈ acts, act.Keeps Metrics.frameStats) (id : String) :
    (p.after host acts s).session.metrics.frameTally id =
      (s.session.metrics.frameTally id).enter id (RunAct.answered acts) := by
  induction acts generalizing s with
  | nil => rfl
  | cons act acts ih =>
      rw [List.forall_mem_cons] at hkeeps
      have hact := (RunAct.recounts h.1).frameTally hkeeps.1 id
      rw [after_cons, ih h.2 hkeeps.2, RunAct.answered_cons, FrameTally.enter_append, ← hact]
      rfl

end Pipeline

/-! ## Stages are counted when they are entered -/

/-- The tally of stages follows the results that some acts enter, while a number
of stages is skipped. -/
def CountsStages (p : Pipeline) (host : Host σ) (acts : List RunAct) (skips : Nat) : Prop :=
  ∀ s : Progress σ, p.Plays host s acts →
    (p.after host acts s).session.metrics.stageTally =
      s.session.metrics.stageTally.enter (RunAct.entries acts) skips

namespace CountsStages

variable {before rest acts : List RunAct}

theorem nil : CountsStages p host [] 0 :=
  fun _ _ => rfl

theorem append {m n : Nat} (hbefore : CountsStages p host before m)
    (hrest : CountsStages p host rest n) : CountsStages p host (before ++ rest) (m + n) := by
  intro s hplays
  obtain ⟨hfirst, hsecond⟩ := (Pipeline.plays_append ..).mp hplays
  rw [Pipeline.after_append, hrest _ hsecond, hbefore s hfirst, RunAct.entries_append,
    StageTally.enter_append]

/-- Acts that enter nothing and count other things. -/
theorem of_keeps (hkeeps : ∀ act ∈ acts, act.Keeps Metrics.stageTally)
    (hentries : RunAct.entries acts = []) : CountsStages p host acts 0 := by
  intro s hplays
  rw [hentries, StageTally.enter_nil]
  clear hentries
  induction acts generalizing s with
  | nil => rfl
  | cons act acts ih =>
      rw [List.forall_mem_cons] at hkeeps
      have hact := (RunAct.recounts hplays.1).stageTally hkeeps.1
      rw [Pipeline.after_cons, ih hkeeps.2 _ hplays.2]
      exact hact

theorem entering (repeated : Bool) (result : StageResult) :
    CountsStages p host (ScaffoldRunner.entering repeated result) 0 :=
  fun s _ => s.session.metrics.stageTally_stageEnded repeated result

theorem skipping : CountsStages p host [.count Metrics.stageSkipped] 1 :=
  fun _ _ => rfl

end CountsStages

/-- The entry of a last stage that has left the remote alone: the push is switched
off, and no critical frame of the stage has failed. -/
def Pipeline.skips (p : Pipeline) (e : Entry) : Bool :=
  p.skipPush && decide (e.stage = .pushRemote) && e.result.criticalFailures.isEmpty

/-- How often some acts have left the remote alone. -/
def Pipeline.skipCount (p : Pipeline) (acts : List RunAct) : Nat :=
  (RunAct.entries acts).countP p.skips

@[simp] theorem Pipeline.skipCount_append (p : Pipeline) (before rest : List RunAct) :
    p.skipCount (before ++ rest) = p.skipCount before + p.skipCount rest := by
  simp [skipCount]

theorem Pipeline.skipCount_eq_zero {acts : List RunAct} (h : RunAct.entries acts = []) :
    p.skipCount acts = 0 := by
  rw [skipCount, h]
  rfl

/-- What is entered without leaving the remote alone. -/
theorem CountsStages.entering_of_not_skips {repeated : Bool} {result : StageResult}
    (h : p.skips ⟨repeated, result⟩ = false) :
    CountsStages p host (ScaffoldRunner.entering repeated result)
      (p.skipCount (ScaffoldRunner.entering repeated result)) := by
  have hcount : p.skipCount (ScaffoldRunner.entering repeated result) = 0 := by
    rw [Pipeline.skipCount, entries_entering]
    simp [h]
  rw [hcount]
  exact .entering repeated result

variable {origin run : Run} {stage : Stage} {past : List Entry} {acts : List RunAct}

theorem IsTrial.keeps {part : Metrics → β} (hretried : ∀ m, part (Metrics.frameRetried m) = part m)
    {retries : Nat} {call : FrameCall} {outcome : Option FrameOutcome}
    (h : IsTrial retries call acts outcome) : ∀ act ∈ acts, act.Keeps part := by
  induction h with
  | interrupted | success | failure => simp [RunAct.Keeps]
  | again e _ ih =>
      rw [List.forall_mem_cons, List.forall_mem_cons]
      exact ⟨trivial, hretried, ih⟩

theorem IsSweep.countsStages {frames : List Frame} {answer : Option (List FrameEntry)}
    (h : IsSweep p run stage frames acts answer) :
    CountsStages p host acts (p.skipCount acts) := by
  have hkeeps : ∀ act ∈ acts, act.Keeps Metrics.stageTally := by
    induction h with
    | done => simp
    | interrupted _ htrial => exact htrial.keeps fun _ => rfl
    | later htrial _ ih | next htrial _ ih =>
        exact List.forall_mem_append.mpr ⟨htrial.keeps fun _ => rfl, ih⟩
  rw [p.skipCount_eq_zero h.entries]
  exact .of_keeps hkeeps h.entries

/-- A pass that fails is counted with the failure. -/
theorem IsPass.countsStages {repeated : Bool} {answer : Except RunError StageResult}
    (h : IsPass p run stage repeated acts answer) :
    CountsStages p host acts (p.skipCount acts) := by
  cases h with
  | finished hsweep | interrupted hsweep => exact hsweep.countsStages
  | @failed acts entries hsweep hcritical =>
      have hskips : p.skips ⟨repeated, (StageResult.ofSweep stage entries).failing⟩ = false := by
        have hfailures : (StageResult.ofSweep stage entries).failing.criticalFailures ≠ [] :=
          hcritical
        simp [Pipeline.skips, hfailures]
      rw [Pipeline.skipCount_append]
      exact hsweep.countsStages.append (.entering_of_not_skips hskips)

/-- What a step of a series counts, the series counts. -/
theorem IsSeries.countsStages
    {step : List Entry → Run → Stage → List RunAct → Except RunError StageResult → Prop}
    {stages : List Stage} {answer : Except RunError (List StageResult)}
    (hstep : ∀ past run stage acts answer, stage ∈ stages → step past run stage acts answer →
      CountsStages p host acts (p.skipCount acts))
    (h : IsSeries origin step past stages acts answer) :
    CountsStages p host acts (p.skipCount acts) := by
  induction h with
  | done => exact .nil
  | stopped _ _ hfirst => exact hstep _ _ _ _ _ List.mem_cons_self hfirst
  | later _ hfirst _ ih | next _ hfirst _ ih =>
      rw [Pipeline.skipCount_append]
      refine (hstep _ _ _ _ _ List.mem_cons_self hfirst).append (ih ?_)
      intro past run stage acts answer hmem
      exact hstep past run stage acts answer (List.mem_cons_of_mem _ hmem)

theorem IsRepetition.countsStages {answer : Except RunError (List StageResult)}
    (h : IsRepetition p origin past Pipeline.repeatedStages acts answer) :
    CountsStages p host acts (p.skipCount acts) := by
  refine IsSeries.countsStages (fun _ run stage acts answer hstage hrepeat => ?_) h
  cases hrepeat with
  | stopped hpass => exact hpass.countsStages
  | @entered acts result hpass =>
      have hskips : p.skips ⟨true, result⟩ = false := by
        have hne : result.stage ≠ .pushRemote := by
          rw [hpass.stage_of_ok]
          rintro rfl
          exact absurd hstage (by decide)
        simp [Pipeline.skips, Entry.stage, hne]
      rw [Pipeline.skipCount_append]
      exact hpass.countsStages.append (.entering_of_not_skips hskips)

theorem RunAct.keeps_of_isCommand {part : Metrics → β} (h : ∀ act ∈ acts, act.IsCommand) :
    ∀ act ∈ acts, act.Keeps part := by
  intro act hact
  obtain ⟨argv, result, rfl⟩ := h act hact
  exact trivial

/-- After its frames only a last stage that leaves the remote alone counts
something that is not entered by then. -/
theorem IsCompletion.countsStages {result : StageResult} {answer : Except RunError StageResult}
    (h : IsCompletion p origin past run result acts answer) :
    CountsStages p host acts (p.skipCount acts +
      if p.skipPush = true ∧ result.stage = .pushRemote then 1 else 0) := by
  have hplain {acts : List RunAct} (hkeeps : ∀ act ∈ acts, act.Keeps Metrics.stageTally)
      (hentries : RunAct.entries acts = [])
      (hpushes : ¬(p.skipPush = true ∧ result.stage = .pushRemote)) :
      CountsStages p host acts (p.skipCount acts +
        if p.skipPush = true ∧ result.stage = .pushRemote then 1 else 0) := by
    rw [if_neg hpushes, p.skipCount_eq_zero hentries]
    exact .of_keeps hkeeps hentries
  cases h with
  | unrepeated hfifth => exact hplain (by simp) rfl (by simp [hfifth])
  | plain _ _ htenth => exact hplain (by simp) rfl (by simp [htenth])
  | repeated hfifth _ hrepetition | repetitionFailed hfifth _ hrepetition =>
      rw [if_neg (by simp [hfifth]), Nat.add_zero]
      exact hrepetition.countsStages
  | audited _ hseventh | unaudited _ hseventh =>
      exact hplain (by simp [RunAct.Keeps]) rfl (by simp [hseventh])
  | unpublished htenth hskip =>
      rw [if_pos ⟨hskip, htenth⟩]
      exact .skipping
  | published _ _ hpush hcommands | publicationInterrupted _ hpush hcommands =>
      exact hplain (RunAct.keeps_of_isCommand hcommands)
        (RunAct.entries_eq_nil_of_isCommand hcommands) (by simp [hpush])

/-- Leaving the remote alone cannot fail. -/
theorem IsCompletion.pushes_of_error {result : StageResult} {e : RunError}
    (h : IsCompletion p origin past run result acts (.error e)) :
    ¬(p.skipPush = true ∧ result.stage = .pushRemote) := by
  cases h with
  | repetitionFailed hfifth => simp [hfifth]
  | unaudited _ hseventh => simp [hseventh]
  | publicationInterrupted _ hpush => simp [hpush]

theorem IsStageRun.countsStages {answer : Except RunError StageResult}
    (h : IsStageRun p origin past run stage acts answer) :
    CountsStages p host acts (p.skipCount acts) := by
  cases h with
  | stopped hpass => exact hpass.countsStages
  | incomplete hpass hcompletion =>
      have hcompleted : CountsStages p host _ _ := hcompletion.countsStages
      rw [if_neg hcompletion.pushes_of_error, Nat.add_zero] at hcompleted
      rw [Pipeline.skipCount_append]
      exact hpass.countsStages.append hcompleted
  | @entered acts more result completed hpass hcompletion =>
      -- The skip is counted before the entry that shows it.
      have hentry : p.skipCount (entering false completed) =
          if p.skipPush = true ∧ result.stage = .pushRemote then 1 else 0 := by
        have hcritical : completed.criticalFailures = [] :=
          hcompletion.criticalFailures_of_ok.trans hpass.criticalFailures_of_ok
        rw [Pipeline.skipCount, entries_entering, List.countP_singleton]
        simp [Pipeline.skips, Entry.stage, hcompletion.stage_of_ok, hcritical]
      have hframes : CountsStages p host acts _ := hpass.countsStages
      have hmore : CountsStages p host more _ := hcompletion.countsStages
      have hall := hframes.append (hmore.append (.entering false completed))
      rw [Pipeline.skipCount_append, Pipeline.skipCount_append, hentry, List.append_assoc,
        Nat.add_assoc]
      exact hall

theorem IsWalk.countsStages {stopped : Bool} {answer : Except RunError Unit}
    (h : IsWalk p origin stopped acts answer) :
    CountsStages p host acts (p.skipCount acts) := by
  cases h with
  | stopped => exact .nil
  | walked hcourse =>
      exact IsSeries.countsStages (fun _ _ _ _ _ _ hrun => hrun.countsStages) hcourse

/-! ## How often stages are entered -/

/-- The last stage has one turn at most. -/
theorem Turn.OnSchedule.countP_pushRemote_le {turns : List Turn} (h : OnSchedule turns) :
    (turns.countP fun t => t.2 = .pushRemote) ≤ 1 := by
  rcases h with hstraight | hdetour
  · exact Nat.le_trans hstraight.sublist.countP_le (by decide)
  · exact Nat.le_trans hdetour.sublist.countP_le (by decide)

theorem IsWalk.skipCount_eq {stopped : Bool} {answer : Except RunError Unit}
    (h : IsWalk p origin stopped acts answer) :
    p.skipCount acts = if (RunAct.entries acts).any p.skips then 1 else 0 := by
  have hstages : (RunAct.entries acts).countP p.skips ≤
      (RunAct.entries acts).countP fun e => e.stage = .pushRemote := by
    refine List.countP_mono_left fun e _ hskips => ?_
    simp only [Pipeline.skips, Bool.and_eq_true] at hskips
    exact hskips.1.2
  have hturns : ((RunAct.entries acts).countP fun e => e.stage = .pushRemote) ≤ 1 := by
    have hle := h.turns.1.countP_pushRemote_le
    rwa [List.countP_map] at hle
  have hone : p.skipCount acts ≤ 1 := Nat.le_trans hstages hturns
  by_cases hany : (RunAct.entries acts).any p.skips = true
  · have hpos : 0 < p.skipCount acts := List.countP_pos_iff.mpr (List.any_eq_true.mp hany)
    rw [if_pos hany]
    omega
  · rw [if_neg hany]
    exact List.countP_eq_zero.mpr fun e he hskips => hany (List.any_eq_true.mpr ⟨e, he, hskips⟩)

/-- A walk through all stages enters ten results, and three more when stages run
again. -/
theorem IsWalk.length_entries {stopped : Bool} (h : IsWalk p origin stopped acts (.ok ())) :
    (RunAct.entries acts).length =
      if (RunAct.entries acts).any Entry.repeated then 13 else 10 := by
  obtain ⟨repeats, _, hmarks, _⟩ := h.marks
  have hturns : (RunAct.entries acts).map Entry.turn =
      if repeats then Turn.detour else Turn.straight := by
    rw [RunAct.map_turn_entries, hmarks rfl, p.turns_runWord]
  have hlength : (RunAct.entries acts).length =
      (if repeats then Turn.detour else Turn.straight).length := by
    rw [← hturns, List.length_map]
  have hany : (RunAct.entries acts).any Entry.repeated =
      (if repeats then Turn.detour else Turn.straight).any Prod.fst := by
    rw [← hturns, List.any_map]
    rfl
  rw [hlength, hany]
  cases repeats <;> rfl

/-! ## Whole runs -/

theorem RunAct.IsStep.keeps_frameStats {act : RunAct} (h : act.IsStep p origin) :
    act.Keeps Metrics.frameStats := by
  cases h with
  | count change hcounts =>
      intro m
      cases hcounts with
      | retried | skipped => rfl
      | ended success => exact m.frameStats_stageEnded success
  | attempt | command | enter | report => trivial

theorem IsFinish.keeps {part : Metrics → β} {scaffold : Scaffold}
    {answer : Except RunError RunOutcome} (h : IsFinish scaffold run acts answer) :
    ∀ act ∈ acts, act.Keeps part := by
  cases h with
  | unsaved hsaving => cases hsaving; simp [RunAct.Keeps]
  | saved hsaving hreporting =>
      cases hsaving <;> cases hreporting <;> simp [RunAct.Keeps]

/-- An ending counts runs only. -/
theorem IsEnding.keeps {part : Metrics → β} {scaffold : Scaffold}
    {answer : Except RunError Unit} {outcome : Except RunError RunOutcome}
    (hstate : ∀ m state, part (Metrics.setState m state) = part m)
    (hdone : ∀ m millis, part (Metrics.runDone m millis) = part m)
    (hbroke : ∀ m millis, part (Metrics.runBroke m millis) = part m)
    (h : IsEnding scaffold run answer acts outcome) : ∀ act ∈ acts, act.Keeps part := by
  have hfails {change : Metrics → Metrics} {e : RunError} {acts : List RunAct}
      (hchange : ∀ m, part (change m) = part m) (hfailing : IsFailing change run e acts) :
      ∀ act ∈ acts, act.Keeps part := by
    cases hfailing
    simpa [RunAct.Keeps] using hchange
  have hmark (millis : Nat) : (RunAct.count (Metrics.markDone millis)).Keeps part :=
    fun m => (hstate _ _).trans (hdone m millis)
  cases h with
  | completed millis hfinish => exact List.forall_mem_cons.mpr ⟨hmark millis, hfinish.keeps⟩
  | unfinished millis hfinish hfailing =>
      exact List.forall_mem_append.mpr
        ⟨List.forall_mem_cons.mpr ⟨hmark millis, hfinish.keeps⟩,
          hfails (fun m => hstate m _) hfailing⟩
  | failed millis e hfailing =>
      exact hfails (fun m => (hstate _ _).trans (hbroke m millis)) hfailing

theorem FrameRecord.TellsOf.success_eq {r : FrameRecord} {tried : AnsweredAttempt}
    (h : r.TellsOf tried) : r.success = FrameCall.succeeded tried.2 := by
  rw [FrameRecord.success, h.outcome]
  cases tried.2 <;> rfl

/-- Histories count as the attempts that they tell of. -/
theorem countP_of_tellsOf {history : List FrameRecord} {tried : List AnsweredAttempt}
    (h : List.Forall₂ FrameRecord.TellsOf history tried) {counts : FrameRecord → Bool}
    {counted : AnsweredAttempt → Bool}
    (hsame : ∀ r a, FrameRecord.TellsOf r a → counts r = counted a) :
    history.countP counts = tried.countP counted := by
  induction h with
  | nil => rfl
  | cons htells _ ih => rw [List.countP_cons, List.countP_cons, ih, hsame _ _ htells]

/-- What a run with the given acts counts, from the metrics before it to the
session that it leaves.  A history does not tell timeouts from other errors, the
attempts do. -/
structure CountsRun (p : Pipeline) (before : Metrics) (left : Session σ) (acts : List RunAct) :
    Prop where
  completed : left.metrics.stagesCompleted = before.stagesCompleted +
    (RunAct.entries acts).countP fun e => e.result.isSuccessful
  failed : left.metrics.stagesFailed = before.stagesFailed +
    (RunAct.entries acts).countP fun e => !e.result.isSuccessful
  skipped : left.metrics.stagesSkipped = before.stagesSkipped +
    if (RunAct.entries acts).any p.skips then 1 else 0
  executions : ∀ id, (left.metrics.frameTally id).executions = (before.frameTally id).executions +
    left.frameHistory.countP fun r => r.frameId = id
  failures : ∀ id, (left.metrics.frameTally id).failures = (before.frameTally id).failures +
    left.frameHistory.countP fun r => decide (r.frameId = id) && !r.success
  timeouts : ∀ id, (left.metrics.frameTally id).timeouts = (before.frameTally id).timeouts +
    (RunAct.answered acts).countP fun a =>
      decide (a.1.frame.id = id) && FrameCall.timedOut a.2
  history : List.Forall₂ FrameRecord.TellsOf left.frameHistory (RunAct.answered acts)

theorem CountsRun.of_tallies {before : Metrics} {left : Session σ}
    (hstages : left.metrics.stageTally =
      before.stageTally.enter (RunAct.entries acts)
        (if (RunAct.entries acts).any p.skips then 1 else 0))
    (hframes : ∀ id, left.metrics.frameTally id =
      (before.frameTally id).enter id (RunAct.answered acts))
    (hhistory : List.Forall₂ FrameRecord.TellsOf left.frameHistory (RunAct.answered acts)) :
    CountsRun p before left acts where
  completed := congrArg StageTally.completed hstages
  failed := congrArg StageTally.failed hstages
  skipped := congrArg StageTally.skipped hstages
  executions id := by
    rw [hframes id, countP_of_tellsOf hhistory fun r a htells => by rw [htells.frameId]]
    rfl
  failures id := by
    rw [hframes id, countP_of_tellsOf hhistory fun r a htells => by
      rw [htells.frameId, htells.success_eq]]
    rfl
  timeouts id := congrArg FrameTally.timeouts (hframes id)
  history := hhistory

/-- All stages together, of a run that is completed. -/
theorem CountsRun.total {before : Metrics} {left : Session σ} (h : CountsRun p before left acts) :
    left.metrics.stagesCompleted + left.metrics.stagesFailed =
      before.stagesCompleted + before.stagesFailed + (RunAct.entries acts).length := by
  have hlength := List.length_eq_countP_add_countP
    (l := RunAct.entries acts) fun e => e.result.isSuccessful
  rw [h.completed, h.failed, hlength]
  simp only [Bool.not_eq_true, Bool.decide_eq_false]
  omega

namespace Pipeline

theorem stageTally_begin (p : Pipeline) (scaffold : Scaffold) (document : Json)
    (session : Session σ) :
    (p.begin scaffold document session).session.metrics.stageTally =
      session.metrics.stageTally :=
  session.metrics.runBegan.stageTally_setState "running"

theorem frameTally_begin (p : Pipeline) (scaffold : Scaffold) (document : Json)
    (session : Session σ) (id : String) :
    (p.begin scaffold document session).session.metrics.frameTally id =
      session.metrics.frameTally id := by
  have hstats : (p.begin scaffold document session).session.metrics.frameStats =
      session.metrics.frameStats :=
    session.metrics.runBegan.frameStats_setState "running"
  rw [Metrics.frameTally, hstats]
  rfl

end Pipeline

/-- A walk through the stages and its ending count what the walk has entered. -/
theorem IsWalk.countsRun {scaffold : Scaffold} {document : Json} {session : Session σ}
    {stopped : Bool} {walk ending : List RunAct} {answer : Except RunError Unit}
    {outcome : Except RunError RunOutcome}
    (hwalk : IsWalk p (p.begin scaffold document session).run stopped walk answer)
    (hending : IsEnding scaffold run answer ending outcome)
    (hplays : p.Plays host (p.begin scaffold document session) (walk ++ ending)) :
    CountsRun p session.metrics
      (p.after host (walk ++ ending) (p.begin scaffold document session)).session walk := by
  have hentries : RunAct.entries ending = [] := RunAct.entries_of_silent hending.silent
  have hanswered : RunAct.answered (walk ++ ending) = RunAct.answered walk := by
    rw [RunAct.answered_append, RunAct.answered_of_silent hending.silent, List.append_nil]
  apply CountsRun.of_tallies
  · have hquiet : CountsStages p host ending 0 :=
      .of_keeps (hending.keeps Metrics.stageTally_setState (fun _ _ => rfl) fun _ _ => rfl)
        hentries
    have hstages : CountsStages p host walk _ := hwalk.countsStages
    rw [hstages.append hquiet _ hplays, RunAct.entries_append, hentries, List.append_nil,
      Nat.add_zero, hwalk.skipCount_eq, p.stageTally_begin]
  · intro id
    have hsteps : ∀ act ∈ walk, act.Keeps Metrics.frameStats :=
      fun act hact => (hwalk.isStep act hact).keeps_frameStats
    have hends : ∀ act ∈ ending, act.Keeps Metrics.frameStats :=
      hending.keeps Metrics.frameStats_setState (fun _ _ => rfl) fun _ _ => rfl
    rw [Pipeline.frameTally_after hplays (List.forall_mem_append.mpr ⟨hsteps, hends⟩) id,
      hanswered, p.frameTally_begin]
  · rw [← hanswered]
    exact Pipeline.frameHistory_of_plays hplays

namespace Pipeline

/-- However a run ends, its metrics have risen by what it has entered: the stages
by the results in which the walk through the stages entered them, first ones and
repeated ones, and the frames by the history of the run.  A completed run has
counted ten stages, and three more when stages were run again. -/
theorem execute_counts (p : Pipeline) (host : Host σ) {scaffoldId : String} {scaffold : Scaffold}
    {input document : Json} (hfound : p.registry.scaffolds.get? scaffoldId = some scaffold)
    (hinput : runInput input = .ok document) (stopped : Bool) (session : Session σ) :
    ∃ walk answer,
      IsWalk p (p.begin scaffold document session).run stopped walk answer ∧
      p.Plays host (p.begin scaffold document session) walk ∧
      p.runUnlessStopped host stopped (p.begin scaffold document session) =
        ended answer (p.after host walk (p.begin scaffold document session)) ∧
      CountsRun p session.metrics (stateOf (p.execute host scaffoldId input stopped session))
        walk ∧
      ∀ outcome, answerOf (p.execute host scaffoldId input stopped session) = .ok outcome →
        (stateOf (p.execute host scaffoldId input stopped session)).metrics.stagesCompleted +
            (stateOf (p.execute host scaffoldId input stopped session)).metrics.stagesFailed =
          session.metrics.stagesCompleted + session.metrics.stagesFailed +
            if (RunAct.entries walk).any Entry.repeated then 13 else 10 := by
  obtain ⟨walk, answer, hwalk, hwalked, hruns, hexecute⟩ :=
    p.execute_walks host hfound hinput stopped session
  obtain ⟨ending, outcome, hending, hended, hconclude⟩ := p.conclude_does host scaffold
    (p.begin scaffold document session).session.now answer
    (p.after host walk (p.begin scaffold document session))
  have hleft : stateOf (p.execute host scaffoldId input stopped session) =
      (p.after host (walk ++ ending) (p.begin scaffold document session)).session := by
    rw [hexecute, hconclude, stateOf_ended, after_append]
  have hcounts := hwalk.countsRun hending ((plays_append ..).mpr ⟨hwalked, hended⟩)
  rw [← hleft] at hcounts
  refine ⟨walk, answer, hwalk, hwalked, hruns, hcounts, fun result hok => ?_⟩
  rw [hexecute, hconclude, answerOf_ended] at hok
  have hanswer : answer = .ok () := by
    rw [hok] at hending
    cases hending
    rfl
  rw [hanswer] at hwalk
  rw [hcounts.total, hwalk.length_entries]

theorem execute_oneFrame_counts :
    ∃ p scaffold walk answer,
      Pipeline.ofConfig oneFrame "/" true = .ok p ∧
      p.registry.scaffolds.get? "check" = some scaffold ∧
      IsWalk p (p.begin scaffold (.obj []) emptySession).run false walk answer ∧
      CountsRun p emptySession.metrics
        (stateOf (p.execute refusing "check" (.obj []) false emptySession)) walk ∧
      (stateOf (p.execute refusing "check" (.obj []) false emptySession)).metrics.stagesFailed =
        1 ∧
      ((stateOf (p.execute refusing "check" (.obj []) false emptySession)).metrics.frameTally
        "probe").failures = 2 := by
  obtain ⟨p, scaffold, hconfig, hfound⟩ := exists_pipeline_oneFrame
  have hinput : runInput (.obj []) = .ok (.obj []) := rfl
  obtain ⟨walk, answer, hwalk, -, -, hcounts, -⟩ :=
    p.execute_counts refusing hfound hinput false emptySession
  refine ⟨p, scaffold, walk, answer, hconfig, hfound, hwalk, hcounts, ?_⟩
  obtain rfl := Except.ok.inj hconfig
  decide +kernel

end Pipeline

end ScaffoldRunner
