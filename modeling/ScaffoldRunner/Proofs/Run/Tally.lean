import ScaffoldRunner.Proofs.Run.Effects
import ScaffoldRunner.Proofs.Run.Ending
import ScaffoldRunner.Proofs.Run.Replies
import ScaffoldRunner.Proofs.Run.Steps

/-!
# The tally of runs

Among much else the metrics count the runs that were started, completed and
failed, and name the state of the latest one.  Nothing that a run does in its
stages touches this tally: it changes when a run begins, when its stages are
over, and when the run cannot be finished after them.
-/

namespace ScaffoldRunner

/-- What the metrics tell about whole runs. -/
structure RunTally where
  started : Nat
  completed : Nat
  failed : Nat
  state : String

namespace RunTally

/-- The tally when a run begins. -/
def begun (t : RunTally) : RunTally := { t with started := t.started + 1, state := "running" }

/-- The tally when a run is over.  A run is counted by its stages alone; the state
also tells whether it could be finished after them. -/
def ended (walked finished : Bool) (t : RunTally) : RunTally where
  started := t.started
  completed := t.completed + walked.toNat
  failed := t.failed + (!walked).toNat
  state := if finished then "completed" else "failed"

end RunTally

namespace Metrics

def tally (m : Metrics) : RunTally where
  started := m.runsStarted
  completed := m.runsCompleted
  failed := m.runsFailed
  state := m.runState

variable (m : Metrics)

theorem tally_setState (state : String) :
    (m.setState state).tally = { m.tally with state := state } := by
  unfold setState
  split
  · next hstate => simp [tally, hstate]
  · rfl

theorem tally_frameTimedOut (frame : String) : (m.frameTimedOut frame).tally = m.tally := by
  unfold frameTimedOut
  split <;> rfl

end Metrics

theorem CountsProgress.tally {change : Metrics → Metrics} (h : CountsProgress change)
    (m : Metrics) : (change m).tally = m.tally := by
  cases h with
  | retried | skipped => rfl
  | ended success => cases success <;> rfl

variable {σ α ε : Type}

theorem Session.metrics_onFiles (op : EStateM ε FileTree α) (session : Session σ) :
    (session.onFiles op).2.metrics = session.metrics := by
  rw [onFiles_eq]

/-- The snapshot of a success is nothing that is counted. -/
theorem FrameCall.metrics_concludeAttempt (store : ContextStore) (call : FrameCall)
    (began : Instant) (outcome : FrameOutcome) (session : Session σ) :
    (call.concludeAttempt store began outcome session).metrics =
      (call.countAttempt began outcome session).metrics := by
  cases outcome with
  | error e => rfl
  | ok result =>
      change (call.keepSnapshot store result _).metrics = _
      unfold keepSnapshot
      split
      · exact Session.metrics_onFiles _ _
      · rfl

/-- An attempt is counted for its frame only. -/
theorem FrameCall.tally_concludeAttempt (store : ContextStore) (call : FrameCall)
    (began : Instant) (outcome : FrameOutcome) (session : Session σ) :
    (call.concludeAttempt store began outcome session).metrics.tally =
      session.metrics.tally := by
  rw [metrics_concludeAttempt]
  unfold countAttempt
  change Metrics.tally (if _ then _ else _) = _
  split
  · exact Metrics.tally_frameTimedOut _ _
  · rfl

namespace RunAct

/-- An act that leaves the tally of runs alone. -/
def KeepsTally : RunAct → Prop
  | count change => ∀ m, (change m).tally = m.tally
  | attempt .. | command .. | enter _ | report .. | save .. => True

theorem KeepsTally.inSession {act : RunAct} (h : act.KeepsTally) (p : Pipeline)
    (host : Host σ) (session : Session σ) :
    (act.inSession p host session).metrics.tally = session.metrics.tally := by
  cases act with
  | count change => exact h session.metrics
  | enter entry => rfl
  | attempt call outcome =>
      change (stateOf (call.tryOnce host p.contexts session)).metrics.tally = _
      rw [FrameCall.tryOnce_eq]
      rcases call.reply host session.world with ⟨outcome | _, world⟩
      · exact call.tally_concludeAttempt p.contexts session.now outcome _
      · rfl
  | command argv result =>
      change (stateOf (CommandResult.execute host p.commands argv session)).metrics.tally = _
      rw [CommandResult.execute_eq]
      rcases CommandResult.reply host p.commands argv session.world with ⟨_ | _, world⟩ <;> rfl
  | report | save => exact congrArg Metrics.tally (Session.metrics_onFiles _ session)

theorem IsStep.keepsTally {p : Pipeline} {origin : Run} {act : RunAct}
    (h : act.IsStep p origin) : act.KeepsTally := by
  cases h with
  | count change hcounts => exact hcounts.tally
  | attempt | command | enter | report => trivial

end RunAct

theorem IsFinish.keepsTally {scaffold : Scaffold} {run : Run} {acts : List RunAct}
    {answer : Except RunError RunOutcome} (h : IsFinish scaffold run acts answer) :
    ∀ act ∈ acts, act.KeepsTally := by
  cases h with
  | unsaved hsaving => cases hsaving; simp [RunAct.KeepsTally]
  | saved hsaving hreporting =>
      cases hsaving <;> cases hreporting <;> simp [RunAct.KeepsTally]

namespace Pipeline

variable (p : Pipeline) (host : Host σ)

theorem tally_after {acts : List RunAct} (h : ∀ act ∈ acts, act.KeepsTally) (s : Progress σ) :
    (p.after host acts s).session.metrics.tally = s.session.metrics.tally := by
  induction acts generalizing s with
  | nil => rfl
  | cons act acts ih =>
      rw [List.forall_mem_cons] at h
      exact (ih h.2 _).trans (h.1.inSession p host s.session)

theorem tally_begin (scaffold : Scaffold) (input : Json) (session : Session σ) :
    (p.begin scaffold input session).session.metrics.tally = session.metrics.tally.begun :=
  session.metrics.runBegan.tally_setState "running"

theorem tally_failing {change : Metrics → Metrics} {run : Run} {e : RunError}
    {acts : List RunAct} (h : IsFailing change run e acts) (s : Progress σ) :
    (p.after host acts s).session.metrics.tally = (change s.session.metrics).tally := by
  cases h with
  | reported document path => exact congrArg Metrics.tally (Session.metrics_onFiles _ _)

/-- What an ending counts depends on how the stages and the run have ended. -/
theorem tally_ending {scaffold : Scaffold} {run : Run} {answer : Except RunError Unit}
    {ending : List RunAct} {outcome : Except RunError RunOutcome}
    (h : IsEnding scaffold run answer ending outcome) (s : Progress σ) :
    (p.after host ending s).session.metrics.tally =
      s.session.metrics.tally.ended answer.isOk outcome.isOk := by
  have hdone (millis : Nat) {acts : List RunAct} (hkeeps : ∀ act ∈ acts, act.KeepsTally) :
      (p.after host (.count (Metrics.markDone millis) :: acts) s).session.metrics.tally =
        s.session.metrics.tally.ended true true :=
    (p.tally_after host hkeeps _).trans
      ((s.session.metrics.runDone millis).tally_setState "completed")
  cases h with
  | completed millis hfinish => exact hdone millis hfinish.keepsTally
  | @unfinished millis acts failing e hfinish hfailing =>
      have hfinished := hdone millis hfinish.keepsTally
      rw [after_cons] at hfinished
      rw [List.cons_append, after_cons, after_append, p.tally_failing host hfailing,
        Metrics.markUnfinished, Metrics.tally_setState, hfinished]
      rfl
  | failed millis e hfailing =>
      rw [p.tally_failing host hfailing]
      exact (s.session.metrics.runBroke millis).tally_setState "failed"

/-- The stages themselves leave the tally alone. -/
theorem tally_walk {scaffold : Scaffold} {stopped : Bool} {walk ending : List RunAct}
    {answer : Except RunError Unit} {outcome : Except RunError RunOutcome} {start : Progress σ}
    {run : Run} (hwalk : IsWalk p start.run stopped walk answer)
    (hending : IsEnding scaffold run answer ending outcome) :
    (p.after host (walk ++ ending) start).session.metrics.tally =
      start.session.metrics.tally.ended answer.isOk outcome.isOk := by
  have hsteps : ∀ act ∈ walk, act.KeepsTally :=
    fun act hact => (hwalk.isStep act hact).keepsTally
  rw [after_append, p.tally_ending host hending, p.tally_after host hsteps]

/-- Running a scaffold counts the run once when it begins and once when its stages
are over. -/
theorem tally_execute {scaffoldId : String} {scaffold : Scaffold} {input document : Json}
    (hfound : p.registry.scaffolds.get? scaffoldId = some scaffold)
    (hinput : runInput input = .ok document) (stopped : Bool) (session : Session σ) :
    (stateOf (p.execute host scaffoldId input stopped session)).metrics.tally =
      session.metrics.tally.begun.ended
        (answerOf (p.runUnlessStopped host stopped (p.begin scaffold document session))).isOk
        (answerOf (p.execute host scaffoldId input stopped session)).isOk := by
  obtain ⟨walk, answer, hwalk, -, hwalked, hexecute⟩ :=
    p.execute_walks host hfound hinput stopped session
  obtain ⟨ending, outcome, hending, -, hconclude⟩ := p.conclude_does host scaffold
    (p.begin scaffold document session).session.now answer
    (p.after host walk (p.begin scaffold document session))
  rw [hexecute, hwalked, hconclude, stateOf_ended, answerOf_ended, answerOf_ended,
    ← after_append, p.tally_walk host hwalk hending, p.tally_begin]

end Pipeline

/-! ## Calls one after another

A pipeline serves calls one after another.  Its metrics and histories are carried
from each call to the next one; the world may be a different one every time.  A
call that is refused leaves no trace.  All others are counted as started, and as
completed or failed by what became of their stages: a run that cannot be
finished after its stages still counts as completed. -/

section Service

variable {σ : Type}

/-- A call to run a scaffold, in the world that it finds. -/
structure RunCall (σ : Type) where
  host : Host σ
  scaffoldId : String
  input : Json
  stopped : Bool
  world : World σ

/-- A call that was served, with the sessions before and after it. -/
structure Served (σ : Type) where
  call : RunCall σ
  before : Session σ
  answer : Except RunError RunOutcome
  after : Session σ

namespace Pipeline

/-- Serve one call. -/
def respond (p : Pipeline) (session : Session σ) (call : RunCall σ) : Served σ :=
  let found := { session with world := call.world }
  let result := p.execute call.host call.scaffoldId call.input call.stopped found
  { call := call, before := found, answer := answerOf result, after := stateOf result }

def serve (p : Pipeline) : List (RunCall σ) → Session σ → List (Served σ)
  | [], _ => []
  | call :: calls, session =>
      let served := p.respond session call
      served :: p.serve calls served.after

def sessionAfter (p : Pipeline) (calls : List (RunCall σ)) (session : Session σ) : Session σ :=
  calls.foldl (fun session call => (p.respond session call).after) session

end Pipeline

/-- The scaffold of a call is known, and its input is an object or stands for
one. -/
def RunCall.isAccepted (p : Pipeline) (call : RunCall σ) : Bool :=
  p.registry.scaffolds.has call.scaffoldId && (Pipeline.runInput call.input).isOk

namespace Served

/-- The call was answered with a completed run. -/
def isCompleted (served : Served σ) : Bool := served.answer.isOk

/-- The call was accepted, and answered with an error. -/
def isFailed (p : Pipeline) (served : Served σ) : Bool :=
  served.call.isAccepted p && !served.answer.isOk

/-- All stages were gone through, and the answer was an error even so. -/
def isUnfinished (p : Pipeline) (served : Served σ) : Bool :=
  match p.registry.scaffolds.get? served.call.scaffoldId,
    Pipeline.runInput served.call.input with
  | some scaffold, .ok document =>
      (answerOf (p.runUnlessStopped served.call.host served.call.stopped
        (p.begin scaffold document served.before))).isOk && !served.answer.isOk
  | _, _ => false

end Served

variable {p : Pipeline} {call : RunCall σ} {session : Session σ}

theorem RunCall.isAccepted_iff :
    call.isAccepted p = true ↔ ∃ scaffold document,
      p.registry.scaffolds.get? call.scaffoldId = some scaffold ∧
        Pipeline.runInput call.input = .ok document := by
  rw [isAccepted, Bool.and_eq_true, Dict.has_iff]
  cases Pipeline.runInput call.input <;> simp [Except.isOk, Except.toBool]

namespace Pipeline

/-- A call that is refused changes nothing. -/
theorem respond_of_refused (h : call.isAccepted p = false) (session : Session σ) :
    (p.respond session call).isUnfinished p = false ∧
      (p.respond session call).answer.isOk = false ∧
      (p.respond session call).after = (p.respond session call).before := by
  simp only [respond, Served.isUnfinished, execute]
  cases hfound : p.registry.scaffolds.get? call.scaffoldId with
  | none => exact ⟨rfl, rfl, rfl⟩
  | some scaffold =>
      cases hinput : runInput call.input with
      | error e => exact ⟨rfl, rfl, rfl⟩
      | ok document =>
          have haccepted := RunCall.isAccepted_iff.mpr ⟨scaffold, document, hfound, hinput⟩
          rw [h] at haccepted
          exact absurd haccepted (by simp)

/-- A run that is completed has gone through its stages. -/
theorem isOk_of_conclude {scaffold : Scaffold} {began : Instant}
    {result : EStateM.Result RunError (Progress σ) Unit}
    (h : (answerOf (p.conclude scaffold began result)).isOk = true) :
    (answerOf result).isOk = true := by
  cases result with
  | ok u s => rfl
  | error e s => simp [conclude, answerOf, Except.isOk, Except.toBool] at h

/-- The tally tells how the stages of an accepted call and its whole run have
ended. -/
theorem respond_of_accepted (h : call.isAccepted p = true) (session : Session σ) :
    ∃ walked : Bool,
      ((p.respond session call).answer.isOk = true → walked = true) ∧
      (p.respond session call).isUnfinished p =
        (walked && !(p.respond session call).answer.isOk) ∧
      (p.respond session call).after.metrics.tally =
        session.metrics.tally.begun.ended walked (p.respond session call).answer.isOk := by
  obtain ⟨scaffold, document, hfound, hinput⟩ := RunCall.isAccepted_iff.mp h
  refine ⟨(answerOf (p.runUnlessStopped call.host call.stopped
    (p.begin scaffold document (p.respond session call).before))).isOk, ?_, ?_, ?_⟩
  · intro hok
    change (answerOf (p.execute ..)).isOk = true at hok
    rw [execute_eq hfound hinput] at hok
    exact isOk_of_conclude hok
  · have hcall : (p.respond session call).call = call := rfl
    rw [Served.isUnfinished, hcall, hfound, hinput]
  · exact p.tally_execute call.host hfound hinput call.stopped _

/-- What one call adds to the counts. -/
theorem respond_counts (session : Session σ) (call : RunCall σ) :
    let served := p.respond session call
    served.after.metrics.runsStarted =
      session.metrics.runsStarted + (if call.isAccepted p then 1 else 0) ∧
    served.after.metrics.runsCompleted =
      session.metrics.runsCompleted + (if served.isCompleted then 1 else 0) +
        (if served.isUnfinished p then 1 else 0) ∧
    served.after.metrics.runsFailed + (if served.isUnfinished p then 1 else 0) =
      session.metrics.runsFailed + (if served.isFailed p then 1 else 0) ∧
    (call.isAccepted p = true →
      served.after.metrics.runState = if served.answer.isOk then "completed" else "failed") := by
  intro served
  have hcall : served.isFailed p = (call.isAccepted p && !served.answer.isOk) := rfl
  rw [hcall, Served.isCompleted]
  cases haccepted : call.isAccepted p with
  | false =>
      obtain ⟨hunfinished, hanswer, hafter⟩ := respond_of_refused haccepted session
      rw [hunfinished, hanswer, hafter]
      simp [respond]
  | true =>
      obtain ⟨walked, hwalked, hunfinished, htally⟩ := respond_of_accepted haccepted session
      have hstarted := congrArg RunTally.started htally
      have hcompleted := congrArg RunTally.completed htally
      have hfailed := congrArg RunTally.failed htally
      have hstate := congrArg RunTally.state htally
      change served.after.metrics.runsStarted = session.metrics.runsStarted + 1 at hstarted
      change served.after.metrics.runsCompleted =
        session.metrics.runsCompleted + walked.toNat at hcompleted
      change served.after.metrics.runsFailed =
        session.metrics.runsFailed + (!walked).toNat at hfailed
      -- Whatever became of the stages and of the whole run, it is counted once.
      have hbooked : ∀ walked completed : Bool, (completed = true → walked = true) →
          walked.toNat =
            (if completed then 1 else 0) + (if walked && !completed then 1 else 0) ∧
          (!walked).toNat + (if walked && !completed then 1 else 0) =
            if true && !completed then 1 else 0 := by
        decide
      obtain ⟨hcompletion, hfailure⟩ := hbooked walked _ hwalked
      rw [hunfinished, hstarted, hcompleted, hfailed]
      refine ⟨rfl, ?_, ?_, fun _ => hstate⟩
      · rw [hcompletion, Nat.add_assoc]
      · rw [Nat.add_assoc, hfailure]

/-- After any number of calls the metrics count the accepted calls as started, and
the completed runs as completed.  A run whose stages went well but which could
not be finished is counted as completed, too, and not as failed, although its
state is failed; all other failures of accepted calls are counted as failed.  A
refused call leaves the session as it finds it. -/
theorem serve_counts (p : Pipeline) (calls : List (RunCall σ)) (session : Session σ) :
    let served := p.serve calls session
    let final := (p.sessionAfter calls session).metrics
    final.runsStarted =
      session.metrics.runsStarted + served.countP (fun r => r.call.isAccepted p) ∧
    final.runsCompleted =
      session.metrics.runsCompleted + served.countP Served.isCompleted +
        served.countP (Served.isUnfinished p) ∧
    final.runsFailed + served.countP (Served.isUnfinished p) =
      session.metrics.runsFailed + served.countP (Served.isFailed p) ∧
    ∀ r ∈ served,
      (r.call.isAccepted p = true →
        r.after.metrics.runState = if r.answer.isOk then "completed" else "failed") ∧
      (r.call.isAccepted p = false → r.answer.isOk = false ∧ r.after = r.before) := by
  induction calls generalizing session with
  | nil => simp [serve, sessionAfter]
  | cons call calls ih =>
      obtain ⟨hstarted, hcompleted, hfailed, hrest⟩ := ih (p.respond session call).after
      obtain ⟨hbegun, hdone, hbroken, hstate⟩ := p.respond_counts session call
      have hcall : (p.respond session call).call = call := rfl
      simp only [serve, sessionAfter, List.foldl_cons, List.countP_cons, List.forall_mem_cons,
        hcall] at *
      refine ⟨by omega, by omega, by omega, ⟨hstate, fun hrefused => ?_⟩, hrest⟩
      exact (respond_of_refused hrefused session).2

/-- A call that finds a directory in the place of the context of its scaffold. -/
def blocked : RunCall (List FrameCall) where
  host := recommending
  scaffoldId := "check"
  input := .null
  stopped := false
  world := { emptySession.world with
    files := { entries := [(["context_preservation"], .dir),
      (["context_preservation", "check_context.json"], .dir)] } }

/-- A call can be answered with an error and be counted as completed. -/
theorem serve_blocked_counts :
    ∃ p, Pipeline.ofConfig oneFrame "/" true = .ok p ∧
      (p.serve [blocked] emptySession).countP Served.isCompleted = 0 ∧
      (p.serve [blocked] emptySession).countP (Served.isFailed p) = 1 ∧
      (p.sessionAfter [blocked] emptySession).metrics.runsCompleted = 1 ∧
      (p.sessionAfter [blocked] emptySession).metrics.runsFailed = 0 := by
  refine ⟨_, rfl, ?_⟩
  decide +kernel

end Pipeline

end Service

end ScaffoldRunner
