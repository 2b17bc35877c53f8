import ScaffoldRunner.Proofs.Action
import ScaffoldRunner.Proofs.Run.Entries
import ScaffoldRunner.Proofs.Run.Replies
import ScaffoldRunner.Run.Execution

/-!
# Acts of a run

What a run does to its session comes down to a few acts: it attempts a frame,
runs a command, changes the metrics, enters the result of a stage, writes a
report or saves the context.  An act tells what was asked and what the answer
was; `Pipeline.Plays` says that a list of acts tells the truth about a session,
and `Pipeline.after` is what they leave behind.

A step of a run `Does` some acts if they are true and lead exactly to where the
step ends.  This is the only place where the monad of runs is opened up.
-/

namespace ScaffoldRunner

/-- One thing that a run does.  An attempt or a command without an answer was
interrupted. -/
inductive RunAct where
  | attempt (call : FrameCall) (outcome : Option FrameOutcome)
  | command (argv : List String) (result : Option CommandResult)
  | count (change : Metrics → Metrics)
  | enter (entry : Entry)
  | report (subject : String) (document : Json) (path : Except OsError String)
  | save (task : String) (old : Option Json) (new : Json) (merged : Except ContextError Json)

variable {σ α β ε : Type}

/-- A file operation changes nothing in a session but the files. -/
theorem Session.onFiles_eq (op : EStateM ε FileTree α) (session : Session σ) :
    session.onFiles op = (answerOf (op session.world.files),
      { session with
        world := { session.world with files := stateOf (op session.world.files) } }) := by
  rw [onFiles]
  cases op session.world.files <;> rfl

theorem Session.files_onFiles (op : EStateM ε FileTree α) (session : Session σ) :
    (session.onFiles op).2.world.files = stateOf (op session.world.files) := by
  rw [onFiles_eq]

theorem Session.answer_onFiles (op : EStateM ε FileTree α) (session : Session σ) :
    (session.onFiles op).1 = answerOf (op session.world.files) := by
  rw [onFiles_eq]

namespace RunAct

def inSession (p : Pipeline) (host : Host σ) (session : Session σ) : RunAct → Session σ
  | attempt call _ => stateOf (call.tryOnce host p.contexts session)
  | command argv _ => stateOf (CommandResult.execute host p.commands argv session)
  | count change => session.count change
  | enter _ => session
  | report subject document _ =>
      (session.onFiles (p.reports.write subject session.now document)).2
  | save task old new _ =>
      (session.onFiles (p.contexts.saveMergedOver task session.now old new)).2

def inRun (now : Instant) (run : Run) : RunAct → Run
  | enter entry => run.enter now entry
  | _ => run

/-- What an act leaves behind. -/
def perform (p : Pipeline) (host : Host σ) (s : Progress σ) (act : RunAct) : Progress σ where
  session := act.inSession p host s.session
  run := act.inRun s.session.now s.run

/-- The answer that an act tells of is the one it gets. -/
def IsTrue (p : Pipeline) (host : Host σ) (session : Session σ) : RunAct → Prop
  | attempt call outcome =>
      (answerOf (call.tryOnce host p.contexts session)).toOption = outcome
  | command argv result =>
      (answerOf (CommandResult.execute host p.commands argv session)).toOption = result
  | report subject document path =>
      (session.onFiles (p.reports.write subject session.now document)).1 = path
  | save task old new merged =>
      (session.onFiles (p.contexts.saveMergedOver task session.now old new)).1 = merged
  | count _ => True
  | enter _ => True

/-- The entry that an act makes. -/
def entered? : RunAct → Option Entry
  | enter entry => some entry
  | _ => none

def call? : RunAct → Option FrameCall
  | attempt call _ => some call
  | _ => none

/-- The entries that are made by some acts. -/
def entries (acts : List RunAct) : List Entry := acts.filterMap entered?

/-- The calls that are attempted by some acts. -/
def calls (acts : List RunAct) : List FrameCall := acts.filterMap call?

@[simp] theorem entries_nil : entries [] = [] :=
  rfl

@[simp] theorem entries_append (before rest : List RunAct) :
    entries (before ++ rest) = entries before ++ entries rest :=
  List.filterMap_append

@[simp] theorem entries_cons (act : RunAct) (acts : List RunAct) :
    entries (act :: acts) = act.entered?.toList ++ entries acts := by
  cases h : act.entered? <;> simp [entries, h]

@[simp] theorem calls_nil : calls [] = [] :=
  rfl

@[simp] theorem calls_append (before rest : List RunAct) :
    calls (before ++ rest) = calls before ++ calls rest :=
  List.filterMap_append

@[simp] theorem calls_cons (act : RunAct) (acts : List RunAct) :
    calls (act :: acts) = act.call?.toList ++ calls acts := by
  cases h : act.call? <;> simp [calls, h]

end RunAct

namespace Pipeline

variable (p : Pipeline) (host : Host σ)

/-- What some acts leave behind. -/
def after (acts : List RunAct) (s : Progress σ) : Progress σ :=
  acts.foldl (RunAct.perform p host) s

/-- The acts tell the truth: each gets the answer that it tells of, after those
before it. -/
def Plays : Progress σ → List RunAct → Prop
  | _, [] => True
  | s, act :: acts => act.IsTrue p host s.session ∧ Plays (act.perform p host s) acts

variable {p host}

@[simp] theorem after_nil (s : Progress σ) : p.after host [] s = s :=
  rfl

@[simp] theorem after_cons (act : RunAct) (acts : List RunAct) (s : Progress σ) :
    p.after host (act :: acts) s = p.after host acts (act.perform p host s) :=
  rfl

theorem after_append (before rest : List RunAct) (s : Progress σ) :
    p.after host (before ++ rest) s = p.after host rest (p.after host before s) :=
  List.foldl_append

theorem plays_append (before rest : List RunAct) (s : Progress σ) :
    p.Plays host s (before ++ rest) ↔
      p.Plays host s before ∧ p.Plays host (p.after host before s) rest := by
  induction before generalizing s with
  | nil => simp [Plays]
  | cons act before ih =>
      rw [List.cons_append, Plays, Plays, ih, and_assoc]
      rfl

variable (p host)

/-- What the entries among some acts make of a run. -/
theorem reached_after {origin : Run} {past : List Entry} {s : Progress σ}
    (h : origin.Reached past s.run) (acts : List RunAct) :
    origin.Reached (past ++ RunAct.entries acts) (p.after host acts s).run := by
  induction acts generalizing past s with
  | nil => simpa using h
  | cons act acts ih =>
      rw [RunAct.entries_cons, ← List.append_assoc, after_cons]
      apply ih
      cases act with
      | enter entry => exact h.enter s.session.now entry
      | attempt | command | count | report | save =>
          simpa [RunAct.entered?, RunAct.perform, RunAct.inRun] using h

end Pipeline

/-! ## Steps and their acts -/

/-- A step of a run does some acts and answers. -/
def Does (p : Pipeline) (host : Host σ) (step : RunM σ α) (s : Progress σ)
    (acts : List RunAct) (answer : Except RunError α) : Prop :=
  p.Plays host s acts ∧ step s = ended answer (p.after host acts s)

/-- The answer of a step in the session, where an interruption aborts the run. -/
def RunM.settle : Option α → Except RunError α
  | some a => .ok a
  | none => .error (.aborted shutdownReason)

namespace Does

variable {p : Pipeline} {host : Host σ} {s : Progress σ}

theorem pure (a : α) : Does p host (Pure.pure a) s [] (.ok a) :=
  ⟨trivial, rfl⟩

theorem throw (e : RunError) :
    Does p host (MonadExcept.throw e : RunM σ α) s [] (.error e) :=
  ⟨trivial, rfl⟩

/-- A step that goes on with what another one answered. -/
theorem bind {step : RunM σ α} {f : α → RunM σ β} {acts more : List RunAct} {a : α}
    {answer : Except RunError β}
    (hstep : Does p host step s acts (.ok a))
    (hnext : Does p host (f a) (p.after host acts s) more answer) :
    Does p host (step >>= f) s (acts ++ more) answer := by
  refine ⟨(Pipeline.plays_append ..).mpr ⟨hstep.1, hnext.1⟩, ?_⟩
  rw [Pipeline.after_append, ← hnext.2]
  exact bind_of_ok hstep.2 f

/-- A step that fails because another one does. -/
theorem bind_error {step : RunM σ α} (f : α → RunM σ β) {acts : List RunAct}
    {e : RunError} (hstep : Does p host step s acts (.error e)) :
    Does p host (step >>= f) s acts (.error e) :=
  ⟨hstep.1, bind_of_error hstep.2 f⟩

/-- A step that only changes the form of an answer. -/
theorem bind_pure {step : RunM σ α} (g : α → β) {acts : List RunAct} {a : α}
    (hstep : Does p host step s acts (.ok a)) :
    Does p host (step >>= fun a => Pure.pure (g a)) s acts (.ok (g a)) := by
  have h := hstep.bind (f := fun a => Pure.pure (g a)) (Does.pure (g a))
  rwa [List.append_nil] at h

/-- A step that looks at the progress first. -/
theorem get_bind {f : Progress σ → RunM σ β} {acts : List RunAct}
    {answer : Except RunError β} (hnext : Does p host (f s) s acts answer) :
    Does p host (get >>= f) s acts answer :=
  hnext

theorem count (change : Metrics → Metrics) :
    Does p host (RunM.count change) s [.count change] (.ok ()) :=
  ⟨⟨trivial, trivial⟩, rfl⟩

theorem enter (repeated : Bool) (result : StageResult) :
    Does p host (RunM.enter repeated result) s [.enter ⟨repeated, result⟩] (.ok ()) :=
  ⟨⟨trivial, trivial⟩, rfl⟩

theorem writeReport (p : Pipeline) (host : Host σ) (s : Progress σ) (subject : String)
    (document : Json) :
    ∃ path, Does p host (RunM.writeReport p.reports subject document) s
      [.report subject document path] (path.mapError RunError.io) := by
  refine ⟨_, ⟨rfl, trivial⟩, ?_⟩
  unfold RunM.writeReport
  rcases h : s.session.onFiles (p.reports.write subject s.session.now document) with
    ⟨path, session⟩
  cases path <;> simp [ended, RunAct.perform, RunAct.inSession, RunAct.inRun, h, Except.mapError]

/-! ### Steps in the session -/

theorem inSession_bind (step : SessionM σ α) (f : α → SessionM σ β) :
    RunM.inSession (step >>= f) =
      RunM.inSession step >>= fun a => RunM.inSession (f a) := by
  funext s
  simp only [RunM.inSession, Bind.bind, EStateM.bind]
  cases step s.session <;> rfl

theorem inSession_modify (change : Metrics → Metrics) :
    Does p host (RunM.inSession (modify (Session.count change))) s [.count change]
      (.ok ()) :=
  ⟨⟨trivial, trivial⟩, rfl⟩

theorem attempt (p : Pipeline) (host : Host σ) (s : Progress σ) (call : FrameCall) :
    ∃ outcome, Does p host (RunM.inSession (call.tryOnce host p.contexts)) s
      [.attempt call outcome] (RunM.settle outcome) := by
  refine ⟨_, ⟨rfl, trivial⟩, ?_⟩
  unfold RunM.inSession
  cases h : call.tryOnce host p.contexts s.session <;>
    simp [ended, RunAct.perform, RunAct.inSession, RunAct.inRun, h, stateOf, answerOf,
      RunM.settle, Except.toOption]

theorem command (p : Pipeline) (host : Host σ) (s : Progress σ) (argv : List String) :
    ∃ result, Does p host
      (RunM.inSession (CommandResult.execute host p.commands argv)) s
      [.command argv result] (RunM.settle result) := by
  refine ⟨_, ⟨rfl, trivial⟩, ?_⟩
  unfold RunM.inSession
  cases h : CommandResult.execute host p.commands argv s.session <;>
    simp [ended, RunAct.perform, RunAct.inSession, RunAct.inRun, h, stateOf, answerOf,
      RunM.settle, Except.toOption]

end Does

/-! ## Calls that the host receives

A host that keeps a record of the frames that it is called for finds in it,
after a run, the calls that the run has attempted, but for those whose input was
refused.  So what is said of the calls among the acts of a run is said of what
happens outside of it. -/

section Calls

variable {σ α ε : Type}

/-- A record of the calls of frames is kept in the state of the host. -/
structure Host.Records (host : Host σ) (log : σ → List FrameCall) : Prop where
  callFrame : ∀ call world,
    log (host.callFrame call world).2.state = log world.state ++ [call]
  runProgram : ∀ call world, log (host.runProgram call world).2.state = log world.state

/-- The calls that reach the host. -/
def RunAct.received (acts : List RunAct) : List FrameCall :=
  (calls acts).filter fun call => call.inputRefusal?.isNone

@[simp] theorem RunAct.received_cons (act : RunAct) (acts : List RunAct) :
    received (act :: acts) = received [act] ++ received acts := by
  rw [received, calls_cons, List.filter_append, received, calls_cons, calls_nil,
    List.append_nil]
  rfl

theorem Session.onFiles_state (op : EStateM ε FileTree α) (session : Session σ) :
    (session.onFiles op).2.world.state = session.world.state := by
  rw [onFiles_eq]

/-- What follows an attempt does not reach the host. -/
theorem FrameCall.concludeAttempt_state (store : ContextStore) (call : FrameCall)
    (began : Instant) (outcome : FrameOutcome) (session : Session σ) :
    (call.concludeAttempt store began outcome session).world.state =
      session.world.state := by
  cases outcome with
  | error e => rfl
  | ok result =>
      change (call.keepSnapshot store result _).world.state = _
      unfold keepSnapshot
      split
      · exact Session.onFiles_state _ _
      · rfl

namespace Host.Records

variable {host : Host σ} {log : σ → List FrameCall}

theorem reply (h : host.Records log) (call : FrameCall) (world : World σ) :
    log (call.reply host world).2.state =
      log world.state ++ RunAct.received [.attempt call none] := by
  unfold FrameCall.reply
  cases hrefusal : call.inputRefusal? with
  | some reason => simp [RunAct.received, RunAct.call?, hrefusal]
  | none =>
      have hlog := h.callFrame call world
      rcases hcall : host.callFrame call world with ⟨outcome | _, after⟩
      · rw [hcall] at hlog
        simpa [RunAct.received, RunAct.call?, hrefusal] using hlog
      · rw [hcall] at hlog
        simpa [RunAct.received, RunAct.call?, hrefusal] using hlog

theorem tryOnce (h : host.Records log) (store : ContextStore) (call : FrameCall)
    (session : Session σ) :
    log (stateOf (call.tryOnce host store session)).world.state =
      log session.world.state ++ RunAct.received [.attempt call none] := by
  rw [← h.reply call session.world, FrameCall.tryOnce_eq]
  rcases call.reply host session.world with ⟨outcome | _, world⟩
  · exact congrArg log (call.concludeAttempt_state store session.now outcome _)
  · rfl

theorem commandReply (h : host.Records log) (settings : CommandSettings)
    (argv : List String) (world : World σ) :
    log (CommandResult.reply host settings argv world).2.state = log world.state := by
  cases argv with
  | nil => rfl
  | cons program args =>
      rw [CommandResult.reply, ← h.runProgram _ world]
      rcases host.runProgram _ world with ⟨_ | _, after⟩ <;> rfl

theorem execute (h : host.Records log) (settings : CommandSettings) (argv : List String)
    (session : Session σ) :
    log (stateOf (CommandResult.execute host settings argv session)).world.state =
      log session.world.state := by
  rw [← h.commandReply settings argv session.world, CommandResult.execute_eq]
  rcases CommandResult.reply host settings argv session.world with ⟨_ | _, world⟩ <;> rfl

/-- Of all acts, only attempts leave a trace in the record. -/
theorem inSession (h : host.Records log) (p : Pipeline) (act : RunAct) (session : Session σ) :
    log (act.inSession p host session).world.state =
      log session.world.state ++ RunAct.received [act] := by
  cases act with
  | attempt call outcome => exact h.tryOnce p.contexts call session
  | command argv result =>
      exact (h.execute p.commands argv session).trans (List.append_nil _).symm
  | count change => exact (List.append_nil _).symm
  | enter entry => exact (List.append_nil _).symm
  | report subject document path =>
      refine Eq.trans (congrArg log ?_) (List.append_nil _).symm
      exact Session.onFiles_state _ session
  | save task old new merged =>
      refine Eq.trans (congrArg log ?_) (List.append_nil _).symm
      exact Session.onFiles_state _ session

/-- The record of a host tells which calls were attempted. -/
theorem after (h : host.Records log) (p : Pipeline) (acts : List RunAct) (s : Progress σ) :
    log (p.after host acts s).session.world.state =
      log s.session.world.state ++ RunAct.received acts := by
  induction acts generalizing s with
  | nil => exact (List.append_nil _).symm
  | cons act acts ih =>
      rw [Pipeline.after_cons, ih, RunAct.received_cons, ← List.append_assoc]
      exact congrArg (· ++ _) (h.inSession p act s.session)

end Host.Records

end Calls

end ScaffoldRunner
