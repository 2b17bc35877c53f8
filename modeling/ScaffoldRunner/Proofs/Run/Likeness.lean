import ScaffoldRunner.Proofs.Action
import ScaffoldRunner.Proofs.Registry
import ScaffoldRunner.Proofs.Run.Replies
import ScaffoldRunner.Proofs.Run.Steps
import ScaffoldRunner.Proofs.Workspace.Likeness

/-!
# Sessions that are alike but for a place

If no single step of a run can tell two states of progress apart, then the stages
of the run cannot either: from related states they go the same way and come to
related states.  The results of stages need not be equal, as long as the run does
not look at what makes them different.

A run never looks at the context that is to be replaced.  So when the host does not
look there either, sessions whose files differ at this place only cannot be told
apart by the run, as long as the directories that it makes do not lead through the
place.
-/

namespace ScaffoldRunner

/-! ## Steps that cannot tell states apart -/

section Simulation

variable {σ : Type}

/-- No step of a run tells related states of progress apart, or related results. -/
structure Pipeline.Simulates (p : Pipeline) (host : Host σ) (R : Progress σ → Progress σ → Prop)
    (Q : StageResult → StageResult → Prop) : Prop where
  scaffoldId : ∀ {s t}, R s t → s.run.scaffoldId = t.run.scaffoldId
  failedStages : ∀ {s t}, R s t → s.run.failedStages = t.run.failedStages
  refl : ∀ result, Q result result
  isSuccessful : ∀ {result result'}, Q result result' → result.isSuccessful = result'.isSuccessful
  frame : ∀ {scaffold stage frame}, frame ∈ p.registry.framesFor scaffold stage →
    Agree R Eq (p.runFrame host stage frame) (p.runFrame host stage frame)
  count : ∀ {change}, CountsProgress change → Agree R Eq (RunM.count change) (RunM.count change)
  enter : ∀ {result result'} (retrying), Q result result' →
    Agree R Eq (RunM.enter retrying result) (RunM.enter retrying result')
  audit : ∀ result : StageResult, Agree R
    (fun outcome outcome' =>
      Q { result with status := .metaAuditComplete, audit := some outcome }
        { result with status := .metaAuditComplete, audit := some outcome' })
    p.audit p.audit
  publish : p.skipPush = false →
    Agree R Eq (RunM.inSession (Publication.publish host p.commands))
      (RunM.inSession (Publication.publish host p.commands))

namespace Pipeline.Simulates

variable {p : Pipeline} {host : Host σ} {R : Progress σ → Progress σ → Prop}
  {Q : StageResult → StageResult → Prop}

theorem conclude (h : p.Simulates host R Q) (retrying : Bool) {result result' : StageResult}
    (hresult : Q result result') :
    Agree R Eq (RunM.conclude retrying result) (RunM.conclude retrying result') := by
  unfold RunM.conclude
  rw [h.isSuccessful hresult]
  exact (h.count (.ended _)).bind_eq fun _ => h.enter retrying hresult

theorem accept (h : p.Simulates host R Q) (retrying : Bool) (result : StageResult) :
    Agree R Eq (Pipeline.accept retrying result) (Pipeline.accept retrying result) := by
  unfold Pipeline.accept
  split
  · exact .pure rfl
  · refine (h.count (.ended false)).bind_eq fun _ => ?_
    exact (h.enter retrying (h.refl _)).bind_eq fun _ => .throw _

theorem runFrames (h : p.Simulates host R Q) (stage : Stage) (retrying : Bool) :
    Agree R Eq (p.runFrames host stage retrying) (p.runFrames host stage retrying) := by
  refine Agree.get_bind fun s t hst => ?_
  simp only [h.scaffoldId hst]
  split
  · exact .pure rfl
  · exact (Agree.mapM fun frame hframe => h.frame hframe).bind_eq fun _ => h.accept retrying _

theorem repeatStage (h : p.Simulates host R Q) (stage : Stage) :
    Agree R Eq (p.repeatStage host stage) (p.repeatStage host stage) :=
  (h.runFrames stage true).bind_eq fun result =>
    (h.conclude true (h.refl result)).bind_eq fun _ => .pure rfl

theorem retry (h : p.Simulates host R Q) : Agree R Eq (p.retry host) (p.retry host) := by
  refine Agree.get_bind fun s t hst => ?_
  simp only [h.failedStages hst]
  split
  · exact .pure rfl
  · exact (Agree.mapM fun stage _ => h.repeatStage stage).bind_eq fun _ => .pure rfl

/-- Only the audit may tell results apart. -/
theorem completeStage (h : p.Simulates host R Q) (result : StageResult) :
    Agree R Q (p.completeStage host result) (p.completeStage host result) := by
  unfold Pipeline.completeStage
  split
  · refine h.retry.bind_eq fun outcome => ?_
    cases outcome <;> exact .pure (h.refl _)
  · exact (h.audit result).bind fun _ _ houtcomes => .pure houtcomes
  · split
    · exact (h.count .skipped).bind_eq fun _ => .pure (h.refl _)
    · next hpush =>
        exact (h.publish (Bool.eq_false_iff.mpr hpush)).bind_eq fun _ => .pure (h.refl _)
  · exact .pure (h.refl _)

theorem runStage (h : p.Simulates host R Q) (stage : Stage) :
    Agree R Eq (p.runStage host stage) (p.runStage host stage) :=
  (h.runFrames stage false).bind_eq fun result =>
    (h.completeStage result).bind fun _ _ hresults => h.conclude false hresults

/-- The stages cannot tell related states of progress apart. -/
theorem runUnlessStopped (h : p.Simulates host R Q) (stopped : Bool) :
    Agree R Eq (p.runUnlessStopped host stopped) (p.runUnlessStopped host stopped) := by
  unfold Pipeline.runUnlessStopped
  split
  · exact .throw _
  · exact Agree.forM h.runStage Stage.all

end Pipeline.Simulates

end Simulation

open FileTree

variable {σ α ε : Type} {hidden : List String}

/-! ## Worlds and sessions -/

def World.withFiles (world : World σ) (files : FileTree) : World σ := { world with files := files }

def Session.withFiles (session : Session σ) (files : FileTree) : Session σ :=
  { session with world := session.world.withFiles files }

/-- Two worlds are alike but for what lies at a place. -/
def World.AlikeBut (hidden : List String) (world other : World σ) : Prop :=
  ∃ files, other = world.withFiles files ∧ world.files.AlikeBut hidden files

/-- Two sessions are alike but for what lies at a place. -/
def Session.AlikeBut (hidden : List String) (session other : Session σ) : Prop :=
  ∃ files, other = session.withFiles files ∧ session.world.files.AlikeBut hidden files

/-- Two states of progress are alike but for what lies at a place. -/
structure Progress.AlikeBut (hidden : List String) (s t : Progress σ) : Prop where
  session : s.session.AlikeBut hidden t.session
  run : s.run = t.run
  named : Config.isId s.run.scaffoldId = true

/-- The same reply, in worlds that are alike but for a place. -/
def SameReply (hidden : List String) (left right : Reply α × World σ) : Prop :=
  left.1 = right.1 ∧ left.2.AlikeBut hidden right.2

/-- A host whose replies do not depend on what lies at a place. -/
structure Host.Overlooks (host : Host σ) (hidden : List String) : Prop where
  callFrame : ∀ call {world other}, world.AlikeBut hidden other →
    SameReply hidden (host.callFrame call world) (host.callFrame call other)
  runProgram : ∀ call {world other}, world.AlikeBut hidden other →
    SameReply hidden (host.runProgram call world) (host.runProgram call other)

namespace Session.AlikeBut

variable {session other : Session σ}

theorem now_eq (h : session.AlikeBut hidden other) : session.now = other.now := by
  obtain ⟨files, rfl, -⟩ := h
  rfl

theorem world (h : session.AlikeBut hidden other) : session.world.AlikeBut hidden other.world := by
  obtain ⟨files, rfl, hfiles⟩ := h
  exact ⟨files, rfl, hfiles⟩

/-- The session goes on in worlds that are alike. -/
theorem inWorlds (h : session.AlikeBut hidden other) {world world' : World σ}
    (hworlds : world.AlikeBut hidden world') :
    AlikeBut hidden { session with world := world } { other with world := world' } := by
  obtain ⟨-, rfl, -⟩ := h
  obtain ⟨files, rfl, hfiles⟩ := hworlds
  exact ⟨files, rfl, hfiles⟩

theorem count (h : session.AlikeBut hidden other) (change : Metrics → Metrics) :
    (session.count change).AlikeBut hidden (other.count change) := by
  obtain ⟨files, rfl, hfiles⟩ := h
  exact ⟨files, rfl, hfiles⟩

/-- File operations that agree have the same answer. -/
theorem onFiles {op : EStateM ε FileTree α} (h : session.AlikeBut hidden other)
    (hop : Agree (FileTree.AlikeBut hidden) Eq op op) :
    (session.onFiles op).1 = (other.onFiles op).1 ∧
      (session.onFiles op).2.AlikeBut hidden (other.onFiles op).2 := by
  obtain ⟨files, rfl, hfiles⟩ := h
  have hresults := hop _ _ hfiles
  rw [onFiles_eq, onFiles_eq]
  exact ⟨hresults.answers, _, rfl, hresults.states⟩

end Session.AlikeBut

/-! ## Attempts and commands -/

theorem SameReply.split {left right : Reply α × World σ} (h : SameReply hidden left right) :
    ∃ reply after after', left = (reply, after) ∧ right = (reply, after') ∧
      after.AlikeBut hidden after' := by
  obtain ⟨reply, after⟩ := left
  obtain ⟨reply', after'⟩ := right
  obtain ⟨hreply, hafter⟩ := h
  exact ⟨reply, after, after', rfl, congrArg (·, after') hreply.symm, hafter⟩

section Session

variable {host : Host σ}

theorem World.AlikeBut.now_eq {world other : World σ} (h : world.AlikeBut hidden other) :
    world.now = other.now := by
  obtain ⟨files, rfl, -⟩ := h
  rfl

namespace Host.Overlooks

theorem reply (h : host.Overlooks hidden) (call : FrameCall) {world other : World σ}
    (hworlds : world.AlikeBut hidden other) :
    SameReply hidden (call.reply host world) (call.reply host other) := by
  unfold FrameCall.reply
  cases call.inputRefusal? with
  | some reason => exact ⟨rfl, hworlds⟩
  | none =>
      obtain ⟨reply, after, after', hleft, hright, hafter⟩ := (h.callFrame call hworlds).split
      rw [hleft, hright]
      cases reply <;> exact ⟨rfl, hafter⟩

theorem commandReply (h : host.Overlooks hidden) (settings : CommandSettings)
    (argv : List String) {world other : World σ} (hworlds : world.AlikeBut hidden other) :
    SameReply hidden (CommandResult.reply host settings argv world)
      (CommandResult.reply host settings argv other) := by
  cases argv with
  | nil => exact ⟨rfl, hworlds⟩
  | cons program args =>
      obtain ⟨reply, after, after', hleft, hright, hafter⟩ := (h.runProgram
        { program := program
          args := args
          workingDir := settings.workingDir
          timeoutMillis := settings.timeoutMillis } hworlds).split
      simp only [CommandResult.reply, hleft, hright]
      cases reply with
      | done outcome =>
          simp only [hworlds.now_eq, hafter.now_eq]
          exact ⟨rfl, hafter⟩
      | interrupted => exact ⟨rfl, hafter⟩

end Host.Overlooks

/-- What follows an attempt tells nothing of the place; its snapshot may even be
written there. -/
theorem Session.AlikeBut.concludeAttempt {session other : Session σ}
    (h : session.AlikeBut hidden other) {store : ContextStore} (hdir : ¬IsOnWay store.dir hidden)
    {call : FrameCall} (hid : Config.isId call.frame.id = true) (began : Instant)
    (outcome : FrameOutcome) :
    (call.concludeAttempt store began outcome session).AlikeBut hidden
      (call.concludeAttempt store began outcome other) := by
  have hcounted : (call.countAttempt began outcome session).AlikeBut hidden
      (call.countAttempt began outcome other) := by
    obtain ⟨files, rfl, hfiles⟩ := h
    exact ⟨files, rfl, hfiles⟩
  have hkept (result : Members) :
      (call.keepSnapshot store result (call.countAttempt began outcome session)).AlikeBut hidden
        (call.keepSnapshot store result (call.countAttempt began outcome other)) := by
    have hsave (now : Instant) : Agree (FileTree.AlikeBut hidden) Eq
        (store.saveFrame (call.snapshot now result)) (store.saveFrame (call.snapshot now result)) :=
      ContextStore.agree_saveFrame hdir hid
    unfold FrameCall.keepSnapshot
    split
    · rw [hcounted.now_eq]
      exact (hcounted.onFiles (hsave _)).2
    · exact hcounted
  have hadded {left right : Session σ} (halike : left.AlikeBut hidden right) :
      (left.addFrame (call.record began left.now outcome)).AlikeBut hidden
        (right.addFrame (call.record began right.now outcome)) := by
    obtain ⟨files, rfl, hfiles⟩ := halike
    exact ⟨files, rfl, hfiles⟩
  cases outcome with
  | ok result => exact hadded (hkept result)
  | error e => exact hadded hcounted

theorem Host.Overlooks.agree_tryOnce (h : host.Overlooks hidden) {store : ContextStore}
    (hdir : ¬IsOnWay store.dir hidden) {call : FrameCall}
    (hid : Config.isId call.frame.id = true) :
    Agree (Session.AlikeBut hidden) Eq (call.tryOnce host store) (call.tryOnce host store) := by
  intro session other halike
  obtain ⟨reply, after, after', hleft, hright, hafter⟩ := (h.reply call halike.world).split
  rw [FrameCall.tryOnce_eq, FrameCall.tryOnce_eq, hleft, hright, halike.now_eq]
  cases reply with
  | done outcome =>
      exact .ok rfl ((halike.inWorlds hafter).concludeAttempt hdir hid other.now outcome)
  | interrupted => exact .error _ (halike.inWorlds hafter)

theorem Host.Overlooks.agree_tryTimes (h : host.Overlooks hidden) {store : ContextStore}
    (hdir : ¬IsOnWay store.dir hidden) (retries : Nat) {call : FrameCall}
    (hid : Config.isId call.frame.id = true) :
    Agree (Session.AlikeBut hidden) Eq (call.tryTimes host store retries)
      (call.tryTimes host store retries) := by
  induction retries generalizing call with
  | zero => exact h.agree_tryOnce hdir hid
  | succ retries ih =>
      refine (h.agree_tryOnce hdir hid).bind_eq fun outcome => ?_
      cases outcome with
      | ok result => exact .pure rfl
      | error e => exact (Agree.modify fun _ _ halike => halike.count _).bind_eq fun _ => ih hid

theorem Host.Overlooks.agree_command (h : host.Overlooks hidden) (settings : CommandSettings)
    (argv : List String) :
    Agree (Session.AlikeBut hidden) Eq (CommandResult.execute host settings argv)
      (CommandResult.execute host settings argv) := by
  intro session other halike
  obtain ⟨reply, after, after', hleft, hright, hafter⟩ :=
    (h.commandReply settings argv halike.world).split
  rw [CommandResult.execute_eq, CommandResult.execute_eq, hleft, hright]
  cases reply with
  | done result =>
      refine .ok rfl ?_
      obtain ⟨files, heq, hfiles⟩ := halike.inWorlds hafter
      exact ⟨files, congrArg (CommandResult.enter result) heq, hfiles⟩
  | interrupted => exact .error _ (halike.inWorlds hafter)

theorem Host.Overlooks.agree_publish (h : host.Overlooks hidden) (settings : CommandSettings) :
    Agree (Session.AlikeBut hidden) Eq (Publication.publish host settings)
      (Publication.publish host settings) := by
  refine (h.agree_command settings _).bind_eq fun status => ?_
  split
  · exact .pure rfl
  · refine (h.agree_command settings _).bind_eq fun added => ?_
    refine Agree.get_bind fun session other halike => ?_
    rw [halike.now_eq]
    refine (h.agree_command settings _).bind_eq fun committed => ?_
    refine (h.agree_command settings _).bind_eq fun pushed => ?_
    refine Agree.get_bind fun session other halike => .pure ?_
    obtain ⟨files, rfl, -⟩ := halike
    rfl

end Session

/-! ## Steps of a run -/

section Run

variable {s t : Progress σ}

theorem Progress.AlikeBut.inSessions (h : s.AlikeBut hidden t) {left right : Session σ}
    (halike : left.AlikeBut hidden right) :
    AlikeBut hidden { s with session := left } { t with session := right } :=
  ⟨halike, h.run, h.named⟩

theorem RunM.agree_inSession {action : SessionM σ α}
    (h : Agree (Session.AlikeBut hidden) Eq action action) :
    Agree (Progress.AlikeBut hidden) Eq (inSession action) (inSession action) := by
  intro s t hst
  have hresults := h s.session t.session hst.session
  simp only [inSession]
  generalize action s.session = left, action t.session = right at hresults
  cases hresults with
  | ok hanswer hsessions => exact .ok hanswer (hst.inSessions hsessions)
  | error e hsessions => exact .error _ (hst.inSessions hsessions)

theorem RunM.agree_count (change : Metrics → Metrics) :
    Agree (Progress.AlikeBut hidden) Eq (count change : RunM σ Unit) (count change) :=
  Agree.modify fun _ _ hst => hst.inSessions (hst.session.count change)

theorem RunM.agree_enter (retrying : Bool) (result : StageResult) :
    Agree (Progress.AlikeBut hidden) Eq (enter retrying result : RunM σ Unit)
      (enter retrying result) := by
  refine Agree.modify fun s t hst => ?_
  rw [hst.session.now_eq, hst.run]
  refine ⟨hst.session, rfl, ?_⟩
  have hnamed := hst.named
  rw [hst.run] at hnamed
  cases retrying <;> exact hnamed

theorem RunM.agree_writeReport {reports : ReportDirectory} {subject : String}
    (hsubject : '/' ∉ subject.toList) (hdir : ¬IsOnWay reports.dir hidden) (document : Json)
    (hplaces : ∀ now n, placeOf (reports.pathOf ⟨subject, now, document⟩ n) ≠ hidden) :
    Agree (Progress.AlikeBut hidden) Eq (writeReport reports subject document : RunM σ String)
      (writeReport reports subject document) := by
  intro s t hst
  have hwrite := hst.session.onFiles
    (ReportDirectory.agree_write hsubject hdir (hplaces t.session.now))
  simp only [writeReport, hst.session.now_eq]
  rcases hleft : s.session.onFiles (reports.write subject t.session.now document) with
    ⟨path, left⟩
  rcases hright : t.session.onFiles (reports.write subject t.session.now document) with
    ⟨path', right⟩
  rw [hleft, hright] at hwrite
  obtain ⟨rfl, hsessions⟩ := hwrite
  cases path with
  | ok path => exact .ok rfl (hst.inSessions hsessions)
  | error e => exact .error _ (hst.inSessions hsessions)

end Run

end ScaffoldRunner
