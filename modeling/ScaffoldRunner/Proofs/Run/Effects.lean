import ScaffoldRunner.Proofs.Registry
import ScaffoldRunner.Proofs.Run.Failure
import ScaffoldRunner.Proofs.Run.Replies
import ScaffoldRunner.Proofs.Run.Steps
import ScaffoldRunner.Proofs.Workspace.Documents

/-!
# What a run does to saved contexts

A run touches files in few ways: a success may leave a snapshot, audits and
endings are reported, and the context is saved.  An act that `Avoids` the file of
a context leaves it as it is, as long as the host does.  The reports of a run
avoid the files of all contexts, its snapshots avoid those that have another
name, and its own context is the only one that it saves.
-/

namespace ScaffoldRunner

variable {σ : Type}

/-- Whatever the host is asked for, it leaves a file of a context directory alone,
and the way to it. -/
structure Host.Spares (host : Host σ) (store : ContextStore) (file : String) : Prop where
  callFrame : ∀ call world node, store.Holds file node world.files →
    store.Holds file node (host.callFrame call world).2.files
  runProgram : ∀ call world node, store.Holds file node world.files →
    store.Holds file node (host.runProgram call world).2.files

theorem Host.spares_of_files_eq {host : Host σ}
    (hframe : ∀ call world, (host.callFrame call world).2.files = world.files)
    (hprogram : ∀ call world, (host.runProgram call world).2.files = world.files)
    (store : ContextStore) (file : String) : host.Spares store file where
  callFrame call world node h := by rwa [hframe]
  runProgram call world node h := by rwa [hprogram]

/-! ## Attempts and commands -/

/-- The snapshot of a call has another file than the given one, if there is a
snapshot at all. -/
def FrameCall.Avoids (call : FrameCall) (file : String) : Prop :=
  call.frame.contextPreservation = true →
    Path.IsPlain (ContextStore.frameFile call.frame.id call.stage.number) ∧
      ContextStore.frameFile call.frame.id call.stage.number ≠ file

variable {host : Host σ} {store : ContextStore} {file : String} {node : Option Node}
  {session : Session σ}

/-- An attempt leaves a file alone until it gets its reply. -/
theorem Host.Spares.reply (h : host.Spares store file) (call : FrameCall) {world : World σ}
    (hholds : store.Holds file node world.files) :
    store.Holds file node (call.reply host world).2.files := by
  unfold FrameCall.reply
  cases call.inputRefusal? with
  | some reason => exact hholds
  | none =>
      have hcalled := h.callFrame call world node hholds
      rcases hcall : host.callFrame call world with ⟨_ | _, after⟩ <;>
        rwa [hcall] at hcalled

theorem Host.Spares.commandReply (h : host.Spares store file) (settings : CommandSettings)
    (argv : List String) {world : World σ} (hholds : store.Holds file node world.files) :
    store.Holds file node (CommandResult.reply host settings argv world).2.files := by
  cases argv with
  | nil => exact hholds
  | cons program args =>
      rw [CommandResult.reply]
      let call : ProgramCall :=
        { program := program, args := args, workingDir := settings.workingDir
          timeoutMillis := settings.timeoutMillis }
      have hrun := h.runProgram call world node hholds
      rcases hcall : host.runProgram call world with ⟨_ | _, after⟩ <;>
        rwa [hcall] at hrun

theorem FrameCall.holds_keepSnapshot {call : FrameCall} (havoids : call.Avoids file)
    (result : Members) (h : store.Holds file node session.world.files) :
    store.Holds file node (call.keepSnapshot store result session).world.files := by
  rw [keepSnapshot]
  split
  · next hpreserves =>
      obtain ⟨hplain, hne⟩ := havoids hpreserves
      rw [Session.files_onFiles, ContextStore.stateOf_saveFrame]
      exact h.writeDocument hplain hne _
  · exact h

theorem FrameCall.holds_concludeAttempt {call : FrameCall} (havoids : call.Avoids file)
    (began : Instant) (outcome : FrameOutcome)
    (h : store.Holds file node session.world.files) :
    store.Holds file node (call.concludeAttempt store began outcome session).world.files := by
  have hcounted : store.Holds file node (call.countAttempt began outcome session).world.files := h
  cases outcome with
  | error e => exact hcounted
  | ok result => exact holds_keepSnapshot havoids result hcounted

theorem FrameCall.holds_tryOnce (hspares : host.Spares store file) {call : FrameCall}
    (havoids : call.Avoids file) (h : store.Holds file node session.world.files) :
    store.Holds file node (stateOf (call.tryOnce host store session)).world.files := by
  have hreply := hspares.reply call h
  rw [tryOnce_eq]
  rcases hcall : call.reply host session.world with ⟨outcome | _, world⟩
  · rw [hcall] at hreply
    exact holds_concludeAttempt havoids _ outcome hreply
  · rwa [hcall] at hreply

theorem CommandResult.holds_execute (hspares : host.Spares store file)
    (settings : CommandSettings) (argv : List String)
    (h : store.Holds file node session.world.files) :
    store.Holds file node
      (stateOf (CommandResult.execute host settings argv session)).world.files := by
  have hreply := hspares.commandReply settings argv h
  rw [execute_eq]
  rcases hcall : reply host settings argv session.world with ⟨result | _, world⟩ <;>
    rwa [hcall] at hreply

/-! ## Acts -/

namespace RunAct

/-- An act writes no document in the file of a context: neither a snapshot nor
a report nor a context that is to be saved. -/
def Avoids (file : String) : RunAct → Prop
  | attempt call _ => call.Avoids file
  | report subject _ _ => '/' ∉ subject.toList ∧
      ∀ now n, ReportDirectory.fileName (ReportDirectory.stem subject now) n ≠ file
  | save task _ _ _ =>
      Path.IsPlain (ContextStore.taskFile task) ∧ ContextStore.taskFile task ≠ file
  | command .. | count _ | enter _ => True

/-- An act that avoids a file leaves it alone. -/
theorem holds_inSession {p : Pipeline} {act : RunAct} (hspares : host.Spares p.contexts file)
    (hreports : ¬FileTree.IsOnWay p.reports.dir (FileTree.placeOf p.contexts.dir ++ [file]))
    (havoids : act.Avoids file) (h : p.contexts.Holds file node session.world.files) :
    p.contexts.Holds file node (act.inSession p host session).world.files := by
  cases act with
  | count change | enter entry => exact h
  | attempt call outcome => exact FrameCall.holds_tryOnce hspares havoids h
  | command argv result => exact CommandResult.holds_execute hspares p.commands argv h
  | report subject document path =>
      obtain ⟨hsubject, hname⟩ := havoids
      change p.contexts.Holds file node (session.onFiles _).2.world.files
      rw [Session.files_onFiles]
      exact h.report hreports hsubject _ (hname _) document
  | save task old new merged =>
      change p.contexts.Holds file node (session.onFiles _).2.world.files
      rw [Session.files_onFiles]
      exact h.saveMergedOver havoids.1 havoids.2 session.now old new

end RunAct

/-- Acts that avoid a file leave it alone, one after another. -/
theorem Pipeline.holds_after {p : Pipeline} (hspares : host.Spares p.contexts file)
    (hreports : ¬FileTree.IsOnWay p.reports.dir (FileTree.placeOf p.contexts.dir ++ [file]))
    {acts : List RunAct} {s : Progress σ} (havoids : ∀ act ∈ acts, act.Avoids file)
    (h : p.contexts.Holds file node s.session.world.files) :
    p.contexts.Holds file node (p.after host acts s).session.world.files := by
  induction acts generalizing s with
  | nil => exact h
  | cons act acts ih =>
      rw [List.forall_mem_cons] at havoids
      exact ih havoids.2 (act.holds_inSession hspares hreports havoids.1 h)

/-- An act that writes nothing but new files. -/
def RunAct.KeepsFiles : RunAct → Prop
  | count _ | enter _ | report .. => True
  | attempt .. | command .. | save .. => False

/-- Such acts leave files as they are. -/
theorem Pipeline.readBytes_after {p : Pipeline} {host : Host σ} {acts : List RunAct}
    (hkeeps : ∀ act ∈ acts, act.KeepsFiles) {s : Progress σ} {path : String} {bytes : ByteArray}
    (h : s.session.world.files.readBytes path = .ok bytes) :
    (p.after host acts s).session.world.files.readBytes path = .ok bytes := by
  induction acts generalizing s with
  | nil => exact h
  | cons act acts ih =>
      rw [List.forall_mem_cons] at hkeeps
      refine ih hkeeps.2 ?_
      cases act with
      | count change | enter entry => exact h
      | report subject document answer =>
          have hgrows := p.reports.enlarges_write subject s.session.now document
            s.session.world.files
          change (s.session.onFiles _).2.world.files.readBytes path = _
          rw [Session.files_onFiles]
          exact hgrows.readBytes (fun _ hP => hP.2) h
      | attempt | command | save => exact hkeeps.1.elim

/-! ## Runs -/

section Avoidance

variable {p : Pipeline} {origin run : Run} {scaffold : Scaffold} {acts : List RunAct}

/-- No report has the name of a context. -/
theorem RunAct.avoids_report {subject : String} (hsubject : '/' ∉ subject.toList)
    (document : Json) (path : Except OsError String) (task : String) :
    (RunAct.report subject document path).Avoids (ContextStore.taskFile task) :=
  ⟨hsubject, fun now n => ContextStore.fileName_ne_taskFile hsubject now n task⟩

/-- No snapshot of a scaffold has the file of the context of a task. -/
def Pipeline.SnapshotsAvoid (p : Pipeline) (scaffoldId task : String) : Prop :=
  ∀ stage, ∀ frame ∈ p.registry.framesFor scaffoldId stage, frame.contextPreservation = true →
    frame.id ++ "_" ++ toString stage.number ≠ task

/-- All snapshots have an underscore in their names. -/
theorem Pipeline.snapshotsAvoid_of_no_underscore {task : String} (h : '_' ∉ task.toList)
    (scaffoldId : String) : p.SnapshotsAvoid scaffoldId task := by
  intro stage frame _ _ htask
  apply h
  simp [← htask]

theorem RunAct.IsStep.avoids {act : RunAct} (h : act.IsStep p origin) {task : String}
    (hids : p.registry.HasIds) (hsound : p.registry.Sound)
    (hid : Config.isId origin.scaffoldId = true)
    (hsnapshots : p.SnapshotsAvoid origin.scaffoldId task) :
    act.Avoids (ContextStore.taskFile task) := by
  cases h with
  | command | count | enter => trivial
  | attempt call outcome hplanned =>
      intro hpreserves
      refine ⟨ContextStore.isPlain_frameFile (hids.isId_of_mem_framesFor hsound hplanned) _, ?_⟩
      rw [Ne, ContextStore.frameFile_eq_taskFile]
      exact hsnapshots call.stage call.frame hplanned hpreserves
  | report document path =>
      exact RunAct.avoids_report (ReportDirectory.no_separator_subject hid (by simp)) document
        path task

theorem IsFailing.avoids {change : Metrics → Metrics} {e : RunError}
    (h : IsFailing change run e acts) (task : String) :
    ∀ act ∈ acts, act.Avoids (ContextStore.taskFile task) := by
  cases h with
  | reported document path =>
      have hsubject : '/' ∉ ReportDirectory.failureSubject.toList := by
        simp [ReportDirectory.failureSubject]
      rw [List.forall_mem_cons, List.forall_mem_singleton]
      exact ⟨trivial, RunAct.avoids_report hsubject _ path task⟩

theorem IsReporting.avoids {answer : Except RunError RunOutcome}
    (h : IsReporting run acts answer) (hid : Config.isId run.scaffoldId = true) (task : String) :
    ∀ act ∈ acts, act.Avoids (ContextStore.taskFile task) := by
  have hsubject : '/' ∉ (ReportDirectory.executionSubject run.scaffoldId).toList :=
    ReportDirectory.no_separator_subject hid (by simp)
  cases h with
  | reported | unreported =>
      rw [List.forall_mem_singleton]
      exact RunAct.avoids_report hsubject _ _ task

/-- A run saves no context but its own. -/
theorem IsSaving.avoids {answer : Except RunError (Option String)}
    (h : IsSaving scaffold run acts answer) (hid : Config.isId run.scaffoldId = true)
    {task : String} (hne : run.scaffoldId ≠ task) :
    ∀ act ∈ acts, act.Avoids (ContextStore.taskFile task) := by
  have hfile : ContextStore.taskFile run.scaffoldId ≠ ContextStore.taskFile task := by
    rwa [Ne, ContextStore.taskFile_inj]
  cases h with
  | omitted => simp
  | saved | unsaved =>
      rw [List.forall_mem_singleton]
      exact ⟨ContextStore.isPlain_taskFile hid, hfile⟩

/-- An ending saves no context but that of the run, and only after all stages of a scaffold that
preserves it. -/
theorem IsEnding.avoids {answer : Except RunError Unit} {outcome : Except RunError RunOutcome}
    (h : IsEnding scaffold run answer acts outcome) (hid : Config.isId run.scaffoldId = true)
    {task : String}
    (hunsaved : run.scaffoldId ≠ task ∨ ¬(answer = .ok () ∧ scaffold.contextPreservation = true)) :
    ∀ act ∈ acts, act.Avoids (ContextStore.taskFile task) := by
  have hsaved {acts : List RunAct} {saved : Except RunError (Option String)}
      (hanswer : answer = .ok ()) (h : IsSaving scaffold run acts saved) :
      ∀ act ∈ acts, act.Avoids (ContextStore.taskFile task) := by
    rcases hunsaved with hne | hnot
    · exact h.avoids hid hne
    · cases h with
      | omitted => simp
      | saved _ _ _ hpreserves | unsaved _ _ hpreserves => exact absurd ⟨hanswer, hpreserves⟩ hnot
  have hfinish {acts : List RunAct} {outcome : Except RunError RunOutcome}
      (hanswer : answer = .ok ()) (h : IsFinish scaffold run acts outcome) :
      ∀ act ∈ acts, act.Avoids (ContextStore.taskFile task) := by
    cases h with
    | unsaved hsaving => exact hsaved hanswer hsaving
    | saved hsaving hreporting =>
        rw [List.forall_mem_append]
        exact ⟨hsaved hanswer hsaving, hreporting.avoids hid task⟩
  cases h with
  | completed _ hdone =>
      rw [List.forall_mem_cons]
      exact ⟨trivial, hfinish rfl hdone⟩
  | unfinished _ hdone hfailing =>
      rw [List.forall_mem_append, List.forall_mem_cons]
      exact ⟨⟨trivial, hfinish rfl hdone⟩, hfailing.avoids task⟩
  | failed _ _ hfailing => exact hfailing.avoids task

theorem IsReporting.keepsFiles {answer : Except RunError RunOutcome}
    (h : IsReporting run acts answer) : ∀ act ∈ acts, act.KeepsFiles := by
  cases h <;> simp [RunAct.KeepsFiles]

theorem IsFailing.keepsFiles {change : Metrics → Metrics} {e : RunError}
    (h : IsFailing change run e acts) :
    ∀ act ∈ acts, act.KeepsFiles := by
  cases h
  simp [RunAct.KeepsFiles]

end Avoidance

/-- Nothing but saving a context changes what is loaded for a task when a scaffold
is run: the host spares the file, no snapshot has its name, no directory of
reports has to be made in its place, and nothing is uncovered by making the
directory of contexts. -/
structure Pipeline.Shelters (p : Pipeline) (host : Host σ) (scaffoldId task : String)
    (tree : FileTree) : Prop where
  spares : host.Spares p.contexts (ContextStore.taskFile task)
  snapshots : p.SnapshotsAvoid scaffoldId task
  reports : ¬FileTree.IsOnWay p.reports.dir
    (FileTree.placeOf p.contexts.dir ++ [ContextStore.taskFile task])
  sound : tree.Sound
  direct : ".." ∉ Path.names p.contexts.dir ∨ tree.isDir p.contexts.dir = true

namespace Pipeline

variable {p : Pipeline} {config : Config} {currentDir : String} {skipsPush : Bool}

theorem ofConfig_registry (h : Pipeline.ofConfig config currentDir skipsPush = .ok p) :
    Registry.ofConfig config = .ok p.registry := by
  obtain ⟨registry, hregistry, hp⟩ := bind_eq_ok.mp h
  obtain rfl := Except.ok.inj hp
  exact hregistry

/-- A run is refused, and changes nothing, without a scaffold or an object as input.
Otherwise the scaffold has a valid name. -/
theorem execute_refused_or_isRun
    (hconfig : Pipeline.ofConfig config currentDir skipsPush = .ok p) (host : Host σ)
    (scaffoldId : String) (input : Json) (stopped : Bool) (session : Session σ) :
    (∃ e, p.execute host scaffoldId input stopped session = .error e session) ∨
      ∃ scaffold document walk ending answer,
        p.registry.scaffolds.get? scaffoldId = some scaffold ∧ scaffold.id = scaffoldId ∧
        Config.isId scaffoldId = true ∧ runInput input = .ok document ∧
        p.IsRun host scaffold document stopped session walk ending answer
          (p.execute host scaffoldId input stopped session) := by
  cases hfound : p.registry.scaffolds.get? scaffoldId with
  | none => exact .inl ⟨.unknownScaffold scaffoldId, by simp [execute, hfound]⟩
  | some scaffold =>
      cases hinput : runInput input with
      | error e => exact .inl ⟨e, by simp [execute, hfound, hinput]⟩
      | ok document =>
          obtain ⟨walk, ending, answer, hrun⟩ :=
            exists_isRun hfound hinput host stopped session
          have hregistry := ofConfig_registry hconfig
          have hid := (Registry.sound_ofConfig hregistry).scaffold_id hfound
          have hvalid := (Registry.hasIds_ofConfig hregistry).scaffold hfound
          exact .inr ⟨scaffold, document, walk, ending, answer, rfl, hid, hid ▸ hvalid, rfl, hrun⟩

/-- What a run knows when it begins is not changed by its acts. -/
theorem frame_after (p : Pipeline) (host : Host σ) (scaffold : Scaffold) (document : Json)
    (session : Session σ) (acts : List RunAct) :
    (p.after host acts (p.begin scaffold document session)).run.scaffoldId = scaffold.id ∧
      (p.after host acts (p.begin scaffold document session)).run.preserved =
        p.preservedContext scaffold session.world.files :=
  (p.reached_after host
    (.start : Run.Reached _ [] (p.begin scaffold document session).run) acts).frame.2

namespace Shelters

variable {scaffoldId task : String} {tree : FileTree}

theorem holds (h : p.Shelters host scaffoldId task tree) :
    p.contexts.Holds (ContextStore.taskFile task)
      (tree.get? (FileTree.placeOf p.contexts.dir ++ [ContextStore.taskFile task])) tree :=
  ⟨h.sound, h.direct, rfl⟩

/-- Acts that avoid the context of a sheltered task leave it as it is. -/
theorem load_after {s : Progress σ}
    (h : p.Shelters host scaffoldId task s.session.world.files)
    (htask : Config.isId task = true) {acts : List RunAct}
    (havoids : ∀ act ∈ acts, act.Avoids (ContextStore.taskFile task)) :
    p.contexts.load task (p.after host acts s).session.world.files =
      p.contexts.load task s.session.world.files :=
  h.holds.load_eq_load (ContextStore.isPlain_taskFile htask)
    (holds_after h.spares h.reports havoids h.holds)

end Shelters

namespace IsRun

variable {scaffold : Scaffold} {document : Json} {stopped : Bool} {session : Session σ}
  {walk ending : List RunAct} {answer : Except RunError Unit}
  {result : EStateM.Result RunError (Session σ) RunOutcome}

theorem avoids_walk
    (h : p.IsRun host scaffold document stopped session walk ending answer result)
    (hids : p.registry.HasIds) (hsound : p.registry.Sound)
    (hid : Config.isId scaffold.id = true) {task : String}
    (hsnapshots : p.SnapshotsAvoid scaffold.id task) :
    ∀ act ∈ walk, act.Avoids (ContextStore.taskFile task) :=
  fun act hact => (h.walks.isStep act hact).avoids hids hsound hid hsnapshots

end IsRun

/-- A run of a scaffold, whatever comes of it, leaves the context of every other
scaffold as it is, unless a snapshot of its frames has the name of that context. -/
theorem execute_load_of_ne
    (hconfig : Pipeline.ofConfig config currentDir skipsPush = .ok p) {scaffoldId other : String}
    (hother : p.registry.scaffolds.has other = true) (hne : scaffoldId ≠ other)
    {session : Session σ} (hshelters : p.Shelters host scaffoldId other session.world.files)
    (input : Json) (stopped : Bool) :
    p.contexts.load other
        (stateOf (p.execute host scaffoldId input stopped session)).world.files =
      p.contexts.load other session.world.files := by
  have hregistry := ofConfig_registry hconfig
  have hids := Registry.hasIds_ofConfig hregistry
  have hsound := Registry.sound_ofConfig hregistry
  rcases execute_refused_or_isRun hconfig host scaffoldId input stopped session with
    ⟨e, hrefused⟩ | ⟨scaffold, document, walk, ending, answer, -, rfl, hvalid, -, hrun⟩
  · rw [hrefused, stateOf]
  · obtain ⟨_, hregistered⟩ := Dict.has_iff.mp hother
    have hname := (p.frame_after host scaffold document session walk).1
    rw [hrun.state]
    refine hshelters.load_after (s := p.begin scaffold document session)
      (hids.scaffold hregistered) ?_
    rw [List.forall_mem_append]
    exact ⟨hrun.avoids_walk hids hsound hvalid hshelters.snapshots,
      hrun.ends.avoids (hname.symm ▸ hvalid) (.inl (hname.symm ▸ hne))⟩

/-- Two scaffolds and a frame whose snapshots at the first stage have the name of
the context of one of them. -/
def colliding : Config where
  frames := [("audit", Frame.ofScript "audit" "Audit" "audit.py")]
  scaffolds := [("audit_1", (Scaffold.empty "audit_1" "Audit").withStage .plan ["audit"] []),
    ("check", (Scaffold.empty "check" "Check").withStage .scope ["audit"] [])]

/-- A host on which every frame recommends the same. -/
def recommending : Host (List FrameCall) where
  callFrame _ world := (.done (.ok [("recommendations", .arr [.str "review"])]), world)
  runProgram _ world := (.done (.notStarted "not found"), world)

/-- In the default directories the context of `check` is sheltered from all runs on
hosts that leave files alone. -/
theorem shelters_check {p : Pipeline} {host : Host σ}
    (hcontexts : p.contexts.dir = "/context_preservation") (hreports : p.reports.dir = "/reports")
    (hframe : ∀ call world, (host.callFrame call world).2.files = world.files)
    (hprogram : ∀ call world, (host.runProgram call world).2.files = world.files)
    (scaffoldId : String) : p.Shelters host scaffoldId "check" {} where
  spares := Host.spares_of_files_eq hframe hprogram _ _
  snapshots := snapshotsAvoid_of_no_underscore (by decide) scaffoldId
  reports hway := by
    have hnames := hway.mem_names
    rw [hreports] at hnames
    exact absurd hnames (by decide +kernel)
  sound := FileTree.sound_empty
  direct := .inl (by rw [hcontexts]; decide +kernel)

theorem execute_audit_load :
    ∃ p, Pipeline.ofConfig colliding "/" true = .ok p ∧
      p.registry.scaffolds.has "check" = true ∧ "audit_1" ≠ "check" ∧
      p.Shelters recommending "audit_1" "check" emptySession.world.files ∧
      p.contexts.load "check"
          (stateOf (p.execute recommending "audit_1" .null false emptySession)).world.files =
        p.contexts.load "check" emptySession.world.files := by
  obtain ⟨p, hconfig⟩ : ∃ p, Pipeline.ofConfig colliding "/" true = .ok p := ⟨_, rfl⟩
  have hother : p.registry.scaffolds.has "check" = true := by
    obtain rfl := Except.ok.inj hconfig
    decide +kernel
  have hne : "audit_1" ≠ "check" := by decide
  have hshelters : p.Shelters recommending "audit_1" "check" emptySession.world.files := by
    obtain rfl := Except.ok.inj hconfig
    exact shelters_check rfl rfl (fun _ _ => rfl) (fun _ _ => rfl) _
  exact ⟨p, hconfig, hother, hne, hshelters,
    execute_load_of_ne hconfig hother hne hshelters .null false⟩

/-- A snapshot can take the place of the context of another scaffold. -/
theorem execute_colliding_load :
    ∃ p, Pipeline.ofConfig colliding "/" true = .ok p ∧
      p.registry.scaffolds.has "check" = true ∧ p.registry.scaffolds.has "audit_1" = true ∧
      p.contexts.load "audit_1" emptySession.world.files = .ok none ∧
      p.contexts.load "audit_1"
        (stateOf (p.execute recommending "check" .null false emptySession)).world.files ≠
          .ok none := by
  refine ⟨_, rfl, by decide +kernel, by decide +kernel, rfl, ?_⟩
  apply ContextStore.load_ne_none
  decide +kernel

/-! ## Runs that fail -/

/-- The context that a run saves when it has gone through its stages. -/
def saveFinal (p : Pipeline) (final : Progress σ) : EStateM.Result ContextError FileTree Json :=
  p.contexts.saveMergedOver final.run.scaffoldId final.session.now final.run.preserved
    (final.run.contextToSave final.session.now) final.session.world.files

/-- A run that has gone through its stages could not save its context for a reason: the disk
has failed after the file was opened, so that the file holds the first bytes of the text. -/
def LeftCutOff (p : Pipeline) (final : Progress σ) (reason : ContextError) (later : Session σ) :
    Prop :=
  answerOf (p.saveFinal final) = .error reason ∧
    ContextStore.IsCutOff (p.contexts.taskPath final.run.scaffoldId)
      (ContextStore.envelope final.run.scaffoldId final.session.now
        (ContextStore.mergedOver final.session.now final.run.preserved
          (final.run.contextToSave final.session.now)))
      final.session.world.files reason later.world.files

/-- A run that has gone through its stages has saved its context, but then it could not be
reported for a reason.  What it saved stays in its file. -/
def LeftUnreported (p : Pipeline) (final : Progress σ) (reason : OsError) (later : Session σ) :
    Prop :=
  ∃ merged saved document, p.saveFinal final = .ok merged saved ∧
    answerOf (p.reports.write (ReportDirectory.executionSubject final.run.scaffoldId)
      final.session.now document saved) = .error reason ∧
    later.world.files.readBytes (p.contexts.taskPath final.run.scaffoldId) =
      .ok (ContextStore.envelope final.run.scaffoldId final.session.now merged).pretty.toUTF8

theorem saveContext_eq {scaffold : Scaffold} (hpreserves : scaffold.contextPreservation = true)
    (s : Progress σ) :
    ∃ t, t.run = s.run ∧ t.session.now = s.session.now ∧
      t.session.world.files = stateOf (p.saveFinal s) ∧
      p.saveContext scaffold s = ended
        (((answerOf (p.saveFinal s)).mapError RunError.context).map
          fun _ => some (p.contexts.taskPath s.run.scaffoldId)) t := by
  rw [saveFinal]
  cases hsave : p.contexts.saveMergedOver s.run.scaffoldId s.session.now s.run.preserved
      (s.run.contextToSave s.session.now) s.session.world.files with
  | error e files | ok merged files =>
      refine ⟨{ s with session := { s.session with world := { s.session.world with
        files := files } } }, rfl, rfl, rfl, ?_⟩
      simp [saveContext, hpreserves, Session.onFiles, hsave, ended, answerOf, Except.map,
        Except.mapError]

/-- That the stages are counted does not change what is saved. -/
theorem saveContext_counted {scaffold : Scaffold} (hpreserves : scaffold.contextPreservation = true)
    (began : Instant) (final : Progress σ) :
    ∃ t, t.run = final.run ∧ t.session.now = final.session.now ∧
      t.session.world.files = stateOf (p.saveFinal final) ∧
      p.saveContext scaffold (counted began final) = ended
        (((answerOf (p.saveFinal final)).mapError RunError.context).map
          fun _ => some (p.contexts.taskPath final.run.scaffoldId)) t :=
  saveContext_eq hpreserves (counted began final)

/-- A run that has gone through its stages fails when its context cannot be saved.  Only its
failure is reported then. -/
theorem conclude_of_unsaved (host : Host σ) {scaffold : Scaffold} (began : Instant)
    (hpreserves : scaffold.contextPreservation = true) {final : Progress σ}
    {reason : ContextError} {files : FileTree}
    (hsaved : p.saveFinal final = .error reason files) :
    ∃ t acts, t.session.world.files = files ∧
      p.conclude scaffold began (.ok () final) =
        .error (.context reason) (p.after host acts t).session ∧
      (∀ act ∈ acts, act.KeepsFiles) ∧
      ∀ task, ∀ act ∈ acts, act.Avoids (ContextStore.taskFile task) := by
  obtain ⟨t, -, -, hfiles, hsave⟩ := saveContext_counted hpreserves began final
  rw [hsaved] at hfiles hsave
  have hfinish : p.finish scaffold (counted began final) = .error (.context reason) t :=
    bind_of_error hsave _
  obtain ⟨failing, hfailing, -, hreport⟩ :=
    p.reportFailure_does host (.context reason) Metrics.markUnfinished t
  refine ⟨t, failing, hfiles, ?_, hfailing.keepsFiles, hfailing.avoids⟩
  rw [p.conclude_of_error scaffold began final hfinish, ← hreport]
  rfl

/-- When the context of a run is saved, what follows writes only reports, and the run fails only
when it cannot be reported. -/
theorem conclude_of_saved (host : Host σ) {scaffold : Scaffold} (began : Instant)
    (hpreserves : scaffold.contextPreservation = true) {final : Progress σ}
    {merged : Json} {files : FileTree} (hsaved : p.saveFinal final = .ok merged files) :
    ∃ t acts, t.session.world.files = files ∧
      stateOf (p.conclude scaffold began (.ok () final)) = (p.after host acts t).session ∧
      (∀ act ∈ acts, act.KeepsFiles) ∧
      ∀ e, answerOf (p.conclude scaffold began (.ok () final)) = .error e →
        ∃ document reason, e = .io reason ∧
          answerOf (p.reports.write (ReportDirectory.executionSubject final.run.scaffoldId)
            final.session.now document files) = .error reason := by
  obtain ⟨t, hrun, hnow, hfiles, hsave⟩ := saveContext_counted hpreserves began final
  rw [hsaved] at hfiles hsave
  obtain ⟨acts, answer, hreporting, hplays, hreport⟩ :=
    p.reportRun_does host scaffold (some (p.contexts.taskPath final.run.scaffoldId)) t
  have hfinish : p.finish scaffold (counted began final) = _ :=
    (bind_of_ok hsave _).trans hreport
  have hkeeps := hreporting.keepsFiles
  rw [hrun] at hreporting
  cases hreporting with
  | reported outcome =>
      have hconclude := p.conclude_of_ok scaffold began final hfinish
      refine ⟨t, _, hfiles, ?_, hkeeps, ?_⟩
      · rw [hconclude, stateOf]
      · intro e he
        rw [hconclude] at he
        cases he
  | unreported document reason =>
      have hconclude := p.conclude_of_error scaffold began final hfinish
      let unreported := RunAct.report (ReportDirectory.executionSubject final.run.scaffoldId)
        document (.error reason)
      obtain ⟨failing, hfailing, -, hfailure⟩ :=
        p.reportFailure_does host (.io reason) Metrics.markUnfinished (p.after host [unreported] t)
      refine ⟨t, [unreported] ++ failing, hfiles, ?_, ?_, ?_⟩
      · rw [hconclude, stateOf, after_append, ← hfailure]
        rfl
      · exact List.forall_mem_append.mpr ⟨hkeeps, hfailing.keepsFiles⟩
      · intro e he
        rw [hconclude] at he
        obtain rfl := Except.error.inj he
        have hwrite : (t.session.onFiles _).1 = _ := hplays.1
        rw [Session.answer_onFiles, hfiles, hnow] at hwrite
        exact ⟨document, reason, rfl, hwrite⟩

/-- A run that fails after all its stages keeps the file of its context as it was, unless the
disk has failed while the context was written, or the context is saved and the run cannot be
reported. -/
theorem conclude_error_holds {scaffold : Scaffold} {began : Instant}
    (hpreserves : scaffold.contextPreservation = true) {final : Progress σ} {node : Option Node}
    (hspares : host.Spares p.contexts (ContextStore.taskFile final.run.scaffoldId))
    (hreports : ¬FileTree.IsOnWay p.reports.dir
      (FileTree.placeOf p.contexts.dir ++ [ContextStore.taskFile final.run.scaffoldId]))
    (h : p.contexts.Holds (ContextStore.taskFile final.run.scaffoldId) node
      final.session.world.files)
    {e : RunError} {later : Session σ}
    (herror : p.conclude scaffold began (.ok () final) = .error e later) :
    p.contexts.Holds (ContextStore.taskFile final.run.scaffoldId) node later.world.files ∨
      (∃ reason, e = .context reason ∧ p.LeftCutOff final reason later) ∨
      ∃ reason, e = .io reason ∧ p.LeftUnreported final reason later := by
  cases hsaved : p.saveFinal final with
  | error reason saved =>
      obtain ⟨t, acts, rfl, hconclude, hkeeps, havoids⟩ :=
        conclude_of_unsaved host began hpreserves hsaved
      obtain ⟨rfl, rfl⟩ := EStateM.Result.error.inj (herror.symm.trans hconclude)
      rcases h.saveMergedOver_error hsaved with hkept | ⟨fault, hfault, hreason, hbytes⟩
      · exact .inl (holds_after hspares hreports (havoids final.run.scaffoldId) hkept)
      · refine .inr (.inl ⟨reason, rfl, ?_, fault, hfault, hreason,
          readBytes_after hkeeps hbytes⟩)
        rw [hsaved, answerOf]
  | ok merged saved =>
      obtain ⟨t, acts, rfl, hstate, hkeeps, hunreported⟩ :=
        conclude_of_saved host began hpreserves hsaved
      rw [herror] at hstate hunreported
      change later = _ at hstate
      obtain ⟨document, reason, rfl, hwrite⟩ := hunreported e rfl
      refine .inr (.inr ⟨reason, rfl, merged, _, document, hsaved, hwrite, ?_⟩)
      rw [hstate]
      exact readBytes_after hkeeps (ContextStore.readBytes_of_saveMergedOver hsaved).2

/-- A run that fails leaves the context of its scaffold as it is.  The only exceptions are runs
that have gone through their stages: the disk has failed while the context was written, or the
context was saved and the run cannot be reported. -/
theorem execute_error_load (hconfig : Pipeline.ofConfig config currentDir skipsPush = .ok p)
    {scaffoldId : String} {session later : Session σ}
    (hshelters : p.Shelters host scaffoldId scaffoldId session.world.files)
    {input : Json} {stopped : Bool} {e : RunError}
    (herror : p.execute host scaffoldId input stopped session = .error e later) :
    p.contexts.load scaffoldId later.world.files =
        p.contexts.load scaffoldId session.world.files ∨
      ∃ scaffold document final,
        p.registry.scaffolds.get? scaffoldId = some scaffold ∧
        scaffold.contextPreservation = true ∧ runInput input = .ok document ∧
        p.runUnlessStopped host stopped (p.begin scaffold document session) = .ok () final ∧
        final.run.scaffoldId = scaffoldId ∧
        ((∃ reason, e = .context reason ∧ p.LeftCutOff final reason later) ∨
          ∃ reason, e = .io reason ∧ p.LeftUnreported final reason later) := by
  have hregistry := ofConfig_registry hconfig
  have hids := Registry.hasIds_ofConfig hregistry
  have hsound := Registry.sound_ofConfig hregistry
  rcases execute_refused_or_isRun hconfig host scaffoldId input stopped session with
    ⟨e, hrefused⟩ | ⟨scaffold, document, walk, ending, answer, hfound, rfl, hvalid, hinput, hrun⟩
  · rw [hrefused] at herror
    injection herror with _ hlater
    exact .inl (by rw [hlater])
  have hname := (p.frame_after host scaffold document session walk).1
  have hwalked := hrun.avoids_walk hids hsound hvalid hshelters.snapshots
  have hlater := hrun.state
  rw [herror, stateOf] at hlater
  by_cases hsaves : answer = .ok () ∧ scaffold.contextPreservation = true
  swap
  · -- No context is saved at all.
    left
    rw [hlater]
    refine hshelters.load_after (s := p.begin scaffold document session) hvalid ?_
    rw [List.forall_mem_append]
    exact ⟨hwalked, hrun.ends.avoids (hname.symm ▸ hvalid) (.inr hsaves)⟩
  obtain ⟨rfl, hpreserves⟩ := hsaves
  have hconcluded : p.conclude scaffold _ (.ok () _) = .error e later :=
    hrun.concluded.symm.trans herror
  have hheld := holds_after hshelters.spares hshelters.reports (s := p.begin scaffold document
    session) hwalked hshelters.holds
  rw [← hname] at hheld
  rcases conclude_error_holds hpreserves (hname.symm ▸ hshelters.spares)
    (hname.symm ▸ hshelters.reports) hheld hconcluded with hkept | hleft
  · left
    rw [hname] at hkept
    exact hshelters.holds.load_eq_load (ContextStore.isPlain_taskFile hvalid) hkept
  · exact .inr ⟨scaffold, document, _, hfound, hpreserves, hinput, hrun.stages, hname, hleft⟩

theorem execute_oneFrame_error_load :
    ∃ p message later, Pipeline.ofConfig oneFrame "/" true = .ok p ∧
      p.Shelters refusing "check" "check" emptySession.world.files ∧
      p.execute refusing "check" .null false emptySession =
        .error (.stageFailed .scope message) later ∧
      p.contexts.load "check" later.world.files =
        p.contexts.load "check" emptySession.world.files := by
  obtain ⟨p, hconfig⟩ : ∃ p, Pipeline.ofConfig oneFrame "/" true = .ok p := ⟨_, rfl⟩
  have hshelters : p.Shelters refusing "check" "check" emptySession.world.files := by
    obtain rfl := Except.ok.inj hconfig
    exact shelters_check rfl rfl (fun _ _ => rfl) (fun _ _ => rfl) _
  obtain ⟨message, later, hfails⟩ : ∃ message later,
      p.execute refusing "check" .null false emptySession =
        .error (.stageFailed .scope message) later := by
    obtain rfl := Except.ok.inj hconfig
    exact ⟨_, _, rfl⟩
  rcases execute_error_load hconfig hshelters hfails with hload | hsaves
  · exact ⟨p, message, later, hconfig, hshelters, hfails, hload⟩
  · -- The run does not come through its stages.
    obtain ⟨_, _, _, _, _, _, _, _, ⟨_, he, _⟩ | ⟨_, he, _⟩⟩ := hsaves <;> cases he

/-- A scaffold with one frame at a late stage. -/
def approving : Config where
  frames := [("probe", Frame.ofScript "probe" "Probe" "probe.py")]
  scaffolds := [("check", (Scaffold.empty "check" "Check").withStage .approval ["probe"] [])]

/-- A host on which every frame puts a file in the place of the reports. -/
def discarding : Host (List FrameCall) where
  callFrame _ world :=
    (.done (.ok []), { world with
      files := (world.files.remove ["reports"]).insert ["reports"] (.file ⟨#[]⟩ Node.plainMode) })
  runProgram _ world := (.done (.notStarted "not found"), world)

/-- A run that fails can leave a context where there was none. -/
theorem execute_discarding_load :
    ∃ p e later, Pipeline.ofConfig approving "/" true = .ok p ∧
      p.execute discarding "check" .null false emptySession = .error e later ∧
      p.contexts.load "check" emptySession.world.files = .ok none ∧
      p.contexts.load "check" later.world.files ≠ .ok none := by
  obtain ⟨p, hconfig⟩ : ∃ p, Pipeline.ofConfig approving "/" true = .ok p := ⟨_, rfl⟩
  have hrun : (answerOf (p.execute discarding "check" .null false emptySession)).isOk = false ∧
      (stateOf (p.execute discarding "check" .null false emptySession)).world.files.pathExists
        (p.contexts.taskPath "check") = true := by
    obtain rfl := Except.ok.inj hconfig
    decide +kernel
  have hnone : p.contexts.load "check" emptySession.world.files = .ok none := by
    obtain rfl := Except.ok.inj hconfig
    rfl
  obtain ⟨e, hexecute⟩ := eq_error_of_isOk hrun.1
  exact ⟨p, e, _, hconfig, hexecute, hnone, ContextStore.load_ne_none hrun.2⟩

/-- A session in an empty world whose disk takes no context of `check`. -/
def faultySession : Session (List FrameCall) :=
  let hidden := ["context_preservation", "check_context.json"]
  let fault? (place : List String) (_ : ByteArray) : Option DiskFault :=
    if place = hidden then some ⟨0, true⟩ else none
  Session.start ⟨{ fault? := fault? }, ⟨0, 0⟩, 0, []⟩

/-- A run whose context the disk does not take fails and leaves a file where there was none. -/
theorem execute_faulty_load :
    ∃ p e later, Pipeline.ofConfig oneFrame "/" true = .ok p ∧
      p.execute recommending "check" .null false faultySession = .error e later ∧
      p.contexts.load "check" faultySession.world.files = .ok none ∧
      p.contexts.load "check" later.world.files ≠ .ok none := by
  obtain ⟨p, hconfig⟩ : ∃ p, Pipeline.ofConfig oneFrame "/" true = .ok p := ⟨_, rfl⟩
  have hrun : (answerOf (p.execute recommending "check" .null false faultySession)).isOk = false ∧
      (stateOf (p.execute recommending "check" .null false faultySession)).world.files.pathExists
        (p.contexts.taskPath "check") = true := by
    obtain rfl := Except.ok.inj hconfig
    decide +kernel
  have hnone : p.contexts.load "check" faultySession.world.files = .ok none := by
    obtain rfl := Except.ok.inj hconfig
    rfl
  obtain ⟨e, hexecute⟩ := eq_error_of_isOk hrun.1
  exact ⟨p, e, _, hconfig, hexecute, hnone, ContextStore.load_ne_none hrun.2⟩

end Pipeline

end ScaffoldRunner
