import ScaffoldRunner.Proofs.Run.Learning
import ScaffoldRunner.Proofs.Run.Likeness
import ScaffoldRunner.Proofs.Run.Sight

/-!
# Contexts that cannot be read

A context that cannot be read is no context: a run over it goes like a run without
the file.  Once the run has begun it does not look at the file again until it saves
its own context there, and that is not merged with anything.
-/

namespace ScaffoldRunner

open FileTree

variable {σ : Type}

/-- The calls of a walk show frames the context that the run started from. -/
theorem IsWalk.preserved_of_mem_calls {p : Pipeline} {origin : Run} {stopped : Bool}
    {walk : List RunAct} {answer : Except RunError Unit} (h : IsWalk p origin stopped walk answer) :
    ∀ call ∈ RunAct.calls walk, call.preserved = origin.preserved := by
  intro call hcall
  obtain ⟨act, hact, hsome⟩ := List.mem_filterMap.mp hcall
  cases act with
  | attempt call' reply =>
      obtain rfl := Option.some.inj hsome
      obtain ⟨before, rest, hsplit⟩ := List.append_of_mem hact
      have hplaced := (assembles_arePlaced p origin).walk h before call' reply rest hsplit
      obtain ⟨run, hreached, hshown⟩ := hplaced.reached
      rw [hshown]
      exact hreached.frame.2.2
  | command | count | enter | report | save => simp [RunAct.call?] at hsome

/-- The calls that reach the host in a run show frames the context that the run
started from. -/
theorem Pipeline.execute_shows_preserved {p : Pipeline} {host : Host σ} {scaffoldId : String}
    {scaffold : Scaffold} (hfound : p.registry.scaffolds.get? scaffoldId = some scaffold)
    {input document : Json} (hinput : runInput input = .ok document) (stopped : Bool)
    (session : Session σ) {log : σ → List FrameCall} (hlog : host.Records log) :
    ∃ calls, log (stateOf (p.execute host scaffoldId input stopped session)).world.state =
        log session.world.state ++ calls ∧
      ∀ call ∈ calls, call.preserved = p.preservedContext scaffold session.world.files := by
  obtain ⟨walk, ending, answer, hrun⟩ := exists_isRun hfound hinput host stopped session
  refine ⟨RunAct.received (walk ++ ending), ?_, fun call hcall => ?_⟩
  · rw [hrun.state, hlog.after]
    rfl
  · rw [hrun.received_eq] at hcall
    exact hrun.walks.preserved_of_mem_calls call (List.mem_of_mem_filter hcall)

/-! ## Runs that overlook a context -/

/-- Once it has begun, a run does not look at the context of a task: the host does not,
and no directory of the run lies there. -/
structure Pipeline.Overlooks (p : Pipeline) (host : Host σ) (task : String) : Prop where
  host : host.Overlooks (p.contexts.taskPlace task)
  contexts : ¬IsOnWay p.contexts.dir (p.contexts.taskPlace task)
  reports : ¬IsOnWay p.reports.dir (p.contexts.taskPlace task)

namespace Pipeline

variable {p : Pipeline} {host : Host σ} {task : String} {scaffold : Scaffold}

namespace Overlooks

theorem agree_report (h : p.Overlooks host task) {subject : String}
    (hsubject : '/' ∉ subject.toList) (document : Json) :
    Agree (Progress.AlikeBut (p.contexts.taskPlace task)) Eq
      (RunM.writeReport p.reports subject document : RunM σ String)
      (RunM.writeReport p.reports subject document) :=
  RunM.agree_writeReport hsubject h.reports document
    fun _ n => ReportDirectory.placeOf_pathOf_ne hsubject n _ task

/-- Sessions that are alike but for the context go through the stages alike. -/
theorem simulates (h : p.Overlooks host task) (hids : p.registry.HasIds)
    (hsound : p.registry.Sound) :
    p.Simulates host (Progress.AlikeBut (p.contexts.taskPlace task)) Eq where
  scaffoldId hst := congrArg Run.scaffoldId hst.run
  failedStages hst := congrArg Run.failedStages hst.run
  refl _ := rfl
  isSuccessful hresult := congrArg StageResult.isSuccessful hresult
  frame hframe := by
    refine Agree.get_bind fun s t hst => ?_
    rw [hst.run]
    have htries := h.host.agree_tryTimes h.contexts
    exact (RunM.agree_inSession (htries _ (hids.isId_of_mem_framesFor hsound hframe))).bind_eq
      fun _ => .pure rfl
  count _ := RunM.agree_count _
  enter retrying hresult := by
    rw [hresult]
    exact RunM.agree_enter retrying _
  audit result := by
    refine Agree.get_bind fun s t hst => ?_
    have hsubject : '/' ∉ (ReportDirectory.auditSubject s.run.scaffoldId).toList :=
      ReportDirectory.no_separator_subject hst.named (by decide)
    rw [← hst.run]
    exact (h.agree_report hsubject _).bind_eq fun _ => .pure rfl
  publish _ := RunM.agree_inSession (h.host.agree_publish p.commands)

/-! ## Endings -/

theorem agree_saveContext (h : p.Overlooks host task) (scaffold : Scaffold) :
    Agree (Progress.AlikeBut (p.contexts.taskPlace task)) Eq
      (p.saveContext scaffold : RunM σ (Option String)) (p.saveContext scaffold) := by
  intro s t hst
  unfold saveContext
  split
  · have hsave := hst.session.onFiles (ContextStore.agree_saveMergedOver h.contexts hst.named
      s.session.now s.run.preserved (s.run.contextToSave s.session.now))
    simp only [← hst.run, ← hst.session.now_eq]
    generalize s.session.onFiles _ = left, t.session.onFiles _ = right at hsave
    obtain ⟨saved, session⟩ := left
    obtain ⟨saved', session'⟩ := right
    obtain ⟨rfl, hsessions⟩ := hsave
    cases saved with
    | ok merged => exact .ok rfl ⟨hsessions, rfl, hst.named⟩
    | error e => exact .error _ ⟨hsessions, rfl, hst.named⟩
  · exact .ok rfl hst

theorem agree_reportRun (h : p.Overlooks host task) (scaffold : Scaffold)
    (contextPath : Option String) :
    Agree (Progress.AlikeBut (p.contexts.taskPlace task)) Eq
      (p.reportRun scaffold contextPath : RunM σ RunOutcome)
      (p.reportRun scaffold contextPath) := by
  refine Agree.get_bind fun s t hst => ?_
  have hsubject : '/' ∉ (ReportDirectory.executionSubject s.run.scaffoldId).toList :=
    ReportDirectory.no_separator_subject hst.named (by decide)
  -- The report tells nothing of the files.
  obtain ⟨files, hsession, -⟩ := hst.session
  rw [← hst.run, hsession]
  exact (h.agree_report hsubject (ExecutionReport.build s.run scaffold.name s.session.now
    contextPath s.session.commandHistory s.session.frameHistory s.session.metrics).toJson).bind_eq
      fun path => .pure rfl

theorem agree_finish (h : p.Overlooks host task) (scaffold : Scaffold) :
    Agree (Progress.AlikeBut (p.contexts.taskPlace task)) Eq
      (p.finish scaffold : RunM σ RunOutcome) (p.finish scaffold) :=
  (h.agree_saveContext scaffold).bind_eq fun contextPath => h.agree_reportRun scaffold contextPath

theorem alike_reportFailure (h : p.Overlooks host task) (e : RunError) {s t : Progress σ}
    (hst : s.AlikeBut (p.contexts.taskPlace task) t) :
    (p.reportFailure e s).AlikeBut (p.contexts.taskPlace task) (p.reportFailure e t) := by
  let request : ReportRequest := ⟨ReportDirectory.failureSubject, t.session.now,
    FailureDocument.toJson ⟨t.session.now, e, t.run⟩⟩
  have hsubject : '/' ∉ ReportDirectory.failureSubject.toList := by decide
  have hwrite := hst.session.onFiles (ReportDirectory.agree_write (r := request) hsubject
    h.reports fun n => ReportDirectory.placeOf_pathOf_ne hsubject n _ task)
  unfold reportFailure
  simp only [hst.session.now_eq, hst.run]
  exact hwrite.2

/-- What follows the stages goes alike, whether they failed or not. -/
theorem agree_conclude (h : p.Overlooks host task) (scaffold : Scaffold) (began : Instant)
    {left right : EStateM.Result RunError (Progress σ) Unit}
    (hresults : ResultsAgree (Progress.AlikeBut (p.contexts.taskPlace task)) Eq left right) :
    ResultsAgree (Session.AlikeBut (p.contexts.taskPlace task)) Eq
      (p.conclude scaffold began left) (p.conclude scaffold began right) := by
  cases hresults with
  | error e hst =>
      refine .error e (h.alike_reportFailure e ?_)
      simp only [hst.session.now_eq]
      exact hst.inSessions (hst.session.count _)
  | @ok _ _ s t _ hst =>
      have hcounted : (counted began s).AlikeBut (p.contexts.taskPlace task) (counted began t) := by
        unfold counted
        simp only [hst.session.now_eq]
        exact hst.inSessions (hst.session.count _)
      have hfinish := h.agree_finish scaffold _ _ hcounted
      cases hleft : p.finish scaffold (counted began s) <;>
        cases hright : p.finish scaffold (counted began t) <;> rw [hleft, hright] at hfinish
      · cases hfinish with
        | ok houtcome hlater =>
            rw [p.conclude_of_ok scaffold began s hleft, p.conclude_of_ok scaffold began t hright]
            exact .ok houtcome hlater.session
      · cases hfinish
      · cases hfinish
      · cases hfinish with
        | error e hlater =>
            rw [p.conclude_of_error scaffold began s hleft,
              p.conclude_of_error scaffold began t hright]
            exact .error _ (h.alike_reportFailure _ (hlater.inSessions (hlater.session.count _)))

end Overlooks

/-! ## Beginning without a context -/

theorem preservedContext_of_error {files : FileTree} {e : ContextError}
    (h : p.contexts.load scaffold.id files = .error e) :
    p.preservedContext scaffold files = none := by
  simp [preservedContext, h]

/-- Where nothing lies there is no context. -/
theorem preservedContext_of_absent (hid : Config.isId scaffold.id = true) {files : FileTree}
    (h : files.get? (p.contexts.taskPlace scaffold.id) = none) :
    p.preservedContext scaffold files = none := by
  have hload : p.contexts.load scaffold.id files = .ok none := by
    rw [ContextStore.load_eq]
    cases hlookup : files.lookup (p.contexts.taskPath scaffold.id) with
    | error e => rfl
    | ok node =>
        obtain ⟨reached, hlocate, hnode⟩ := lookup_eq_ok.mp hlookup
        rw [placeOf_of_locate hlocate, ContextStore.placeOf_taskPath _ hid, h] at hnode
        simp at hnode
  simp [preservedContext, hload]

theorem alike_begin {hidden : List String} {session other : Session σ}
    (halike : session.AlikeBut hidden other) (hid : Config.isId scaffold.id = true)
    (hpreserved : p.preservedContext scaffold session.world.files =
      p.preservedContext scaffold other.world.files) (document : Json) :
    (p.begin scaffold document session).AlikeBut hidden (p.begin scaffold document other) := by
  obtain ⟨files, rfl, hfiles⟩ := halike
  refine ⟨⟨files, rfl, hfiles⟩, ?_, hid⟩
  unfold begin
  rw [hpreserved]
  rfl

/-- Two runs of a scaffold that do not start from a context, in sessions that are alike
but for the place of its context. -/
structure RunAlike (p : Pipeline) (host : Host σ) (scaffold : Scaffold) (document : Json)
    (stopped : Bool) (session : Session σ)
    (left right : EStateM.Result RunError (Session σ) RunOutcome) : Prop where
  /-- They have the same result, and they leave the same behind but for the context. -/
  results : ResultsAgree (Session.AlikeBut (p.contexts.taskPlace scaffold.id)) Eq left right
  /-- The same calls reach the host, and none of them shows a frame a context. -/
  calls : ∀ log, host.Records log → ∃ calls,
    (∀ later ∈ [stateOf left, stateOf right],
      log later.world.state = log session.world.state ++ calls) ∧
    ∀ call ∈ calls, call.preserved = none
  /-- A completed run has gone through its stages. -/
  completed : (answerOf left).isOk = true → ∃ final,
    p.runUnlessStopped host stopped (p.begin scaffold document session) = .ok () final
  /-- After its stages a run leaves its own context and nothing else in the file, unless
  the file cannot be written. -/
  saved : ∀ final,
    p.runUnlessStopped host stopped (p.begin scaffold document session) = .ok () final →
    (∃ e, answerOf left = .error (.context e)) ∨
      ∀ later ∈ [stateOf left, stateOf right],
        later.world.files.readBytes (p.contexts.taskPath scaffold.id) =
          .ok (ContextStore.envelope scaffold.id final.session.now
            (final.run.contextToSave final.session.now)).pretty.toUTF8

/-- Runs that start from no context and overlook its place go alike. -/
theorem Overlooks.runAlike (h : p.Overlooks host scaffold.id) (hids : p.registry.HasIds)
    (hsound : p.registry.Sound) (hid : Config.isId scaffold.id = true)
    (hpreserves : scaffold.contextPreservation = true) {scaffoldId : String}
    (hfound : p.registry.scaffolds.get? scaffoldId = some scaffold) {input document : Json}
    (hinput : runInput input = .ok document) (stopped : Bool) {session other : Session σ}
    (halike : session.AlikeBut (p.contexts.taskPlace scaffold.id) other)
    (hnone : p.preservedContext scaffold session.world.files = none)
    (hother : p.preservedContext scaffold other.world.files = none) :
    p.RunAlike host scaffold document stopped session
      (p.execute host scaffoldId input stopped session)
      (p.execute host scaffoldId input stopped other) := by
  have hbegin := alike_begin halike hid (hnone.trans hother.symm) document
  have hstages := (h.simulates hids hsound).runUnlessStopped stopped _ _ hbegin
  have hresults : ResultsAgree (Session.AlikeBut (p.contexts.taskPlace scaffold.id)) Eq
      (p.execute host scaffoldId input stopped session)
      (p.execute host scaffoldId input stopped other) := by
    rw [execute_eq hfound hinput, execute_eq hfound hinput, ← hbegin.session.now_eq]
    exact h.agree_conclude scaffold _ hstages
  refine ⟨hresults, fun log hlog => ?_, fun hok => ?_, fun final hfinal => ?_⟩
  · obtain ⟨calls, hcalls, hshown⟩ := execute_shows_preserved hfound hinput stopped session hlog
    obtain ⟨files, hlater, -⟩ := hresults.states
    refine ⟨calls, ?_, fun call hcall => (hshown call hcall).trans hnone⟩
    simp only [List.forall_mem_cons, hlater]
    exact ⟨hcalls, hcalls, by simp⟩
  · obtain ⟨outcome, hexecute⟩ := eq_ok_of_isOk hok
    rw [execute_eq hfound hinput] at hexecute
    obtain ⟨final, -, hfinal, -⟩ := conclude_eq_ok hexecute
    exact ⟨final, hfinal⟩
  · have hsaves := execute_saves hfound hpreserves hinput hfinal
    rw [hfinal] at hstages
    generalize hright : p.runUnlessStopped host stopped (p.begin scaffold document other) = result
      at hstages
    cases hstages with
    | @ok _ _ _ final' _ hfinals =>
        have hothers := execute_saves hfound hpreserves hinput hright
        rw [hother, ← hfinals.run, ← hfinals.session.now_eq, ← hresults.answers] at hothers
        rw [hnone] at hsaves
        rcases hsaves with herror | hleft
        · exact .inl herror
        · refine hothers.imp_right fun hright => ?_
          simp only [List.forall_mem_cons]
          exact ⟨hleft, hright, by simp⟩

/-- A scaffold with a context that cannot be loaded from its file runs as if the file
were not there, whatever the file holds.  A completed run leaves its own context in the
place of the file. -/
theorem execute_unreadable {config : Config} {currentDir : String} {skipsPush : Bool}
    (hconfig : Pipeline.ofConfig config currentDir skipsPush = .ok p) {scaffoldId : String}
    (hfound : p.registry.scaffolds.get? scaffoldId = some scaffold)
    (hpreserves : scaffold.contextPreservation = true)
    (hhost : host.Overlooks (p.contexts.taskPlace scaffoldId))
    (hreports : ¬IsOnWay p.reports.dir (p.contexts.taskPlace scaffoldId))
    {session other : Session σ} {bytes : ByteArray} {mode : Nat}
    (hfile : session.world.files.lookup (p.contexts.taskPath scaffoldId) = .ok (.file bytes mode))
    {e : ContextError} (hload : p.contexts.load scaffoldId session.world.files = .error e)
    (halike : session.AlikeBut (p.contexts.taskPlace scaffoldId) other)
    (habsent : other.world.files.get? (p.contexts.taskPlace scaffoldId) = none)
    {input document : Json} (hinput : runInput input = .ok document) (stopped : Bool) :
    p.RunAlike host scaffold document stopped session
      (p.execute host scaffoldId input stopped session)
      (p.execute host scaffoldId input stopped other) := by
  have hregistry := ofConfig_registry hconfig
  have hids := Registry.hasIds_ofConfig hregistry
  have hsound := Registry.sound_ofConfig hregistry
  obtain rfl : scaffold.id = scaffoldId := hsound.scaffold_id hfound
  have hid := hids.scaffold hfound
  have hoverlooks : p.Overlooks host scaffold.id :=
    ⟨hhost, ContextStore.not_isOnWay_taskPlace hid hfile, hreports⟩
  exact hoverlooks.runAlike hids hsound hid hpreserves hfound hinput stopped halike
    (preservedContext_of_error hload) (preservedContext_of_absent hid habsent)

/-- A tree with the directory of contexts and nothing in it. -/
def folder : FileTree := { entries := [(["context_preservation"], .dir)] }

/-- A text that is not JSON. -/
def garble : String := "\x7b not json"

/-- A tree in which the context of `check` is not JSON. -/
def garbled : FileTree :=
  folder.insert ["context_preservation", "check_context.json"]
    (.file garble.toUTF8 Node.plainMode)

/-- A host on which every frame recommends the same; it keeps a record of the calls. -/
def noting : Host (List FrameCall) where
  callFrame call world :=
    (.done (.ok [("recommendations", .arr [.str "review"])]),
      { world with state := world.state ++ [call] })
  runProgram _ world := (.done (.notStarted "not found"), world)

theorem overlooks_noting (hidden : List String) : noting.Overlooks hidden where
  callFrame call world other halike := by
    obtain ⟨files, rfl, hfiles⟩ := halike
    exact ⟨rfl, files, rfl, hfiles⟩
  runProgram _ _ _ halike := ⟨rfl, halike⟩

theorem alikeBut_garbled :
    (emptySession.withFiles garbled).AlikeBut ["context_preservation", "check_context.json"]
      (emptySession.withFiles folder) := by
  have hnothing : folder.get? ["context_preservation", "check_context.json"] = none := rfl
  exact ⟨folder, rfl, .of_insert (by simp [hnothing]) _ _⟩

theorem lookup_garbled :
    garbled.lookup "/context_preservation/check_context.json" =
      .ok (.file garble.toUTF8 Node.plainMode) := by
  refine lookup_eq_ok.mpr ⟨["context_preservation", "check_context.json"], by decide +kernel, ?_⟩
  rw [garbled, get?_insert _ (by simp), if_pos rfl]

theorem load_garbled {store : ContextStore}
    (h : store.taskPath "check" = "/context_preservation/check_context.json") :
    ∃ e, store.load "check" garbled = .error e := by
  have hread : garbled.readBytes (store.taskPath "check") = .ok garble.toUTF8 :=
    readBytes_eq_ok.mpr ⟨_, h ▸ lookup_garbled⟩
  have hparse : (ContextStore.parseEnvelope? garble).isNone = true := by decide +kernel
  rw [ContextStore.load_of_readBytes hread, Option.isNone_iff_eq_none.mp hparse]
  exact ⟨_, rfl⟩

theorem execute_garbled :
    ∃ p scaffold, Pipeline.ofConfig oneFrame "/" true = .ok p ∧
      p.registry.scaffolds.get? "check" = some scaffold ∧
      noting.Records id ∧
      (answerOf (p.execute noting "check" .null false (emptySession.withFiles garbled))).isOk =
        true ∧
      p.RunAlike noting scaffold (.obj []) false (emptySession.withFiles garbled)
        (p.execute noting "check" .null false (emptySession.withFiles garbled))
        (p.execute noting "check" .null false (emptySession.withFiles folder)) := by
  obtain ⟨p, scaffold, hconfig, hfound⟩ := exists_pipeline_oneFrame
  obtain ⟨hpreserves, hpath, hplace, hok⟩ : scaffold.contextPreservation = true ∧
      p.contexts.taskPath "check" = "/context_preservation/check_context.json" ∧
      p.contexts.taskPlace "check" = ["context_preservation", "check_context.json"] ∧
      (answerOf (p.execute noting "check" .null false (emptySession.withFiles garbled))).isOk =
        true := by
    obtain rfl := Except.ok.inj hconfig
    obtain rfl := Option.some.inj hfound
    exact ⟨rfl, by decide +kernel, by decide +kernel, by decide +kernel⟩
  have hreports : ¬IsOnWay p.reports.dir (p.contexts.taskPlace "check") := by
    obtain rfl := Except.ok.inj hconfig
    intro hway
    exact absurd hway.mem_names (by decide +kernel)
  have hfile : (emptySession.withFiles garbled).world.files.lookup
      (p.contexts.taskPath "check") = .ok _ := hpath ▸ lookup_garbled
  obtain ⟨e, hload⟩ := load_garbled hpath
  have halike : (emptySession.withFiles garbled).AlikeBut (p.contexts.taskPlace "check")
      (emptySession.withFiles folder) := hplace ▸ alikeBut_garbled
  have habsent : (emptySession.withFiles folder).world.files.get?
      (p.contexts.taskPlace "check") = none := hplace ▸ rfl
  exact ⟨p, scaffold, hconfig, hfound, ⟨fun _ _ => rfl, fun _ _ => rfl⟩, hok,
    execute_unreadable hconfig hfound hpreserves (overlooks_noting _) hreports hfile hload halike
      habsent rfl false⟩

/-- A configuration in which reports belong below the context of `check`. -/
def misplaced : Config where
  framework := { reportsDir := "context_preservation/check_context.json" }
  scaffolds := [("check", Scaffold.empty "check" "Check")]

/-- Where the directory of reports has to be made in the place of the file, the run
can tell whether the file is there. -/
theorem execute_misplaced_garbled :
    ∃ p scaffold bytes mode e, Pipeline.ofConfig misplaced "/" true = .ok p ∧
      p.registry.scaffolds.get? "check" = some scaffold ∧
      scaffold.contextPreservation = true ∧
      noting.Overlooks (p.contexts.taskPlace "check") ∧
      garbled.lookup (p.contexts.taskPath "check") = .ok (.file bytes mode) ∧
      p.contexts.load "check" garbled = .error e ∧
      (emptySession.withFiles garbled).AlikeBut (p.contexts.taskPlace "check")
        (emptySession.withFiles folder) ∧
      folder.get? (p.contexts.taskPlace "check") = none ∧
      answerOf (p.execute noting "check" .null false (emptySession.withFiles garbled)) ≠
        answerOf (p.execute noting "check" .null false (emptySession.withFiles folder)) := by
  obtain ⟨p, scaffold, hconfig, hfound⟩ : ∃ p scaffold,
      Pipeline.ofConfig misplaced "/" true = .ok p ∧
      p.registry.scaffolds.get? "check" = some scaffold := ⟨_, _, rfl, rfl⟩
  -- With the file a directory cannot be made there, without it the context is not saved.
  obtain ⟨hpreserves, hpath, hplace, hwith, hwithout⟩ : scaffold.contextPreservation = true ∧
      p.contexts.taskPath "check" = "/context_preservation/check_context.json" ∧
      p.contexts.taskPlace "check" = ["context_preservation", "check_context.json"] ∧
      ((answerOf (p.execute noting "check" .null false
        (emptySession.withFiles garbled))).mapError RunError.kind).map (fun _ => ()) =
          .error "io_error" ∧
      ((answerOf (p.execute noting "check" .null false
        (emptySession.withFiles folder))).mapError RunError.kind).map (fun _ => ()) =
          .error "context_error" := by
    obtain rfl := Except.ok.inj hconfig
    obtain rfl := Option.some.inj hfound
    exact ⟨rfl, by decide +kernel, by decide +kernel, by decide +kernel, by decide +kernel⟩
  obtain ⟨e, hload⟩ := load_garbled hpath
  refine ⟨p, scaffold, _, _, e, hconfig, hfound, hpreserves, overlooks_noting _,
    hpath ▸ lookup_garbled, hload, hplace ▸ alikeBut_garbled, hplace ▸ rfl, fun heq => ?_⟩
  rw [heq, hwithout] at hwith
  exact absurd hwith (by decide)

end Pipeline

end ScaffoldRunner
