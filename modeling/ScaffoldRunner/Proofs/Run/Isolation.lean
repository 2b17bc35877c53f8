import ScaffoldRunner.Proofs.Run.Errors
import ScaffoldRunner.Proofs.Run.Inward
import ScaffoldRunner.Proofs.Run.Tally
import ScaffoldRunner.Proofs.Run.Unreadable

/-!
# Isolation of runs

From one run to the next a pipeline carries its metrics, two histories and all the files
that have been written.  A run of a scaffold that preserves no context sees none of
that: it begins with empty histories, it neither loads a context nor saves one, and what
it does then is determined by the replies of the host.  When these depend on nothing but
the calls, the run goes the same way whatever has run before.
-/

namespace ScaffoldRunner

variable {σ α : Type}

/-! ## Replies that depend on the call -/

/-- The answer that comes with a reply, unless the run is interrupted. -/
def Reply.answer? : Reply α → Option α
  | done a => some a
  | interrupted => none

/-- The reply of a host depends on nothing but the call, and there not on the path of the
audit's report. -/
def Host.IsReproducible (host : Host σ) : Prop :=
  ∀ call call' world world', FrameCall.masked call = FrameCall.masked call' →
    (host.callFrame call world).1 = (host.callFrame call' world').1

/-- What a host answers to an attempt in some world. -/
def Host.answer (host : Host σ) (world : World σ) (call : FrameCall) : Option FrameOutcome :=
  (call.reply host world).1.answer?

namespace Host.IsReproducible

variable {host : Host σ}

theorem reply (h : host.IsReproducible) {call call' : FrameCall}
    (hcall : call.masked = call'.masked) (world world' : World σ) :
    (call.reply host world).1 = (call'.reply host world').1 := by
  have hrefusal : call.inputRefusal? = call'.inputRefusal? := by
    rw [← call.inputRefusal?_masked, hcall, call'.inputRefusal?_masked]
  have hframe : call.frame = call'.frame := by
    rw [← call.frame_masked, hcall, call'.frame_masked]
  have hreply := h call call' world world' hcall
  unfold FrameCall.reply
  rw [hrefusal, hframe]
  cases call'.inputRefusal? with
  | some reason => rfl
  | none =>
      generalize host.callFrame call world = left, host.callFrame call' world' = right at hreply ⊢
      obtain ⟨reply, after⟩ := left
      obtain ⟨reply', after'⟩ := right
      obtain rfl : reply = reply' := hreply
      cases reply <;> rfl

theorem isBlind_answer (h : host.IsReproducible) (world : World σ) :
    IsBlind (host.answer world) :=
  fun _ _ hcall => congrArg Reply.answer? (h.reply hcall world world)

/-- The attempts of a run get the same answers as in any other world. -/
theorem obey (h : host.IsReproducible) {p : Pipeline} {acts : List RunAct} {s : Progress σ}
    (hplays : p.Plays host s acts) (world : World σ) : Obey (host.answer world) acts := by
  induction acts generalizing s with
  | nil => exact fun _ _ hmem => absurd hmem List.not_mem_nil
  | cons act acts ih =>
      intro call outcome hmem
      rcases List.mem_cons.mp hmem with rfl | hmem
      · have htrue : (answerOf (call.tryOnce host p.contexts s.session)).toOption = outcome :=
          hplays.1
        rw [← htrue, Host.answer, h.reply rfl world s.session.world, FrameCall.tryOnce_eq]
        rcases call.reply host s.session.world with ⟨_ | _, after⟩ <;> rfl
      · exact ih hplays.2 call outcome hmem

end Host.IsReproducible

/-! ## A run and what it answers -/

namespace Pipeline

variable {p : Pipeline} {host : Host σ} {scaffold : Scaffold}

/-- When no context is preserved, a run is finished with its report. -/
theorem finish_eq_reportRun (hpreserves : scaffold.contextPreservation = false)
    (s : Progress σ) : p.finish scaffold s = p.reportRun scaffold none s := by
  have hsave : p.saveContext scaffold s = .ok none s := by simp [saveContext, hpreserves]
  exact bind_of_ok hsave _

/-- A completed run is reported unless the report cannot be written. -/
theorem answerOf_reportRun (p : Pipeline) (host : Host σ) (scaffold : Scaffold)
    (contextPath : Option String) (s : Progress σ) :
    (∃ e, answerOf (p.reportRun scaffold contextPath s) = .error (.io e)) ∨
      ∃ path, answerOf (p.reportRun scaffold contextPath s) = .ok {
        report := ExecutionReport.build s.run scaffold.name s.session.now contextPath
          s.session.commandHistory s.session.frameHistory s.session.metrics
        reportPath := path
        contextPath := contextPath } := by
  obtain ⟨path, hdoes⟩ := Does.writeReport p host s
    (ReportDirectory.executionSubject s.run.scaffoldId)
    (ExecutionReport.build s.run scaffold.name s.session.now contextPath
      s.session.commandHistory s.session.frameHistory s.session.metrics).toJson
  cases path with
  | error e =>
      have hfails : Does p host (p.reportRun scaffold contextPath) s _ (.error (.io e)) :=
        Does.get_bind (hdoes.bind_error _)
      exact .inl ⟨e, by rw [hfails.2, answerOf_ended]⟩
  | ok path =>
      have hreports : Does p host (p.reportRun scaffold contextPath) s _ (.ok _) :=
        Does.get_bind (hdoes.bind_pure _)
      exact .inr ⟨path, by rw [hreports.2, answerOf_ended]⟩

/-- What a run that preserves no context answers, once its stages are over. -/
theorem answerOf_conclude (hpreserves : scaffold.contextPreservation = false) (host : Host σ)
    (began : Instant) (s : Progress σ)
    (hreported : Reported (answerOf (p.conclude scaffold began (ended (.ok ()) s)))) :
    ∃ path metrics, answerOf (p.conclude scaffold began (ended (.ok ()) s)) = .ok {
      report := ExecutionReport.build s.run scaffold.name s.session.now none
        s.session.commandHistory s.session.frameHistory metrics
      reportPath := path
      contextPath := none } := by
  have hfinish : p.finish scaffold (counted began s) = _ := finish_eq_reportRun hpreserves _
  have hanswer := p.answerOf_reportRun host scaffold none (counted began s)
  cases hresult : p.finish scaffold (counted began s) with
  | ok outcome t =>
      rw [← hfinish, hresult] at hanswer
      have hconclude := p.conclude_of_ok scaffold began s hresult
      rcases hanswer with ⟨e, he⟩ | ⟨path, hpath⟩
      · simp [answerOf] at he
      · refine ⟨path, (counted began s).session.metrics, ?_⟩
        change answerOf (p.conclude scaffold began (.ok () s)) = _
        rw [hconclude]
        exact hpath
  | error e t =>
      rw [← hfinish, hresult] at hanswer
      have hconclude := p.conclude_of_error scaffold began s hresult
      rcases hanswer with ⟨e', he⟩ | ⟨path, hpath⟩
      · refine absurd ?_ (hreported e')
        change answerOf (p.conclude scaffold began (.ok () s)) = _
        rw [hconclude]
        exact he
      · simp [answerOf] at hpath

/-! ## One run -/

/-- What a run has become after some acts. -/
theorem reached_begin (p : Pipeline) (host : Host σ) (scaffold : Scaffold) (document : Json)
    (session : Session σ) (acts : List RunAct) :
    (p.begin scaffold document session).run.Reached (RunAct.entries acts)
      (p.after host acts (p.begin scaffold document session)).run :=
  p.reached_after host .start acts

namespace IsRun

variable {document : Json} {stopped : Bool} {session : Session σ} {walk ending : List RunAct}
  {answer : Except RunError Unit} {result : EStateM.Result RunError (Session σ) RunOutcome}

/-- When a run fails for a report, the directory was not writable at that time. -/
theorem exists_not_isWritable {e : OsError}
    (h : p.IsRun host scaffold document stopped session walk ending answer result)
    (hio : answerOf result = .error (.io e)) :
    ∃ before subject report rest,
      walk ++ ending = before ++ .report subject report (.error e) :: rest ∧
      ¬p.reports.IsWritable subject
        (p.after host before (p.begin scaffold document session)).session.now
        (p.after host before (p.begin scaffold document session)).session.world.files := by
  have hends := h.ends
  rw [hio] at hends
  obtain ⟨subject, report, hmem⟩ :
      ∃ subject report, .report subject report (.error e) ∈ walk ++ ending := by
    rcases hends.exists_unwritten with rfl | ⟨report, hmem⟩
    · obtain ⟨report, hmem⟩ := h.walks.exists_unwritten
      exact ⟨_, report, List.mem_append_left ending hmem⟩
    · exact ⟨_, report, List.mem_append_right walk hmem⟩
  obtain ⟨before, rest, hsplit⟩ := List.append_of_mem hmem
  refine ⟨before, subject, report, rest, hsplit, fun hwritable => ?_⟩
  have hplays := h.plays
  rw [hsplit, plays_append] at hplays
  have hfails : (Session.onFiles _ _).1 = .error e := hplays.2.1
  obtain ⟨path, after, hwrite⟩ := hwritable.exists_write report
  rw [Session.answer_onFiles, hwrite] at hfails
  simp [answerOf] at hfails

/-- A run whose stages fail answers with their error. -/
theorem answerOf_eq_error {e : RunError}
    (h : p.IsRun host scaffold document stopped session walk ending (.error e) result) :
    answerOf result = .error e := by
  rw [h.concluded]
  rfl

theorem reported
    (h : p.IsRun host scaffold document stopped session walk ending answer result)
    (hreported : Reported (answerOf result)) : Reported answer := by
  rintro e rfl
  exact hreported e h.answerOf_eq_error

/-- A run that pushes nothing and preserves no context runs no command and saves nothing. -/
theorem isInward (hpreserves : scaffold.contextPreservation = false) (hskip : p.skipPush = true)
    (h : p.IsRun host scaffold document stopped session walk ending answer result) :
    ∀ act ∈ walk ++ ending, act.IsInward :=
  List.forall_mem_append.mpr ⟨h.walks.isInward hskip, h.ends.isInward hpreserves⟩

theorem commandHistory_walk
    (h : p.IsRun host scaffold document stopped session walk ending answer result)
    (hskip : p.skipPush = true) :
    (p.after host walk (p.begin scaffold document session)).session.commandHistory = [] := by
  rw [commandHistory_after h.plays_walk, RunAct.ran_of_isInward (h.walks.isInward hskip)]
  rfl

theorem frameHistory_eq
    (h : p.IsRun host scaffold document stopped session walk ending answer result) :
    (stateOf result).frameHistory =
      (p.after host walk (p.begin scaffold document session)).session.frameHistory := by
  rw [h.state, after_append, frameHistory_ending h.ends h.plays_ending]

end IsRun

/-! ## Two runs -/

section TwoRuns

variable {document : Json} {stopped : Bool} {session session' : Session σ}
  {walk walk' ending ending' : List RunAct} {answer answer' : Except RunError Unit}
  {result result' : EStateM.Result RunError (Session σ) RunOutcome}

/-- Runs that preserve no context begin alike. -/
theorem masked_begin (hpreserves : scaffold.contextPreservation = false) (document : Json)
    (session session' : Session σ) :
    (p.begin scaffold document session).run.masked =
      (p.begin scaffold document session').run.masked := by
  simp [begin, preservedContext, hpreserves, Run.masked]

namespace IsRun

/-- Two runs walk through their stages alike. -/
theorem determined (hpreserves : scaffold.contextPreservation = false)
    (hskip : p.skipPush = true) (hhost : host.IsReproducible)
    (h : p.IsRun host scaffold document stopped session walk ending answer result)
    (h' : p.IsRun host scaffold document stopped session' walk' ending' answer' result')
    (hreported : Reported (answerOf result)) (hreported' : Reported (answerOf result')) :
    SameActs walk walk' ∧ answer = answer' :=
  h.walks.determined (hhost.isBlind_answer session.world) hskip
    (masked_begin hpreserves document session session') h'.walks
    (hhost.obey h.plays_walk session.world) (hhost.obey h'.plays_walk session.world)
    (h.reported hreported) (h'.reported hreported')

/-- Two runs that have walked alike have become alike. -/
theorem masked_run_eq (hpreserves : scaffold.contextPreservation = false)
    (hsame : SameActs walk walk') :
    (p.after host walk (p.begin scaffold document session)).run.masked =
      (p.after host walk' (p.begin scaffold document session')).run.masked :=
  (p.reached_begin host scaffold document session walk).masked_eq_masked
    (p.reached_begin host scaffold document session' walk')
    (masked_begin hpreserves document session session') hsame.entries

/-- Two runs that have walked alike have the same history of frames. -/
theorem masked_frameHistory_eq
    (h : p.IsRun host scaffold document stopped session walk ending answer result)
    (h' : p.IsRun host scaffold document stopped session' walk' ending' answer' result')
    (hsame : SameActs walk walk') :
    (stateOf result).frameHistory.map FrameRecord.masked =
      (stateOf result').frameHistory.map FrameRecord.masked := by
  rw [h.frameHistory_eq, h'.frameHistory_eq]
  exact FrameRecord.map_masked_of_tellsOf (frameHistory_of_plays h.plays_walk)
    (frameHistory_of_plays h'.plays_walk) hsame.answered

/-- What a completed run answers, but for what is masked. -/
theorem masked_answer (hpreserves : scaffold.contextPreservation = false)
    (hskip : p.skipPush = true)
    (h : p.IsRun host scaffold document stopped session walk ending (.ok ()) result)
    (hreported : Reported (answerOf result)) :
    (answerOf result).map RunOutcome.masked = .ok {
      report := ExecutionReport.build
        (p.after host walk (p.begin scaffold document session)).run.masked scaffold.name default
        none [] ((stateOf result).frameHistory.map FrameRecord.masked) (.start 0)
      reportPath := ""
      contextPath := none } := by
  have hhistory := h.frameHistory_eq
  have hcommands := h.commandHistory_walk hskip
  have hconcluded := h.concluded
  rw [hconcluded] at hreported
  obtain ⟨path, metrics, hanswer⟩ := answerOf_conclude hpreserves host _ _ hreported
  rw [hhistory, hconcluded, hanswer, hcommands]
  simp only [Except.map, RunOutcome.masked, ExecutionReport.masked_build]

/-- Two runs that have walked alike give the same answer. -/
theorem masked_answer_eq (hpreserves : scaffold.contextPreservation = false)
    (hskip : p.skipPush = true)
    (h : p.IsRun host scaffold document stopped session walk ending answer result)
    (h' : p.IsRun host scaffold document stopped session' walk' ending' answer result')
    (hsame : SameActs walk walk') (hreported : Reported (answerOf result))
    (hreported' : Reported (answerOf result')) :
    (answerOf result).map RunOutcome.masked = (answerOf result').map RunOutcome.masked := by
  cases answer with
  | error e => rw [h.answerOf_eq_error, h'.answerOf_eq_error]
  | ok u =>
      have hrun : (p.after host walk (p.begin scaffold document session)).run.masked =
          (p.after host walk' (p.begin scaffold document session')).run.masked :=
        masked_run_eq hpreserves hsame
      rw [h.masked_answer hpreserves hskip hreported,
        h'.masked_answer hpreserves hskip hreported', hrun, h.masked_frameHistory_eq h' hsame]

/-- Two runs that have walked alike report the same failure. -/
theorem exists_failures (hpreserves : scaffold.contextPreservation = false)
    (h : p.IsRun host scaffold document stopped session walk ending answer result)
    (h' : p.IsRun host scaffold document stopped session' walk' ending' answer result')
    (hsame : SameActs walk walk') {e : RunError} (hfails : answerOf result = .error e)
    (hfails' : answerOf result' = .error e)
    (hreported : Reported (.error e : Except RunError RunOutcome)) :
    ∃ (d d' : FailureDocument) (path path' : Except OsError String),
      d.error = e ∧ d.masked = d'.masked ∧
      .report ReportDirectory.failureSubject d.toJson path ∈ walk ++ ending ∧
      .report ReportDirectory.failureSubject d'.toJson path' ∈ walk' ++ ending' := by
  have hends := h.ends
  have hends' := h'.ends
  rw [hfails] at hends
  rw [hfails'] at hends'
  obtain ⟨d, path, herror, hrun, hmem⟩ := hends.exists_failure hpreserves hreported
  obtain ⟨d', path', herror', hrun', hmem'⟩ := hends'.exists_failure hpreserves hreported
  have hmasked : d.run.masked = d'.run.masked := by
    rw [hrun, hrun']
    exact masked_run_eq hpreserves hsame
  refine ⟨d, d', path, path', herror, ?_, List.mem_append_right walk hmem,
    List.mem_append_right walk' hmem'⟩
  rw [FailureDocument.masked, FailureDocument.masked, herror, herror', hmasked]

end IsRun

end TwoRuns

end Pipeline

/-! ## Calls -/

/-- A call keeps to itself: it starts from no context and saves none, and its histories and
its report tell of nothing but what it has done. -/
structure Served.KeepsToItself (p : Pipeline) (scaffold : Scaffold) (document : Json)
    (served : Served σ) (acts : List RunAct) : Prop where
  plays : p.Plays served.call.host (p.begin scaffold document served.before) acts
  after : served.after =
    (p.after served.call.host acts (p.begin scaffold document served.before)).session
  /-- No context is loaded, whatever the files hold. -/
  preserved : ∀ files, p.preservedContext scaffold files = none
  /-- No context is saved. -/
  save_notMem : ∀ task old new merged, .save task old new merged ∉ acts
  /-- The history of the frames lists the attempts of this run. -/
  frameHistory : List.Forall₂ FrameRecord.TellsOf served.after.frameHistory
    (RunAct.answered acts)
  /-- No command was run. -/
  commandHistory : served.after.commandHistory = []
  /-- The host has received the calls of this run. -/
  received : ∀ log, served.call.host.Records log →
    log served.after.world.state = log served.before.world.state ++ RunAct.received acts
  /-- The report repeats the histories. -/
  report : ∀ outcome, served.answer = .ok outcome →
    outcome.contextPath = none ∧
    outcome.report.frameHistory = served.after.frameHistory ∧
    outcome.report.commands = .ofHistory []

/-- Two calls that have done some acts cannot be told apart, but for what is masked. -/
structure Served.Resembles (left right : Served σ) (acts acts' : List RunAct) : Prop where
  /-- They have called the same frames in the same way. -/
  calls : (RunAct.received acts).map FrameCall.masked =
    (RunAct.received acts').map FrameCall.masked
  /-- They have completed with the same report, or failed with the same error. -/
  answer : left.answer.map RunOutcome.masked = right.answer.map RunOutcome.masked
  /-- The same attempts have had the same outcomes. -/
  frameHistory : left.after.frameHistory.map FrameRecord.masked =
    right.after.frameHistory.map FrameRecord.masked
  /-- If they have failed, they have reported the same failure. -/
  failure : ∀ e, left.answer = .error e → ∃ (d d' : FailureDocument)
    (path path' : Except OsError String), d.error = e ∧ d.masked = d'.masked ∧
      .report ReportDirectory.failureSubject d.toJson path ∈ acts ∧
      .report ReportDirectory.failureSubject d'.toJson path' ∈ acts'

namespace Pipeline

variable {p : Pipeline} {scaffold : Scaffold} {document : Json}

/-- A run that preserves no context keeps to itself. -/
theorem IsRun.keepsToItself (hpreserves : scaffold.contextPreservation = false)
    (hskip : p.skipPush = true) {served : Served σ} {stopped : Bool} {walk ending : List RunAct}
    {answer : Except RunError Unit} {result : EStateM.Result RunError (Session σ) RunOutcome}
    (h : p.IsRun served.call.host scaffold document stopped served.before walk ending answer
      result)
    (hanswer : served.answer = answerOf result) (hafter : served.after = stateOf result)
    (hreported : Reported served.answer) :
    served.KeepsToItself p scaffold document (walk ++ ending) where
  plays := h.plays
  after := hafter.trans h.state
  preserved _ := by simp [preservedContext, hpreserves]
  save_notMem := RunAct.save_notMem_of_isInward (h.isInward hpreserves hskip)
  frameHistory := by
    rw [hafter, h.state]
    exact frameHistory_of_plays h.plays
  commandHistory := by
    rw [hafter, h.state, commandHistory_after h.plays,
      RunAct.ran_of_isInward (h.isInward hpreserves hskip)]
    rfl
  received log hlog := by
    rw [hafter, h.state]
    exact hlog.after p _ _
  report outcome hok := by
    rw [hanswer] at hok hreported
    rw [h.concluded] at hok hreported
    cases answer with
    | error e => simp [conclude, ended, answerOf] at hok
    | ok u =>
        obtain ⟨path, metrics, hconclude⟩ := answerOf_conclude hpreserves served.call.host _ _
          hreported
        obtain rfl := Except.ok.inj (hok.symm.trans hconclude)
        refine ⟨rfl, ?_, ?_⟩
        · rw [hafter]
          exact h.frameHistory_eq.symm
        · exact congrArg CommandAnalysis.ofHistory (h.commandHistory_walk hskip)

/-- The next run of a scaffold that preserves no context is the same whatever has run
before: it makes the same calls and comes to the same result with the same report, but for
the metrics, the times, the ids of runs and the paths of reports.  It keeps to itself, so
nothing of an earlier run is found in its histories.  A run with a writable directory of
reports is reported, as `IsRun.exists_not_isWritable` has it. -/
theorem respond_isolated {scaffoldId : String}
    (hfound : p.registry.scaffolds.get? scaffoldId = some scaffold)
    (hpreserves : scaffold.contextPreservation = false) (hskip : p.skipPush = true)
    {host : Host σ} (hhost : host.IsReproducible) {input : Json}
    (hinput : runInput input = .ok document) (stopped : Bool)
    (earlier earlier' : List (RunCall σ)) (start start' : Session σ) (world world' : World σ)
    {left right : Served σ}
    (hleft : left = p.respond (p.sessionAfter earlier start)
      ⟨host, scaffoldId, input, stopped, world⟩)
    (hright : right = p.respond (p.sessionAfter earlier' start')
      ⟨host, scaffoldId, input, stopped, world'⟩)
    (hreported : Reported left.answer) (hreported' : Reported right.answer) :
    ∃ acts acts', left.KeepsToItself p scaffold document acts ∧
      right.KeepsToItself p scaffold document acts' ∧ left.Resembles right acts acts' := by
  obtain ⟨walk, ending, answer, hrun⟩ := exists_isRun hfound hinput host stopped
    { p.sessionAfter earlier start with world := world }
  obtain ⟨walk', ending', answer', hrun'⟩ := exists_isRun hfound hinput host stopped
    { p.sessionAfter earlier' start' with world := world' }
  subst hleft hright
  have hkeeps := hrun.keepsToItself hpreserves hskip rfl rfl hreported
  have hkeeps' := hrun'.keepsToItself hpreserves hskip rfl rfl hreported'
  refine ⟨walk ++ ending, walk' ++ ending', hkeeps, hkeeps', ?_⟩
  obtain ⟨hsame, rfl⟩ := hrun.determined hpreserves hskip hhost hrun' hreported hreported'
  have hanswer := hrun.masked_answer_eq hpreserves hskip hrun' hsame hreported hreported'
  refine ⟨?_, hanswer, hrun.masked_frameHistory_eq hrun' hsame, fun e hfails => ?_⟩
  · rw [hrun.received_eq, hrun'.received_eq]
    exact hsame.received
  · have hfails' : answerOf (p.execute host scaffoldId input stopped
        { p.sessionAfter earlier' start' with world := world' }) = .error e := by
      change answerOf (p.execute _ _ _ _ _) = _ at hfails
      rw [hfails] at hanswer
      generalize answerOf _ = other at hanswer ⊢
      cases other with
      | ok outcome => simp [Except.map] at hanswer
      | error e' => exact congrArg Except.error (Except.error.inj hanswer).symm
    rw [hfails] at hreported
    exact hrun.exists_failures hpreserves hrun' hsame hfails hfails' hreported

/-- A scaffold that preserves no context, with a frame before the audit and one after it. -/
def forgetful : Config where
  frames := [("probe", Frame.ofScript "probe" "Probe" "probe.py")]
  scaffolds := [("check", {
    ((Scaffold.empty "check" "Check").withStage .scope ["probe"] ["probe"]).withStage
      .approval ["probe"] [] with contextPreservation := false })]

/-- A call of the scaffold on a host, in a world. -/
def checking (host : Host (List FrameCall)) (world : World (List FrameCall)) :
    RunCall (List FrameCall) :=
  ⟨host, "check", .null, false, world⟩

/-- A day after a run that has failed, with what it has left, a run is the same as the
first one. -/
theorem respond_forgetful_isolated :
    ∃ p scaffold world left right acts acts', Pipeline.ofConfig forgetful "/" true = .ok p ∧
      world = { (p.sessionAfter [checking refusing emptySession.world] emptySession).world with
        now := ⟨86400, 0⟩ } ∧
      left = p.respond (p.sessionAfter [] emptySession) (checking noting emptySession.world) ∧
      right = p.respond
        (p.sessionAfter [checking refusing emptySession.world] emptySession)
        (checking noting world) ∧
      left.answer.isOk = true ∧ right.answer.isOk = true ∧
      left.KeepsToItself p scaffold (.obj []) acts ∧
      right.KeepsToItself p scaffold (.obj []) acts' ∧ left.Resembles right acts acts' := by
  obtain ⟨p, scaffold, hconfig, hfound, hpreserves, hskip⟩ : ∃ p scaffold,
      Pipeline.ofConfig forgetful "/" true = .ok p ∧
      p.registry.scaffolds.get? "check" = some scaffold ∧
      scaffold.contextPreservation = false ∧ p.skipPush = true := ⟨_, _, rfl, rfl, rfl, rfl⟩
  have hhost : noting.IsReproducible := fun _ _ _ _ _ => rfl
  obtain ⟨world, hworld⟩ : ∃ world, world =
      { (p.sessionAfter [checking refusing emptySession.world] emptySession).world with
        now := ⟨86400, 0⟩ } := ⟨_, rfl⟩
  obtain ⟨hleft, hright⟩ :
      (p.respond (p.sessionAfter [] emptySession)
        (checking noting emptySession.world)).answer.isOk = true ∧
      (p.respond (p.sessionAfter [checking refusing emptySession.world] emptySession)
        (checking noting world)).answer.isOk = true := by
    obtain rfl := Except.ok.inj hconfig
    subst hworld
    decide +kernel
  obtain ⟨acts, acts', hkeeps, hkeeps', hresembles⟩ := respond_isolated hfound hpreserves hskip
    hhost (rfl : runInput .null = .ok (.obj [])) false []
    [checking refusing emptySession.world] emptySession emptySession emptySession.world world
    rfl rfl (.of_isOk hleft) (.of_isOk hright)
  exact ⟨p, scaffold, world, _, _, acts, acts', hconfig, hworld, rfl, rfl, hleft, hright,
    hkeeps, hkeeps', hresembles⟩

end Pipeline

end ScaffoldRunner
