import ScaffoldRunner.Report.Documents
import ScaffoldRunner.Run.Stages

/-!
# Running a scaffold

A run starts from the context that the last completed run of the scaffold left. When all stages
are over the new context is saved and the run is reported; when the run fails, or is interrupted,
a failure is reported instead.
-/

namespace ScaffoldRunner

/-- What a completed run leaves behind. -/
structure RunOutcome where
  report : ExecutionReport
  reportPath : String
  contextPath : Option String

namespace Pipeline

variable {σ : Type}

/-- The pipeline of a configuration, for programs that are started in a directory. -/
def ofConfig (config : Config) (currentDir : String) (skipsPush : Bool) :
    Except ConfigError Pipeline := do
  let registry ← Registry.ofConfig config
  return {
    registry := registry
    contexts := ⟨config.resolveDir currentDir config.framework.contextDir⟩
    reports := ⟨config.resolveDir currentDir config.framework.reportsDir⟩
    commands :=
      { workingDir := config.workingDir currentDir
        timeoutMillis := config.framework.commandTimeoutSecs * 1000 }
    maxAttempts := config.framework.maxAttempts
    skipPush := skipsPush }

/-- The input of a run: an object, where `null` stands for the empty one. -/
def runInput (input : Json) : Except RunError Json :=
  match input with
  | .null => .ok (.obj [])
  | .obj members => .ok (.obj members)
  | other =>
      .error (.invalidInput ("Scaffold input must be a JSON object, got " ++ other.compact))

/-- The context that a run of a scaffold starts from. One that cannot be read is none. -/
def preservedContext (p : Pipeline) (scaffold : Scaffold) (files : FileTree) : Option Json :=
  if scaffold.contextPreservation then
    match p.contexts.load scaffold.id files with
    | .ok context => context
    | .error _ => none
  else none

def begin (p : Pipeline) (scaffold : Scaffold) (input : Json) (session : Session σ) :
    Progress σ :=
  let preserved := p.preservedContext scaffold session.world.files
  let (id, world) := session.world.freshId
  let session := { session with world := world }.clearHistories
  { session := session.count fun m => m.runBegan.setState "running"
    run :=
      { id := id
        scaffoldId := scaffold.id
        input := input
        preserved := preserved
        startTime := session.now } }

/-- Save the context of a run, if its scaffold preserves it; the answer is where it lies. -/
def saveContext (p : Pipeline) (scaffold : Scaffold) : RunM σ (Option String) := fun progress =>
  if scaffold.contextPreservation then
    let run := progress.run
    let now := progress.session.now
    let saving := p.contexts.saveMergedOver run.scaffoldId now run.preserved (run.contextToSave now)
    match progress.session.onFiles saving with
    | (.ok _, session) =>
        .ok (some (p.contexts.taskPath run.scaffoldId)) { progress with session := session }
    | (.error e, session) => .error (.context e) { progress with session := session }
  else .ok none progress

def reportRun (p : Pipeline) (scaffold : Scaffold) (contextPath : Option String) :
    RunM σ RunOutcome := do
  let progress ← get
  let session := progress.session
  let report := ExecutionReport.build progress.run scaffold.name session.now contextPath
    session.commandHistory session.frameHistory session.metrics
  let path ← RunM.writeReport p.reports
    (ReportDirectory.executionSubject progress.run.scaffoldId) report.toJson
  return { report := report, reportPath := path, contextPath := contextPath }

/-- Save the context of a run and report the run. -/
def finish (p : Pipeline) (scaffold : Scaffold) : RunM σ RunOutcome := do
  p.reportRun scaffold (← p.saveContext scaffold)

/-- Report the failure of a run. That the report cannot be written changes nothing. -/
def reportFailure (p : Pipeline) (error : RunError) (progress : Progress σ) : Session σ :=
  let now := progress.session.now
  let document : FailureDocument := { timestamp := now, error := error, run := progress.run }
  (progress.session.onFiles
    (p.reports.write ReportDirectory.failureSubject now document.toJson)).2

/-- Run all stages, unless the shutdown comes first. -/
def runUnlessStopped (p : Pipeline) (host : Host σ) (stopped : Bool) : RunM σ Unit :=
  if stopped then throw (.aborted shutdownReason) else p.runStages host

/-- What follows the stages of a run that began at a given time. -/
def conclude (p : Pipeline) (scaffold : Scaffold) (began : Instant) :
    EStateM.Result RunError (Progress σ) Unit → EStateM.Result RunError (Session σ) RunOutcome
  | .ok () progress =>
      let millis := progress.session.now.microsSince began / 1000
      let session := progress.session.count fun m => (m.runDone millis).setState "completed"
      match p.finish scaffold { progress with session := session } with
      | .ok outcome progress => .ok outcome progress.session
      | .error e progress =>
          let session := progress.session.count fun m => m.setState "failed"
          .error e (p.reportFailure e { progress with session := session })
  | .error e progress =>
      let millis := progress.session.now.microsSince began / 1000
      let session := progress.session.count fun m => (m.runBroke millis).setState "failed"
      .error e (p.reportFailure e { progress with session := session })

/-- Run a scaffold. When the shutdown comes before the first stage, no stage is run. -/
def execute (p : Pipeline) (host : Host σ) (scaffoldId : String) (input : Json)
    (stopped : Bool) : EStateM RunError (Session σ) RunOutcome := fun session =>
  match p.registry.scaffolds.get? scaffoldId with
  | none => .error (.unknownScaffold scaffoldId) session
  | some scaffold =>
      match runInput input with
      | .error e => .error e session
      | .ok input =>
          let progress := p.begin scaffold input session
          p.conclude scaffold progress.session.now (p.runUnlessStopped host stopped progress)

end Pipeline

end ScaffoldRunner
