import ScaffoldRunner.Frame.Attempts
import ScaffoldRunner.Registry
import ScaffoldRunner.Report.Directory
import ScaffoldRunner.Run.Basic

/-!
# The stages of a run

A stage runs its frames one after another; all of them see the results of earlier stages only.
When a critical frame fails, the other frames of the stage are still run, the stage is entered
into the log, and the run fails. Some stages do more. If an earlier stage was not successful, the
fifth one runs the second, third and fourth again. The seventh audits the log, and the tenth
publishes the working directory, unless that is switched off.
-/

namespace ScaffoldRunner

/-- What all runs of a configuration share. -/
structure Pipeline where
  registry : Registry
  contexts : ContextStore
  reports : ReportDirectory
  commands : CommandSettings
  maxAttempts : Nat
  /-- Whether the last stage leaves the remote alone. -/
  skipPush : Bool

structure Progress (σ : Type) where
  session : Session σ
  run : Run

abbrev RunM (σ : Type) := EStateM RunError (Progress σ)

/-- Why an interrupted run is aborted. -/
def shutdownReason : String := "interrupted by shutdown signal"

namespace RunM

variable {σ : Type} {α : Type}

/-- Do something in the session; an interruption aborts the run. -/
def inSession (action : SessionM σ α) : RunM σ α := fun p =>
  match action p.session with
  | .ok a session => .ok a { p with session := session }
  | .error .shutdown session => .error (.aborted shutdownReason) { p with session := session }

def count (change : Metrics → Metrics) : RunM σ Unit :=
  modify fun p => { p with session := p.session.count change }

/-- Enter the result of a stage into the log, as a first or as a repeated one. -/
def enter (retrying : Bool) (result : StageResult) : RunM σ Unit :=
  modify fun p =>
    let now := p.session.now
    { p with run := if retrying then p.run.replace now result else p.run.record now result }

/-- Enter the result of a stage that did not end the run. -/
def conclude (retrying : Bool) (result : StageResult) : RunM σ Unit := do
  count fun m => m.stageEnded result.isSuccessful
  enter retrying result

/-- Write a report; that it cannot be written fails the run. -/
def writeReport (reports : ReportDirectory) (subject : String) (document : Json) :
    RunM σ String := fun p =>
  match p.session.onFiles (reports.write subject p.session.now document) with
  | (.ok path, session) => .ok path { p with session := session }
  | (.error e, session) => .error (.io e) { p with session := session }

end RunM

namespace Pipeline

variable {σ : Type}

def firstCall (p : Pipeline) (stage : Stage) (run : Run) (frame : Frame) : FrameCall :=
  .first stage frame run.input run.previousResults run.preserved p.maxAttempts

def runFrame (p : Pipeline) (host : Host σ) (stage : Stage) (frame : Frame) :
    RunM σ FrameEntry := do
  let run := (← get).run
  let outcome ← RunM.inSession ((p.firstCall stage run frame).execute host p.contexts)
  return .ofOutcome frame (p.registry.isCritical run.scaffoldId stage frame.id) outcome

/-- The text of the failure of a stage. -/
def failureMessage (failures : List FrameEntry) : String :=
  Text.join "; " (failures.map FrameEntry.failureText)

/-- Accept the result of the frames of a stage. A failed critical frame ends the run after the
stage was entered into the log. -/
def accept (retrying : Bool) (result : StageResult) : RunM σ StageResult :=
  match result.criticalFailures with
  | [] => return result
  | failures => do
      let message := failureMessage failures
      RunM.count fun m => m.stageEnded false
      RunM.enter retrying { result with message := some message }
      throw (.stageFailed result.stage message)

/-- Run the frames that are planned for a stage. -/
def runFrames (p : Pipeline) (host : Host σ) (stage : Stage) (retrying : Bool) :
    RunM σ StageResult := do
  let frames := p.registry.framesFor (← get).run.scaffoldId stage
  if frames.isEmpty then return .noFrames stage
  accept retrying (.ofFrames stage (← frames.mapM (p.runFrame host stage)))

def repeatedStages : List Stage := [.identifyAnalyze, .plan, .implement]

/-- Run a stage again; the answer is whether it was successful. -/
def repeatStage (p : Pipeline) (host : Host σ) (stage : Stage) : RunM σ Bool := do
  let result ← p.runFrames host stage true
  RunM.conclude true result
  return result.isSuccessful

/-- Run stages again if one of the log was not successful. -/
def retry (p : Pipeline) (host : Host σ) : RunM σ (Option RetryOutcome) := do
  match (← get).run.failedStages with
  | [] => return none
  | failed =>
      let outcomes ← repeatedStages.mapM (p.repeatStage host)
      return some { failed := failed, retried := repeatedStages, recovered := outcomes.all id }

/-- Audit the log and report it. -/
def audit (p : Pipeline) : RunM σ AuditOutcome := do
  let run := (← get).run
  let audit := StageRecord.audit run.log run.preserved
  let path ← RunM.writeReport p.reports (ReportDirectory.auditSubject run.scaffoldId) audit.toJson
  return { audit := audit, reportPath := path }

/-- The result of the last stage when nothing is published. -/
def unpublished (result : StageResult) : StageResult :=
  { result with
    status := if result.results.isEmpty then .skipped else result.status
    message := some "Git push disabled" }

/-- Do what a stage does after its frames. -/
def completeStage (p : Pipeline) (host : Host σ) (result : StageResult) : RunM σ StageResult :=
  match result.stage with
  | .successContinue => do
      match ← p.retry host with
      | some outcome => return { result with status := .retryCompleted, retry := some outcome }
      | none => return result
  | .metaAudit => do
      let outcome ← p.audit
      return { result with status := .metaAuditComplete, audit := some outcome }
  | .pushRemote =>
      if p.skipPush then do
        RunM.count Metrics.stageSkipped
        return unpublished result
      else do
        let publication ← RunM.inSession (Publication.publish host p.commands)
        return { result with
          status := .published
          message := some publication.message
          publication := some publication }
  | _ => return result

/-- Run a stage and enter its result into the log. -/
def runStage (p : Pipeline) (host : Host σ) (stage : Stage) : RunM σ Unit := do
  let result ← p.completeStage host (← p.runFrames host stage false)
  RunM.conclude false result

def runStages (p : Pipeline) (host : Host σ) : RunM σ Unit := Stage.all.forM (p.runStage host)

end Pipeline

end ScaffoldRunner
