import ScaffoldRunner.Publication
import ScaffoldRunner.Redaction
import ScaffoldRunner.Report.Audit
import ScaffoldRunner.Stage

/-!
# Results of stages

The result of a stage lists its frames in the order in which they ran; the stages that do more
than run frames add what they have done. A stage is successful when all of its frames are, and
when what it did besides went well.
-/

namespace ScaffoldRunner

inductive StageStatus where
  | noFrames
  | completed
  | retryCompleted
  | metaAuditComplete
  | skipped
  | published
  deriving DecidableEq, Repr

namespace StageStatus

def name : StageStatus → String
  | noFrames => "no_frames"
  | completed => "completed"
  | retryCompleted => "retry_completed"
  | metaAuditComplete => "meta_audit_complete"
  | skipped => "skipped"
  | published => "published"

end StageStatus

/-- What became of a frame in a stage. -/
structure FrameEntry where
  frameId : String
  frameName : String
  success : Bool
  critical : Bool
  result : Option Members := none
  error : Option String := none

namespace FrameEntry

/-- The entry of a frame with the given outcome; the text of its error is redacted. -/
def ofOutcome (frame : Frame) (critical : Bool) (outcome : FrameOutcome) : FrameEntry :=
  match outcome with
  | .ok result =>
      { frameId := frame.id, frameName := frame.name, success := true, critical := critical
        result := some result }
  | .error e =>
      { frameId := frame.id, frameName := frame.name, success := false, critical := critical
        error := some (Redaction.sanitize e.message) }

/-- Whether the failure of the frame ends the run. -/
def endsRun (e : FrameEntry) : Bool := e.critical && !e.success

/-- What the failure of a stage says about the frame. -/
def failureText (e : FrameEntry) : String :=
  "Frame " ++ e.frameName ++ " failed: " ++ e.error.getD ""

/-- Write an entry into a document. -/
def toJson (e : FrameEntry) : Json :=
  .obj ([("frame_id", .str e.frameId), ("frame_name", .str e.frameName),
    ("success", .bool e.success), ("critical", .bool e.critical)] ++
    Json.optionalMember "result" (e.result.map .obj) ++
    Json.optionalMember "error" (e.error.map .str))

end FrameEntry

/-- What became of running earlier stages again. -/
structure RetryOutcome where
  failed : List Stage
  retried : List Stage
  recovered : Bool

namespace RetryOutcome

/-- Write an outcome into a document. -/
def toJson (r : RetryOutcome) : Json :=
  let numbers (stages : List Stage) : Json := .arr (stages.map fun stage => .nat stage.number)
  .obj [("failed_stages", numbers r.failed), ("retried_stages", numbers r.retried),
    ("recovered", .bool r.recovered)]

end RetryOutcome

/-- An audit and where its report lies. -/
structure AuditOutcome where
  audit : Audit
  reportPath : String

namespace AuditOutcome

/-- Write an outcome into a document. -/
def toJson (o : AuditOutcome) : Json :=
  .obj [("meta_analysis", o.audit.toJson), ("report_path", .str o.reportPath)]

end AuditOutcome

structure StageResult where
  stage : Stage
  status : StageStatus
  message : Option String := none
  results : List FrameEntry
  retry : Option RetryOutcome := none
  audit : Option AuditOutcome := none
  publication : Option Publication := none

namespace StageResult

def noFrames (stage : Stage) : StageResult where
  stage := stage
  status := .noFrames
  message := some ("No frames defined for stage " ++ toString stage.number)
  results := []

def ofFrames (stage : Stage) (results : List FrameEntry) : StageResult where
  stage := stage
  status := .completed
  results := results

/-- How many frames were run. -/
def totals (r : StageResult) : FrameTotals :=
  let successful := r.results.countP FrameEntry.success
  ⟨r.results.length, successful, r.results.length - successful⟩

def framesSuccessful (r : StageResult) : Bool := r.results.all FrameEntry.success

def isSuccessful (r : StageResult) : Bool :=
  r.framesSuccessful && r.retry.all RetryOutcome.recovered &&
    r.publication.all Publication.isSuccess

/-- The frames whose failure ends the run. -/
def criticalFailures (r : StageResult) : List FrameEntry := r.results.filter FrameEntry.endsRun

/-- Write a result into a document. -/
def toJson (r : StageResult) : Json :=
  .obj ([("stage", .nat r.stage.number), ("stage_name", .str r.stage.name),
    ("status", .str r.status.name)] ++
    Json.optionalMember "message" (r.message.map .str) ++
    [("frames_executed", .nat r.totals.executed), ("successful_frames", .nat r.totals.successful),
      ("failed_frames", .nat r.totals.failed),
      ("results", .arr (r.results.map FrameEntry.toJson))] ++
    Json.optionalMember "retry" (r.retry.map RetryOutcome.toJson) ++
    Json.optionalMember "meta_audit" (r.audit.map AuditOutcome.toJson) ++
    Json.optionalMember "publish" (r.publication.map Publication.toJson))

end StageResult

/-- The entry of a stage in the log of a run. -/
structure StageRecord where
  result : StageResult
  /-- Whether the stage was run again. -/
  retried : Bool := false
  timestamp : Instant

namespace StageRecord

def stage (r : StageRecord) : Stage := r.result.stage

def isSuccessful (r : StageRecord) : Bool := r.result.isSuccessful

/-- Write an entry into a document. -/
def toJson (r : StageRecord) : Json :=
  .obj [("stage", .nat r.stage.number), ("stage_name", .str r.stage.name),
    ("result", r.result.toJson), ("retried", .bool r.retried),
    ("timestamp", .str r.timestamp.iso)]

/-- How many frames the stages of a log have run. -/
def frameTotals (log : List StageRecord) : FrameTotals :=
  .sum (log.map fun r => r.result.totals)

def audit (log : List StageRecord) (preserved : Option Json) : Audit :=
  .of (log.map isSuccessful) (frameTotals log) preserved

end StageRecord

end ScaffoldRunner
