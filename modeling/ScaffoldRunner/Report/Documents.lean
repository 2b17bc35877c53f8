import ScaffoldRunner.Report.Recommendations
import ScaffoldRunner.Run.Basic

/-!
# Reports on runs

A completed run is reported in full; of a failed one the report tells the error, the log and what
the run started from.
-/

namespace ScaffoldRunner

/-- The version of the form of a report. -/
def reportVersion : String := "2.0"

def frameworkVersion : String := "0.1.0"

/-- The report on a completed run. -/
structure ExecutionReport where
  run : Run
  scaffoldName : String
  endTime : Instant
  summary : ExecutionSummary
  /-- Where the context was saved, if the scaffold preserves it. -/
  contextPath : Option String
  commands : CommandAnalysis
  frameHistory : List FrameRecord
  metrics : Metrics
  recommendations : Recommendations

namespace ExecutionReport

/-- The report on a run with the given scaffold name, commands, frames and metrics. -/
def build (run : Run) (scaffoldName : String) (endTime : Instant) (contextPath : Option String)
    (commandHistory : List CommandResult) (frameHistory : List FrameRecord)
    (metrics : Metrics) : ExecutionReport :=
  let summary := ExecutionSummary.ofAudit (StageRecord.audit run.log run.preserved)
  let commands := CommandAnalysis.ofHistory commandHistory
  { run := run
    scaffoldName := scaffoldName
    endTime := endTime
    summary := summary
    contextPath := contextPath
    commands := commands
    frameHistory := frameHistory
    metrics := metrics
    recommendations := .build summary commands }

def toJson (r : ExecutionReport) : Json :=
  .obj [
    ("metadata", .obj [("scaffold_id", .str r.run.scaffoldId),
      ("scaffold_name", .str r.scaffoldName), ("run_id", .str r.run.id),
      ("start_time", .str r.run.startTime.iso), ("end_time", .str r.endTime.iso),
      ("version", .str reportVersion), ("framework_version", .str frameworkVersion)]),
    ("execution_summary", r.summary.toJson),
    ("context_preservation", .obj ([("context_loaded", .bool r.run.preserved.isSome),
      ("context_items", .nat (Audit.itemCount r.run.preserved)),
      ("context_preserved", .bool r.contextPath.isSome)] ++
      Json.optionalMember "context_path" (r.contextPath.map .str))),
    ("external_command_analysis", r.commands.toJson),
    ("stage_results", .arr (r.run.log.map StageRecord.toJson)),
    ("frame_execution_history", .arr (r.frameHistory.map FrameRecord.toJson)),
    ("input_data", r.run.input),
    ("previous_results", .obj r.run.previousResults),
    ("metrics", r.metrics.snapshot r.endTime.seconds.toNat),
    ("recommendations", r.recommendations.toJson)]

end ExecutionReport

/-- The report on a failed run. -/
structure FailureDocument where
  timestamp : Instant
  error : RunError
  run : Run

namespace FailureDocument

/-- Write a report into a document; the text of the error is redacted. -/
def toJson (d : FailureDocument) : Json :=
  .obj [("timestamp", .str d.timestamp.iso), ("error", .str d.error.reportMessage),
    ("error_kind", .str d.error.kind), ("context", d.run.failureContext),
    ("execution_log", .arr (d.run.log.map StageRecord.toJson))]

end FailureDocument

end ScaffoldRunner
