import ScaffoldRunner.Command.Summary
import ScaffoldRunner.Json.Decimal
import ScaffoldRunner.Report.Audit
import ScaffoldRunner.Text.Search

/-!
# Recommendations of a report

What a report says about the stages and the commands of a run, and what it recommends.
-/

namespace ScaffoldRunner

/-- How many stages and frames of a run were successful. -/
structure ExecutionSummary where
  totalStages : Nat
  successfulStages : Nat
  failedStages : Nat
  framesExecuted : Nat
  successfulFrames : Nat
  deriving DecidableEq, Repr

namespace ExecutionSummary

def ofAudit (a : Audit) : ExecutionSummary where
  totalStages := Audit.totalStages
  successfulStages := a.successfulStages
  failedStages := a.failedStages
  framesExecuted := a.frames.executed
  successfulFrames := a.frames.successful

def successRate (s : ExecutionSummary) : Float := percentage s.successfulStages s.totalStages

/-- The success rate, in percent, that a run should reach. -/
def successThreshold : Nat := 80

/-- Whether fewer of the stages were successful than a run should reach. The counts are compared,
not the rounded percentages; without any stage the rate is zero. -/
def isPoor (s : ExecutionSummary) : Bool :=
  s.totalStages = 0 || 100 * s.successfulStages < successThreshold * s.totalStages

/-- Write a summary into a document. -/
def toJson (s : ExecutionSummary) : Json :=
  .obj [("total_stages", .nat s.totalStages), ("successful_stages", .nat s.successfulStages),
    ("failed_stages", .nat s.failedStages), ("total_frames_executed", .nat s.framesExecuted),
    ("total_successful_frames", .nat s.successfulFrames)]

end ExecutionSummary

/-- The commands of a run, and the summary of their failures. -/
structure CommandAnalysis where
  summary : FailureSummary
  history : List CommandResult

namespace CommandAnalysis

def ofHistory (history : List CommandResult) : CommandAnalysis := ⟨.ofHistory history, history⟩

/-- Write a command into a report; an empty error output is left out, a long one is cut. -/
def entryJson (r : CommandResult) : Json :=
  .obj ([("command", .str r.command), ("success", .bool r.success),
    ("error_type", CommandResult.kindJson r.failureKind), ("severity", .str r.severity.name),
    ("execution_time_secs", .float r.executionTimeSecs), ("return_code", .int r.returnCode)] ++
    (if r.stderr.isEmpty then []
      else [("stderr", .str (truncateChars r.stderr stderrLimit))]) ++
    [("recommendations", .strings r.recommendations)])

/-- Write an analysis into a document. -/
def toJson (a : CommandAnalysis) : Json :=
  .obj [("failure_summary", a.summary.toJson), ("command_history", .arr (a.history.map entryJson))]

/-- Whether a command looks after the quality of the code. -/
def isQualityCommand (command : String) : Bool :=
  Text.contains "eslint".toList command.toList || Text.contains "prettier".toList command.toList

/-- The number of failed commands that look after the quality of the code. -/
def qualityFailures (a : CommandAnalysis) : Nat :=
  a.history.countP fun r => !r.success && isQualityCommand r.command

end CommandAnalysis

structure Recommendations where
  /-- The success rate, when it is too low. -/
  lowSuccessRate : Option Float
  externalFixes : List String
  qualityFailures : Nat
  priorityActions : List CriticalIssue

namespace Recommendations

/-- What is recommended after a run with the given stages and commands. -/
def build (summary : ExecutionSummary) (commands : CommandAnalysis) : Recommendations where
  lowSuccessRate :=
    if summary.isPoor then some summary.successRate else none
  externalFixes :=
    match commands.summary.report? with
    | some report => report.recommendations
    | none => []
  qualityFailures := commands.qualityFailures
  priorityActions :=
    match commands.summary.report? with
    | some report => report.criticalIssues
    | none => []

/-- What is said about a low success rate. -/
def rateJson (rate : Float) : Json :=
  .obj [("type", .str "success_rate"),
    ("description", .str ("Low success rate (" ++ String.ofList (Decimal.fixed 1 rate) ++
      "%) - consider framework optimization")),
    ("priority", .str "high")]

/-- What is said about failures of commands that look after the quality of the code. -/
def qualityJson (count : Nat) : Json :=
  .obj [("type", .str "code_quality"),
    ("description", .str ("Address " ++ toString count ++ " code quality issues")),
    ("actions", .strings
      ["Run eslint --fix", "Run prettier --write", "Review linting configuration"])]

/-- What is said about an escalated failure. -/
def priorityJson (issue : CriticalIssue) : Json :=
  let label := match issue.failureKind with
    | some kind => kind.name
    | none => "unknown"
  .obj [("type", .str "critical_fix"),
    ("description", .str ("Fix critical " ++ label ++ " in " ++ issue.command)),
    ("recommendations", .strings issue.recommendations), ("priority", .str "critical")]

/-- Write recommendations into a document. -/
def toJson (r : Recommendations) : Json :=
  .obj [("framework_improvements", .arr (r.lowSuccessRate.toList.map rateJson)),
    ("external_fixes", .strings r.externalFixes),
    ("quality_improvements",
      .arr (if r.qualityFailures = 0 then [] else [qualityJson r.qualityFailures])),
    ("priority_actions", .arr (r.priorityActions.map priorityJson))]

end Recommendations

end ScaffoldRunner
