import ScaffoldRunner.Command.Result
import ScaffoldRunner.Data.Distinct

/-!
# Summary of failures

The failures in a history of commands: how many there are, of which kinds, which of them are
escalated, and what to do about them.
-/

namespace ScaffoldRunner

/-- An escalated failure. -/
structure CriticalIssue where
  command : String
  failureKind : Option FailureKind
  severity : Severity
  recommendations : List String

/-- A failure in a summary; its error output is cut. -/
structure FailureEntry where
  command : String
  returnCode : Int
  failureKind : Option FailureKind
  severity : Severity
  stderr : String

/-- What is said about one or more failures. -/
structure FailureReport where
  totalFailures : Nat
  criticalFailures : Nat
  failuresByType : Dict Nat
  recommendations : List String
  criticalIssues : List CriticalIssue
  allFailures : List FailureEntry

inductive FailureSummary where
  | noFailures (message : String)
  | failures (report : FailureReport)

/-- The first characters of a text, at most `max`. -/
def truncateChars (text : String) (max : Nat) : String := String.ofList (text.toList.take max)

/-- The number of characters of error output in a summary. -/
def stderrLimit : Nat := 500

namespace CriticalIssue

/-- The escalated failure of a result. -/
def ofResult (r : CommandResult) : CriticalIssue :=
  ⟨r.command, r.failureKind, r.severity, r.recommendations⟩

/-- Write an escalated failure into a document. -/
def toJson (i : CriticalIssue) : Json :=
  .obj [("command", .str i.command), ("error_type", CommandResult.kindJson i.failureKind),
    ("severity", .str i.severity.name), ("recommendations", .strings i.recommendations)]

end CriticalIssue

namespace FailureEntry

def ofResult (r : CommandResult) : FailureEntry :=
  ⟨r.command, r.returnCode, r.failureKind, r.severity, truncateChars r.stderr stderrLimit⟩

/-- Write an entry into a document. -/
def toJson (e : FailureEntry) : Json :=
  .obj [("command", .str e.command), ("return_code", .int e.returnCode),
    ("error_type", CommandResult.kindJson e.failureKind), ("severity", .str e.severity.name),
    ("stderr", .str e.stderr)]

end FailureEntry

def countLabel (counts : Dict Nat) (label : String) : Dict Nat := counts.modify label 0 (· + 1)

namespace FailureReport

/-- What is said about some failed results. -/
def ofFailures (failed : List CommandResult) : FailureReport :=
  let issues := (failed.filter fun r => r.severity.isCritical).map CriticalIssue.ofResult
  { totalFailures := failed.length
    criticalFailures := issues.length
    failuresByType := (failed.map CommandResult.label).foldl countLabel []
    recommendations := distinct (failed.flatMap CommandResult.recommendations)
    criticalIssues := issues
    allFailures := failed.map FailureEntry.ofResult }

def members (r : FailureReport) : List (String × Json) :=
  [("total_failures", .nat r.totalFailures), ("critical_failures", .nat r.criticalFailures),
    ("failures_by_type", .obj (r.failuresByType.mapValues .nat)),
    ("recommendations", .strings r.recommendations),
    ("critical_issues", .arr (r.criticalIssues.map CriticalIssue.toJson)),
    ("all_failures", .arr (r.allFailures.map FailureEntry.toJson))]

end FailureReport

namespace FailureSummary

def ofHistory (history : List CommandResult) : FailureSummary :=
  match history.filter fun r => !r.success with
  | [] => .noFailures "All commands executed successfully"
  | failed => .failures (.ofFailures failed)

/-- What is said about the failures, if there are any. -/
def report? : FailureSummary → Option FailureReport
  | noFailures _ => none
  | failures report => some report

/-- Write a summary into a document. -/
def toJson : FailureSummary → Json
  | noFailures message => .obj [("status", .str "no_failures"), ("message", .str message)]
  | failures report => .obj (("status", .str "failures_detected") :: report.members)

end FailureSummary

end ScaffoldRunner
