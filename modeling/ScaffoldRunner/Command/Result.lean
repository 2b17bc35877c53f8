import ScaffoldRunner.Json.Record

/-!
# Results of commands

What is known of a command that was run: its output, whether it succeeded and, if it did not, the
kind of the failure, its severity and what to do about it.
-/

namespace ScaffoldRunner

inductive FailureKind where
  | dependencyMissing
  | permissionDenied
  | timeout
  | memoryIssue
  | configurationError
  | executionError
  deriving DecidableEq, Repr

/-- How bad a failure is. -/
inductive Severity where
  | low
  | medium
  | high
  | critical
  deriving DecidableEq, Repr

namespace Severity

def name : Severity → String
  | low => "low"
  | medium => "medium"
  | high => "high"
  | critical => "critical"

def named : List (String × Severity) :=
  [("low", low), ("medium", medium), ("high", high), ("critical", critical)]

/-- Whether a failure is escalated. -/
def isCritical : Severity → Bool
  | high | critical => true
  | low | medium => false

end Severity

namespace FailureKind

def name : FailureKind → String
  | dependencyMissing => "dependency_missing"
  | permissionDenied => "permission_denied"
  | timeout => "timeout"
  | memoryIssue => "memory_issue"
  | configurationError => "configuration_error"
  | executionError => "execution_error"

/-- All kinds, the classified ones first and in the order of classification. -/
def all : List FailureKind :=
  [dependencyMissing, permissionDenied, timeout, memoryIssue, configurationError, executionError]

def named : List (String × FailureKind) := all.map fun kind => (kind.name, kind)

def severity : FailureKind → Severity
  | dependencyMissing | permissionDenied => .high
  | memoryIssue => .critical
  | timeout | configurationError | executionError => .medium

/-- What to do about a failure of a kind. -/
def recommendations : FailureKind → List String
  | dependencyMissing =>
      ["Install missing dependencies", "Check package.json for required packages",
        "Run 'npm install' to install dependencies", "Verify Node.js/npm installation"]
  | permissionDenied =>
      ["Check file permissions", "Run with appropriate user privileges", "Verify file ownership",
        "Check if files are read-only"]
  | timeout =>
      ["Increase timeout value", "Check for infinite loops",
        "Consider breaking into smaller commands", "Monitor system resources"]
  | memoryIssue =>
      ["Increase system memory", "Optimize memory usage", "Check for memory leaks",
        "Consider using streaming for large files"]
  | configurationError =>
      ["Check configuration files", "Verify environment variables",
        "Review configuration syntax", "Check for missing config files"]
  | executionError =>
      ["Check command syntax", "Verify dependencies are installed", "Check file permissions"]

end FailureKind

structure CommandResult where
  command : String
  returnCode : Int
  stdout : String
  stderr : String
  executionTimeSecs : Float
  success : Bool
  failureKind : Option FailureKind
  recommendations : List String
  dependenciesAffected : List String
  severity : Severity

namespace CommandResult

/-- The name of the kind of a failure. -/
def label (result : CommandResult) : String :=
  match result.failureKind with
  | some kind => kind.name
  | none => "unknown"

/-- The fields of a result in documents, in their order. -/
def fieldNames : List String :=
  ["command", "return_code", "stdout", "stderr", "execution_time_secs", "success", "error_type",
    "recommendations", "dependencies_affected", "severity"]

/-- Read a result from a document. -/
def ofJson? (j : Json) : Option CommandResult := do
  let [command, returnCode, stdout, stderr, executionTimeSecs, success, failureKind,
    recommendations, dependenciesAffected, severity] ← Record.fields? .json fieldNames j | none
  return {
    command := ← Record.required Record.string? command
    returnCode := ← Record.required Record.i32? returnCode
    stdout := ← Record.required Record.string? stdout
    stderr := ← Record.required Record.string? stderr
    executionTimeSecs := ← Record.required Record.float? executionTimeSecs
    success := ← Record.required Record.bool? success
    failureKind := ← Record.optional .json (Record.choice? .json FailureKind.named) failureKind
    recommendations := ← Record.required Record.strings? recommendations
    dependenciesAffected := ← Record.required Record.strings? dependenciesAffected
    severity := ← Record.required (Record.choice? .json Severity.named) severity }

def kindJson (kind : Option FailureKind) : Json := .ofOption (kind.map fun k => .str k.name)

/-- Write a result into a document. -/
def toJson (r : CommandResult) : Json :=
  .obj [("command", .str r.command), ("return_code", .int r.returnCode),
    ("stdout", .str r.stdout), ("stderr", .str r.stderr),
    ("execution_time_secs", .float r.executionTimeSecs), ("success", .bool r.success),
    ("error_type", kindJson r.failureKind), ("recommendations", .strings r.recommendations),
    ("dependencies_affected", .strings r.dependenciesAffected),
    ("severity", .str r.severity.name)]

end CommandResult

/-- A span of time in microseconds as seconds. -/
def secondsOfMicros (micros : Nat) : Float :=
  (micros / 1000000).toUInt64.toFloat +
    (micros % 1000000 * 1000).toUInt64.toFloat / (1000000000 : Float)

end ScaffoldRunner
