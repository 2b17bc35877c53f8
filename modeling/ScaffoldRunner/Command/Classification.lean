import ScaffoldRunner.Command.Result
import ScaffoldRunner.Text.Search

/-!
# Classification of failures

A failed command is classified by phrases in its error output, in any letter case: the first kind
in the order of classification that has a phrase there is the kind of the failure.
-/

namespace ScaffoldRunner

namespace FailureKind

/-- The phrases of a kind, in lower case. -/
def phrases : FailureKind → List String
  | dependencyMissing =>
      ["command not found", "module not found", "package not found", "cannot find module"]
  | permissionDenied => ["permission denied", "access denied", "eacces"]
  | timeout => ["timeout", "killed", "sigterm", "sigkill"]
  | memoryIssue => ["out of memory", "enomem", "memory allocation failed"]
  | configurationError =>
      ["configuration error", "invalid configuration", "config file not found"]
  | executionError => []

/-- Whether a text has a phrase of the kind. -/
def occursIn (kind : FailureKind) (text : List Char) : Bool :=
  kind.phrases.any fun phrase => Text.containsFold phrase.toList text

/-- The kind of a failure with the given error output. -/
def classify (stderr : String) : Option FailureKind :=
  all.find? fun kind => kind.occursIn stderr.toList

end FailureKind

/-- Whether a character is a quotation mark. -/
def isQuote (c : Char) : Bool := c = '\'' || c = '"'

/-- A report of a missing module at the front of a text: the name of the module and what follows
its closing quote. -/
def missingModuleAt? (cs : List Char) : Option (String × List Char) := do
  let rest ← Text.afterPrefixFold? "cannot find module ".toList cs
  match rest with
  | [] => none
  | q :: rest =>
      if isQuote q then
        let name := rest.takeWhile fun c => !isQuote c
        match name, rest.dropWhile fun c => !isQuote c with
        | _ :: _, _ :: after => some (String.ofList name, after)
        | _, _ => none
      else none

/-- The modules that an error output reports as missing. -/
def missingModules (stderr : String) : List String := Text.findAll missingModuleAt? stderr.toList

namespace CommandResult

/-- What to do about a failure of no known kind. -/
def genericRecommendations : List String :=
  ["Review command syntax", "Check system requirements",
    "Verify all dependencies are installed", "Check logs for more details"]

/-- What to do about a command that ran out of time. -/
def timeoutRecommendations : List String :=
  ["Increase timeout value", "Check for infinite loops or deadlocks",
    "Consider breaking command into smaller parts"]

def ofOutput (command : String) (code : Int) (stdout stderr : String) (seconds : Float) :
    CommandResult :=
  let kind := if code = 0 then none else FailureKind.classify stderr
  { command := command
    returnCode := code
    stdout := stdout
    stderr := stderr
    executionTimeSecs := seconds
    success := code = 0
    failureKind := kind
    recommendations :=
      if code = 0 then []
      else
        match kind with
        | some kind => kind.recommendations
        | none => genericRecommendations
    dependenciesAffected :=
      if kind = some .dependencyMissing then missingModules stderr else []
    severity :=
      match kind with
      | some kind => kind.severity
      | none => .low }

/-- The result of a command that could not be run. -/
def notRun (command reason : String) (seconds : Float) : CommandResult where
  command := command
  returnCode := -1
  stdout := ""
  stderr := reason
  executionTimeSecs := seconds
  success := false
  failureKind := some .executionError
  recommendations := FailureKind.executionError.recommendations
  dependenciesAffected := []
  severity := .medium

/-- The result of a command that ran out of time. -/
def timedOut (command : String) (limitSecs : Nat) (seconds : Float) : CommandResult where
  command := command
  returnCode := -1
  stdout := ""
  stderr := "Command timed out after " ++ toString limitSecs ++ " seconds"
  executionTimeSecs := seconds
  success := false
  failureKind := some .timeout
  recommendations := timeoutRecommendations
  dependenciesAffected := []
  severity := .high

end CommandResult

end ScaffoldRunner
