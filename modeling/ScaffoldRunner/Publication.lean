import ScaffoldRunner.Command.Diagnosis
import ScaffoldRunner.Command.Execution
import ScaffoldRunner.Command.Summary

/-!
# Publication

Publishing commits everything in the working directory and pushes it. When the directory is no
repository nothing else is tried; otherwise adding, committing and pushing are all tried, whatever
becomes of each.
-/

namespace ScaffoldRunner

inductive PublicationStatus where
  | success
  | partialSuccess
  | error
  | noRepository
  deriving DecidableEq, Repr

namespace PublicationStatus

def named : List (String × PublicationStatus) :=
  [("success", success), ("partial_success", partialSuccess), ("error", error),
    ("no_repository", noRepository)]

def name : PublicationStatus → String
  | success => "success"
  | partialSuccess => "partial_success"
  | error => "error"
  | noRepository => "no_repository"

end PublicationStatus

/-- What is known about a publication. -/
structure Publication where
  status : PublicationStatus
  message : String
  /-- The message of the commit, if anything was done. -/
  commitMessage : Option String := none
  failures : List CommandResult := []
  commitFailure : Option CommitFailure := none
  summary : Option FailureSummary := none
  diagnosis : Option Diagnosis := none
  recommendations : List String := []

namespace Publication

/-- Whether everything went well. -/
def isSuccess (p : Publication) : Bool := p.status = .success

/-- Write a publication into a document. -/
def toJson (p : Publication) : Json :=
  .obj ([("status", .str p.status.name), ("message", .str p.message)] ++
    Json.optionalMember "commit_message" (p.commitMessage.map .str) ++
    [("external_failures", .arr (p.failures.map CommandResult.toJson))] ++
    Json.optionalMember "commit_analysis" (p.commitFailure.map CommitFailure.toJson) ++
    Json.optionalMember "failure_summary" (p.summary.map FailureSummary.toJson) ++
    Json.optionalMember "diagnostic_report" (p.diagnosis.map Diagnosis.toJson) ++
    [("recommendations", .strings p.recommendations)])

/-- The message of a commit at a given time. -/
def commitMessageAt (now : Instant) : String := "Octospine scaffold update - " ++ now.clockText

def withoutRepository (status : CommandResult) : Publication where
  status := .noRepository
  message := "Not in a git repository"
  failures := [status]
  recommendations := status.recommendations

/-- The publication in which nothing failed. -/
def complete (commitMessage : String) (summary : FailureSummary) : Publication where
  status := .success
  message := "Successfully pushed to remote"
  commitMessage := some commitMessage
  summary := some summary

/-- What to do about failures, by the summary of all commands and by the failed commit. -/
def advice (summary : FailureSummary) (commitFailure : Option CommitFailure) : List String :=
  distinct ((match summary.report? with
    | some report => report.recommendations
    | none => []) ++ match commitFailure with
    | some failure => failure.recommendations
    | none => [])

/-- The publication in which some of the three commands failed. -/
def incomplete (now : Instant) (commitMessage : String) (failures : List CommandResult)
    (commitFailure : Option CommitFailure) (summary : FailureSummary) : Publication :=
  let anySucceeded := failures.length < 3
  { status := if anySucceeded then .partialSuccess else .error
    message :=
      "Git operations completed with " ++ toString failures.length ++ " external failures"
    commitMessage := if anySucceeded then some commitMessage else none
    failures := failures
    commitFailure := commitFailure
    summary := some summary
    diagnosis := some (.ofFailures now failures)
    recommendations := advice summary commitFailure }

/-- The publication that the results of adding, committing and pushing come to. -/
def ofResults (now : Instant) (commitMessage : String) (added committed pushed : CommandResult)
    (summary : FailureSummary) : Publication :=
  let failures := [added, committed, pushed].filter fun r => !r.success
  if failures.isEmpty then complete commitMessage summary
  else
    incomplete now commitMessage failures
      (if committed.success then none else some (.ofResult committed)) summary

variable {σ : Type}

/-- Publish the working directory. -/
def publish (host : Host σ) (settings : CommandSettings) : SessionM σ Publication := do
  let status ← CommandResult.execute host settings ["git", "status"]
  if !status.success then return withoutRepository status
  let added ← CommandResult.execute host settings ["git", "add", "."]
  let message := commitMessageAt (← get).now
  let committed ← CommandResult.execute host settings ["git", "commit", "-m", message]
  let pushed ← CommandResult.execute host settings ["git", "push"]
  let session ← get
  return ofResults session.now message added committed pushed (.ofHistory session.commandHistory)

end Publication

end ScaffoldRunner
