import ScaffoldRunner.Config.Basic
import ScaffoldRunner.Context.Store
import ScaffoldRunner.Frame.Error
import ScaffoldRunner.Redaction
import ScaffoldRunner.Stage.Result

/-!
# Runs

A run of a scaffold keeps a log with one entry per stage, and next to it the results of the stages
as later frames get to see them. `record` enters a stage, `replace` puts the result of running a
stage again in the place of the first one. What frames have learned is gathered from the log at
the end. An error says why a run failed; in reports its text is redacted.
-/

namespace ScaffoldRunner

structure Run where
  id : String
  scaffoldId : String
  input : Json
  /-- The results of the stages under their result keys. -/
  previousResults : Members := []
  /-- The context that the run started from. -/
  preserved : Option Json
  startTime : Instant
  log : List StageRecord := []

namespace Run

/-- Show the result of a stage to later frames. -/
def publishResult (result : StageResult) (run : Run) : Run :=
  { run with
    previousResults :=
      run.previousResults.insert result.stage.resultKey result.toJson.sorted }

def record (now : Instant) (result : StageResult) (run : Run) : Run :=
  let run := run.publishResult result
  { run with log := run.log ++ [{ result := result, timestamp := now }] }

/-- Put an entry in the place of the first one of its stage, or at the end when there is none. -/
def replaceIn (entry : StageRecord) : List StageRecord → List StageRecord
  | [] => [entry]
  | r :: log => if r.stage = entry.stage then entry :: log else r :: replaceIn entry log

/-- Enter the result of a stage that was run again. -/
def replace (now : Instant) (result : StageResult) (run : Run) : Run :=
  let run := run.publishResult result
  { run with log := replaceIn { result := result, retried := true, timestamp := now } run.log }

/-- The stages of the log that were not successful. -/
def failedStages (run : Run) : List Stage :=
  (run.log.filter fun r => !r.isSuccessful).map StageRecord.stage

/-- The outputs of the successful frames of a log, in order. -/
def outputs (log : List StageRecord) : List Members :=
  log.flatMap fun r => r.result.results.filterMap FrameEntry.result

/-- The items of the lists of one name in some outputs, one after another. -/
def gatherItems (key : String) (outputs : List Members) : List Json :=
  outputs.flatMap fun output => ((output.get? key).bind Json.items?).getD []

/-- The members of the objects of one name in some outputs, later ones over earlier ones. -/
def gatherMembers (key : String) (outputs : List Members) : Members :=
  (outputs.filterMap fun output => (output.get? key).bind Json.members?).foldl Dict.overlay []

/-- What the frames of a log have learned: recommendations, action items and findings. Of these,
only what is not empty is stated. -/
def learnings (log : List StageRecord) : Members :=
  let outputs := outputs log
  let list (key : String) : List (String × Json) :=
    match gatherItems key outputs with
    | [] => []
    | items => [(key, .arr items)]
  let findings : List (String × Json) :=
    match gatherMembers "findings" outputs with
    | [] => []
    | members => [("findings", .obj members)]
  Dict.ofList (list "recommendations" ++ list "action_items" ++ findings)

/-- The context that the run leaves to the next one. It does not hold the context that this run
started from, so contexts do not nest. -/
def contextToSave (now : Instant) (run : Run) : Json :=
  .obj (Dict.overlay
    (Dict.ofList [("scaffold_id", .str run.scaffoldId), ("run_id", .str run.id),
      ("input_data", run.input), ("previous_results", .obj run.previousResults),
      ("start_time", .str run.startTime.isoOffset), ("end_time", .str now.isoOffset)])
    (learnings run.log))

/-- What the report on a failed run tells about the run. -/
def failureContext (run : Run) : Json :=
  .record [("scaffold_id", .str run.scaffoldId), ("run_id", .str run.id),
    ("input_data", run.input), ("previous_results", .obj run.previousResults),
    ("preserved_context", .ofOption run.preserved),
    ("start_time", .str run.startTime.isoOffset)]

end Run

/-! ## Why a run fails -/

/-- Why a run, or a command of the program, failed. -/
inductive RunError where
  | frameFailed (frame message : String)
  | stageFailed (stage : Stage) (message : String)
  | unknownScaffold (id : String)
  | invalidInput (message : String)
  | aborted (reason : String)
  | internal (message : String)
  | config (error : ConfigError)
  | frame (error : FrameError)
  | context (error : ContextError)
  | io (error : OsError)

namespace RunError

/-- The group of an error in reports. -/
def kind : RunError → String
  | frameFailed .. => "frame_failed"
  | stageFailed .. => "stage_failed"
  | unknownScaffold _ => "unknown_scaffold"
  | invalidInput _ => "invalid_input"
  | aborted _ => "aborted"
  | internal _ => "internal_error"
  | config _ => "config_error"
  | frame _ => "frame_error"
  | context _ => "context_error"
  | io _ => "io_error"

def message : RunError → String
  | frameFailed id message => "Frame '" ++ id ++ "' failed: " ++ message
  | stageFailed stage message => "Stage " ++ stage.name ++ " failed: " ++ message
  | unknownScaffold id => "Scaffold not found: " ++ id
  | invalidInput message => "Invalid input: " ++ message
  | aborted reason => "Run aborted: " ++ reason
  | internal message => "Internal error: " ++ message
  | config error => "Configuration error: " ++ error.message
  | frame error => "Frame error: " ++ error.message
  | context error => "Context error: " ++ error.message
  | io error => "I/O error: " ++ error.message

/-- The text of an error as it may stand in a report. -/
def reportMessage (error : RunError) : String := Redaction.sanitize error.message

end RunError

end ScaffoldRunner
