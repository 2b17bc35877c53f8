import ScaffoldRunner.Json.Printer

/-!
# Why a frame fails

An attempt may fail before, while or after the script runs, also by a success criterion: a frame's
result has to contain every criterion with an equal value. The criteria are checked in the order of
their keys, and the first one that is not met is reported.
-/

namespace ScaffoldRunner

/-- A criterion that a result does not meet. -/
inductive CriteriaMismatch where
  | missingKey (key : String)
  | valueMismatch (key : String) (expected actual : Json)

namespace CriteriaMismatch

def message : CriteriaMismatch → String
  | missingKey key => "missing key '" ++ key ++ "' in frame result"
  | valueMismatch key expected actual =>
      "value mismatch for '" ++ key ++ "': expected " ++ expected.compact ++ ", got " ++
        actual.compact

end CriteriaMismatch

def checkCriterion (result : Members) (key : String) (expected : Json) :
    Option CriteriaMismatch :=
  match result.get? key with
  | none => some (.missingKey key)
  | some actual => if actual.same expected then none else some (.valueMismatch key expected actual)

/-- The first criterion that a result does not meet. -/
def firstMismatch? (result criteria : Members) : Option CriteriaMismatch :=
  criteria.findSome? fun (key, expected) => checkCriterion result key expected

/-- Why an attempt to run a frame failed. -/
inductive FrameError where
  | contextFile (reason : String)
  | spawn (program reason : String)
  | timeout (seconds : Nat)
  | exit (code : Int) (stderr : String)
  | noResponse
  | reported (text : String)
  | criteriaNotMet (mismatch : CriteriaMismatch)
  | invalidInput (reason : String)
  | execution (reason : String)

namespace FrameError

def kind : FrameError → String
  | contextFile _ => "ContextFile"
  | spawn .. => "Spawn"
  | timeout _ => "Timeout"
  | exit .. => "NonZeroExit"
  | noResponse => "NoResponse"
  | reported _ => "Reported"
  | criteriaNotMet _ => "CriteriaNotMet"
  | invalidInput _ => "InvalidInput"
  | execution _ => "Execution"

def message : FrameError → String
  | contextFile reason => "Failed to prepare frame context: " ++ reason
  | spawn program reason => "Failed to spawn '" ++ program ++ "': " ++ reason
  | timeout seconds => "Frame timed out after " ++ toString seconds ++ " seconds"
  | exit code stderr => "Frame process exited with status " ++ toString code ++ ": " ++ stderr
  | noResponse => "No JSON response found in frame output"
  | reported text => "Frame reported failure: " ++ text
  | criteriaNotMet mismatch => "Success criteria not met: " ++ mismatch.message
  | invalidInput reason => "Input validation failed: " ++ reason
  | execution reason => "Frame execution failed: " ++ reason

/-- Whether the frame ran out of time. -/
def isTimeout : FrameError → Bool
  | timeout _ => true
  | _ => false

end FrameError

end ScaffoldRunner
