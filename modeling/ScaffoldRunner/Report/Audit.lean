import ScaffoldRunner.Context.Merge

/-!
# The audit of a run

The audit looks at what a run has done so far: how many stages and frames were successful, and
whether the run started from a context.
-/

namespace ScaffoldRunner

/-- How many frames were run. -/
structure FrameTotals where
  executed : Nat
  successful : Nat
  failed : Nat
  deriving DecidableEq, Repr

namespace FrameTotals

/-- The totals of two parts of a run together. -/
def add (a b : FrameTotals) : FrameTotals :=
  ⟨a.executed + b.executed, a.successful + b.successful, a.failed + b.failed⟩

/-- The totals of all parts of a run. -/
def sum (parts : List FrameTotals) : FrameTotals := parts.foldl add ⟨0, 0, 0⟩

/-- Write totals into a document. -/
def toJson (t : FrameTotals) : Json :=
  .obj [("total_frames_executed", .nat t.executed), ("successful_frames", .nat t.successful),
    ("failed_frames", .nat t.failed)]

/-- Whether fewer than four fifths of the frames were successful. -/
def isPoor (t : FrameTotals) : Bool :=
  0 < t.executed && t.successful.toUInt64.toFloat / t.executed.toUInt64.toFloat < 0.8

end FrameTotals

/-- A part of a whole in percent. -/
def percentage (count total : Nat) : Float :=
  if total = 0 then 0.0 else count.toUInt64.toFloat / total.toUInt64.toFloat * 100.0

structure Audit where
  stagesEvaluated : Nat
  successfulStages : Nat
  contextLoaded : Bool
  contextItems : Nat
  contextMergeCount : Nat
  frames : FrameTotals
  deriving DecidableEq, Repr

namespace Audit

/-- The number of stages of a run. -/
def totalStages : Nat := 10

/-- The number of members of a context. -/
def itemCount (context : Option Json) : Nat :=
  ((context.bind Json.members?).getD []).length

/-- Audit a run by the success of its stages, their frames, and the context it started from. -/
def of (stages : List Bool) (frames : FrameTotals) (preserved : Option Json) : Audit where
  stagesEvaluated := stages.length
  successfulStages := stages.count true
  contextLoaded := preserved.isSome
  contextItems := itemCount preserved
  contextMergeCount := ((preserved.bind Json.members?).map Context.mergeCount).getD 0
  frames := frames

/-- The number of stages that were not successful. -/
def failedStages (a : Audit) : Nat := a.stagesEvaluated - a.successfulStages

/-- Whether the run started from a context with anything in it. -/
def hasContext (a : Audit) : Bool := a.contextItems ≠ 0

/-- What to do about the run. -/
def recommendations (a : Audit) : List String :=
  (if 0 < a.failedStages then
    ["Consider increasing max_attempts for failed stages",
      "Review frame dependencies and execution order"]
  else []) ++
  (if a.hasContext then [] else ["Enable context preservation for better continuity"]) ++
  (if a.frames.isPoor then ["Review frame success criteria and validation logic"] else [])

/-- What is said about the context. -/
def contextLoss (a : Audit) : Json :=
  if a.hasContext then
    .obj [("potential_loss_points", .arr []), ("preservation_effectiveness", .float 100.0),
      ("recommendations", .strings ["Context preservation working effectively"])]
  else
    .obj [("potential_loss_points", .strings ["No previous context found"]),
      ("preservation_effectiveness", .float 0.0),
      ("recommendations", .strings ["Enable context preservation for this scaffold"])]

/-- Write an audit into a document. -/
def toJson (a : Audit) : Json :=
  .obj [
    ("framework_performance", .obj [("total_stages", .nat totalStages),
      ("stages_evaluated", .nat a.stagesEvaluated),
      ("successful_stages", .nat a.successfulStages), ("failed_stages", .nat a.failedStages),
      ("success_rate", .float (percentage a.successfulStages a.stagesEvaluated))]),
    ("context_preservation", .obj [("context_loaded", .bool a.contextLoaded),
      ("context_items", .nat a.contextItems),
      ("context_merge_count", .nat a.contextMergeCount)]),
    ("frame_analysis", a.frames.toJson),
    ("optimization_recommendations", .strings a.recommendations),
    ("context_loss_analysis", a.contextLoss)]

end Audit

end ScaffoldRunner
