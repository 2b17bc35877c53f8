import ScaffoldRunner.Command.Result
import ScaffoldRunner.Metrics
import ScaffoldRunner.World

/-!
# Sessions

A session is what outlives a single run: the world, the metrics, and the histories of the frames
and of the commands that the latest run tried. An action of a session may be interrupted; what it
has done by then stays done.
-/

namespace ScaffoldRunner

/-- One attempt to run a frame. -/
structure FrameRecord where
  frameId : String
  stage : Stage
  attempt : Nat
  timestamp : Instant
  durationMillis : Nat
  /-- The result, or the text of the error. -/
  outcome : Except String Members

namespace FrameRecord

def success (r : FrameRecord) : Bool :=
  match r.outcome with
  | .ok _ => true
  | .error _ => false

/-- The members that tell the outcome of an attempt. -/
def outcomeMembers : Except String Members → List (String × Json)
  | .ok result => [("result", .obj result)]
  | .error message => [("error", .str message)]

/-- Write a record into a document. -/
def toJson (r : FrameRecord) : Json :=
  .obj ([("frame_id", .str r.frameId), ("stage", .nat r.stage.number), ("attempt", .nat r.attempt),
    ("success", .bool r.success), ("timestamp", .str r.timestamp.iso),
    ("duration_ms", .nat r.durationMillis)] ++ outcomeMembers r.outcome)

end FrameRecord

/-- What outlives a single run. -/
structure Session (σ : Type) where
  world : World σ
  metrics : Metrics
  frameHistory : List FrameRecord := []
  commandHistory : List CommandResult := []

/-- The news that a run is to stop. -/
inductive Interruption where
  | shutdown

abbrev SessionM (σ : Type) := EStateM Interruption (Session σ)

namespace Session

variable {σ : Type}

def start (world : World σ) : Session σ where
  world := world
  metrics := Metrics.start world.second

/-- The point in time. -/
def now (session : Session σ) : Instant := session.world.now

def count (change : Metrics → Metrics) (session : Session σ) : Session σ :=
  { session with metrics := change session.metrics }

/-- Add to the history of the frames. -/
def addFrame (record : FrameRecord) (session : Session σ) : Session σ :=
  { session with frameHistory := session.frameHistory ++ [record] }

def addCommand (result : CommandResult) (session : Session σ) : Session σ :=
  { session with commandHistory := session.commandHistory ++ [result] }

/-- Forget both histories. -/
def clearHistories (session : Session σ) : Session σ :=
  { session with frameHistory := [], commandHistory := [] }

/-- Do a file operation; what it has changed stays changed when it fails. -/
def onFiles {ε α : Type} (op : EStateM ε FileTree α) (session : Session σ) :
    Except ε α × Session σ :=
  match op session.world.files with
  | .ok a files => (.ok a, { session with world := { session.world with files := files } })
  | .error e files => (.error e, { session with world := { session.world with files := files } })

def ask {α : Type} (call : World σ → Reply α × World σ) : SessionM σ α := fun session =>
  match call session.world with
  | (.done a, world) => .ok a { session with world := world }
  | (.interrupted, world) => .error .shutdown { session with world := world }

end Session

end ScaffoldRunner
