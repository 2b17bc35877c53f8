import ScaffoldRunner.Context.Merge
import ScaffoldRunner.Instant
import ScaffoldRunner.Json.Printer
import ScaffoldRunner.Json.Record
import ScaffoldRunner.Json.Skip
import ScaffoldRunner.Workspace.FileTree

/-!
# The context store

The store is a directory of files. The context of a task, which is what its next run starts from,
lies in an envelope in a file named for the task; the snapshot of a frame's last success lies in a
file named for the frame and the stage.
-/

namespace ScaffoldRunner

/-- Why a context cannot be read or written. -/
inductive ContextError where
  | io (path : String) (reason : OsError)
  | malformed (path : String)
  deriving DecidableEq

namespace ContextError

def kind : ContextError → String
  | io .. => "Io"
  | malformed _ => "Json"

def message : ContextError → String
  | io path reason => "Context file I/O failed for " ++ path ++ ": " ++ reason.message
  | malformed path => "Context file " ++ path ++ " is not valid JSON"

end ContextError

structure ContextStore where
  dir : String

/-- The state that a frame left when it last succeeded. -/
structure FrameSnapshot where
  frameId : String
  stage : Nat
  inputData : Json
  parameters : Members
  result : Members
  timestamp : Instant

abbrev ContextM := EStateM ContextError FileTree

namespace FrameSnapshot

/-- Read a snapshot from a document. -/
def ofJson? (j : Json) : Option FrameSnapshot := do
  let [frameId, stage, inputData, parameters, result, timestamp] ←
    Record.fields? .json
      ["frame_id", "stage", "input_data", "parameters", "result", "timestamp"] j | none
  return {
    frameId := ← Record.required Record.string? frameId
    stage := ← Record.required (Record.nat? 255) stage
    inputData := ← Record.required Record.any? inputData
    parameters := ← Record.required Json.members? parameters
    result := ← Record.required Json.members? result
    timestamp := ← Instant.parse? (← Record.required Record.string? timestamp) }

/-- Write a snapshot into a document. -/
def toJson (s : FrameSnapshot) : Json :=
  .obj [("frame_id", .str s.frameId), ("stage", .nat s.stage), ("input_data", s.inputData),
    ("parameters", .obj s.parameters), ("result", .obj s.result),
    ("timestamp", .str s.timestamp.iso)]

end FrameSnapshot

namespace ContextStore

def version : String := "2.0"

/-- The name of the file with the context of a task. -/
def taskFile (task : String) : String := task ++ "_context.json"

/-- The name of the file with the snapshot of a frame at a stage. -/
def frameFile (frame : String) (stage : Nat) : String :=
  frame ++ "_" ++ toString stage ++ "_context.json"

def taskPath (store : ContextStore) (task : String) : String :=
  Path.join store.dir (taskFile task)

/-- Where the snapshot of a frame at a stage lies. -/
def framePath (store : ContextStore) (frame : String) (stage : Nat) : String :=
  Path.join store.dir (frameFile frame stage)

def envelope (task : String) (now : Instant) (context : Json) : Json :=
  .obj [("task_id", .str task), ("timestamp", .str now.iso), ("context", context),
    ("version", .str version)]

/-- The context inside an envelope; a missing one is `null`. -/
def contextOf? (j : Json) : Option Json := do
  let [task, timestamp, context, version] ←
    Record.fields? .json ["task_id", "timestamp", "context", "version"] j | none
  let _ ← Record.required Record.string? task
  let _ ← Instant.parse? (← Record.required Record.string? timestamp)
  let _ ← Record.required Record.string? version
  return context.getD .null

/-- The context in the text of a file. -/
def parseEnvelope? (text : String) : Option Json :=
  (Json.parseRecord? ["task_id", "timestamp", "context", "version"] text).bind contextOf?

/-- Do a file operation on behalf of the store; an error names the path. -/
def onFile {α : Type} (path : String) (op : FileM α) : ContextM α := fun tree =>
  match op tree with
  | .ok a tree => .ok a tree
  | .error e tree => .error (.io path e) tree

/-- Write a document into the directory, which is made when it is missing. -/
def writeDocument (store : ContextStore) (path : String) (document : Json) : ContextM Unit := do
  onFile store.dir (FileTree.createDirAll store.dir)
  onFile path (FileTree.write path document.pretty.toUTF8)

/-- Save the context of a task, replacing an earlier one. -/
def save (store : ContextStore) (task : String) (now : Instant) (context : Json) :
    ContextM String := do
  let path := store.taskPath task
  store.writeDocument path (envelope task now context)
  return path

/-- The saved context of a task, if there is one. -/
def load (store : ContextStore) (task : String) (tree : FileTree) :
    Except ContextError (Option Json) :=
  let path := store.taskPath task
  if tree.pathExists path then
    match tree.readText path with
    | .error e => .error (.io path e)
    | .ok text =>
        match parseEnvelope? text with
        | some context => .ok (some context)
        | none => .error (.malformed path)
  else .ok none

/-- Merge a context over a given one, if there is one, and save the result. -/
def saveMergedOver (store : ContextStore) (task : String) (now : Instant) (old : Option Json)
    (new : Json) : ContextM Json := do
  let merged := match old with
    | some old => Context.merge now.isoOffset old new
    | none => new
  let _ ← store.save task now merged
  return merged

/-- Merge a context over the saved one, if there is one, and save the result. -/
def saveMerged (store : ContextStore) (task : String) (now : Instant) (new : Json) :
    ContextM Json := fun tree =>
  match store.load task tree with
  | .error e => .error e tree
  | .ok old => store.saveMergedOver task now old new tree

/-- Save the snapshot of a frame, replacing an earlier one. -/
def saveFrame (store : ContextStore) (snapshot : FrameSnapshot) : ContextM String := do
  let path := store.framePath snapshot.frameId snapshot.stage
  store.writeDocument path snapshot.toJson
  return path

end ContextStore

end ScaffoldRunner
