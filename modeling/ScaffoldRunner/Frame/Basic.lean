import ScaffoldRunner.Json.Record
import ScaffoldRunner.Workspace.Path

/-!
# Frames

A frame is a script with what is needed to call it: parameters, the criteria that its result has
to meet and, optionally, a schema for the input of the run.
-/

namespace ScaffoldRunner

/-- The kind of work that a frame does. -/
inductive FrameKind where
  | module
  | tool
  | process
  | analysis
  | mitigation
  | verification
  | metaAnalysis
  | implementation
  | diagnostic
  deriving DecidableEq, Repr, Inhabited

namespace FrameKind

def named : List (String × FrameKind) :=
  [("module", module), ("tool", tool), ("process", process), ("analysis", analysis),
    ("mitigation", mitigation), ("verification", verification), ("meta_analysis", metaAnalysis),
    ("implementation", implementation), ("diagnostic", diagnostic)]

def name : FrameKind → String
  | module => "module"
  | tool => "tool"
  | process => "process"
  | analysis => "analysis"
  | mitigation => "mitigation"
  | verification => "verification"
  | metaAnalysis => "meta_analysis"
  | implementation => "implementation"
  | diagnostic => "diagnostic"

end FrameKind

/-- A frame: a script and how to call it. -/
structure Frame where
  id : String
  name : String
  kind : FrameKind
  description : String
  /-- The script; a relative path counts from the working directory. -/
  filePath : String
  /-- The function that is called in scripts of an interpreter. -/
  entryPoint : String
  dependencies : List String
  parameters : Members
  /-- Members that the result has to contain. -/
  successCriteria : Members
  rollbackPlan : String
  version : String
  contextPreservation : Bool
  timeoutSecs : Option Nat
  /-- What the input of the run has to satisfy. -/
  inputSchema : Option Json
  deriving DecidableEq

namespace Frame

/-- The version of a frame or scaffold that states none. -/
def defaultVersion : String := "1.0"

/-- A frame with nothing but a script. -/
def ofScript (id name filePath : String) : Frame where
  id := id
  name := name
  kind := .process
  description := ""
  filePath := filePath
  entryPoint := ""
  dependencies := []
  parameters := []
  successCriteria := []
  rollbackPlan := ""
  version := defaultVersion
  contextPreservation := true
  timeoutSecs := none
  inputSchema := none

/-- The fields of a frame in documents, in their order. -/
def fieldNames : List String :=
  ["id", "name", "type", "description", "file_path", "entry_point", "dependencies", "parameters",
    "success_criteria", "rollback_plan", "version", "context_preservation", "timeout_secs",
    "input_schema"]

/-- Read a frame from a document. -/
def ofJson? (source : Source) (j : Json) : Option Frame := do
  let [id, name, kind, description, filePath, entryPoint, dependencies, parameters,
    successCriteria, rollbackPlan, version, contextPreservation, timeoutSecs, inputSchema] ←
      Record.fields? source fieldNames j | none
  return {
    id := ← Record.withDefault "" Record.string? id
    name := ← Record.required Record.string? name
    kind := ← Record.withDefault .process (Record.choice? source FrameKind.named) kind
    description := ← Record.withDefault "" Record.string? description
    filePath := ← Record.required Record.string? filePath
    entryPoint := ← Record.withDefault "" Record.string? entryPoint
    dependencies := ← Record.withDefault [] Record.strings? dependencies
    parameters := ← Record.withDefault [] Json.members? parameters
    successCriteria := ← Record.withDefault [] Json.members? successCriteria
    rollbackPlan := ← Record.withDefault "" Record.string? rollbackPlan
    version := ← Record.withDefault defaultVersion Record.string? version
    contextPreservation := ← Record.withDefault true Record.bool? contextPreservation
    timeoutSecs := ← Record.optional source Record.u64? timeoutSecs
    inputSchema := ← Record.optional source Record.any? inputSchema }

def members (frame : Frame) : List (String × Json) :=
  [("id", .str frame.id), ("name", .str frame.name), ("type", .str frame.kind.name),
    ("description", .str frame.description), ("file_path", .str frame.filePath),
    ("entry_point", .str frame.entryPoint), ("dependencies", .strings frame.dependencies),
    ("parameters", .obj frame.parameters), ("success_criteria", .obj frame.successCriteria),
    ("rollback_plan", .str frame.rollbackPlan), ("version", .str frame.version),
    ("context_preservation", .bool frame.contextPreservation),
    ("timeout_secs", .ofOption (frame.timeoutSecs.map .nat)),
    ("input_schema", .ofOption frame.inputSchema)]

/-- Write a frame into a document. -/
def toJson (frame : Frame) : Json := .obj frame.members

/-- The members of a frame in a configuration, where an absent value is left out. -/
def documentMembers (frame : Frame) : List (String × Json) :=
  [("id", .str frame.id), ("name", .str frame.name), ("type", .str frame.kind.name),
    ("description", .str frame.description), ("file_path", .str frame.filePath),
    ("entry_point", .str frame.entryPoint), ("dependencies", .strings frame.dependencies),
    ("parameters", .obj frame.parameters), ("success_criteria", .obj frame.successCriteria),
    ("rollback_plan", .str frame.rollbackPlan), ("version", .str frame.version),
    ("context_preservation", .bool frame.contextPreservation)] ++
  Json.optionalMember "timeout_secs" (frame.timeoutSecs.map .nat) ++
  Json.optionalMember "input_schema" frame.inputSchema

/-- Where the script of a frame lies. -/
def resolvePath (frame : Frame) (workingDir : String) : String :=
  Path.join workingDir frame.filePath

/-- What a list of frames shows of a frame. -/
def summary (frame : Frame) : Json :=
  .obj [("id", .str frame.id), ("name", .str frame.name), ("type", .str frame.kind.name),
    ("description", .str frame.description), ("file_path", .str frame.filePath),
    ("version", .str frame.version)]

end Frame

end ScaffoldRunner
