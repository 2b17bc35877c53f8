import ScaffoldRunner.Json.Record
import ScaffoldRunner.Frame.Basic
import ScaffoldRunner.Stage

/-!
# Scaffolds

A scaffold plans frames for the stages of a run. Some of the planned frames are critical: their
failure ends the run.
-/

namespace ScaffoldRunner

/-- The frames planned for one stage of a scaffold. -/
structure StagePlan where
  frames : List String
  /-- Frames whose failure ends the run. -/
  critical : List String
  deriving DecidableEq, Inhabited

namespace StagePlan

/-- Read a plan from a document. -/
def ofJson? (source : Source) (j : Json) : Option StagePlan := do
  let [frames, critical] ← Record.fields? source ["frames", "critical"] j | none
  return {
    frames := ← Record.withDefault [] Record.strings? frames
    critical := ← Record.withDefault [] Record.strings? critical }

/-- Write a plan into a document. -/
def toJson (plan : StagePlan) : Json :=
  .obj [("frames", .strings plan.frames), ("critical", .strings plan.critical)]

end StagePlan

/-- Plans for some stages, in the order of the stages. -/
abbrev StagePlans := List (Stage × StagePlan)

namespace StagePlans

def get? (plans : StagePlans) (stage : Stage) : Option StagePlan :=
  (plans.find? fun e => e.1 = stage).map (·.2)

/-- Set the plan for a stage, replacing the one that was there. -/
def insert (stage : Stage) (plan : StagePlan) : StagePlans → StagePlans
  | [] => [(stage, plan)]
  | e :: plans =>
      if stage.number < e.1.number then (stage, plan) :: e :: plans
      else if stage = e.1 then (stage, plan) :: plans
      else e :: insert stage plan plans

/-- Read plans from a document: an object with stage keys. -/
def ofJson? (source : Source) (j : Json) : Option StagePlans := do
  let members ← j.members?
  members.foldlM
    (fun plans (key, j) => do
      return plans.insert (← Stage.ofKey? key) (← StagePlan.ofJson? source j))
    []

/-- Write plans into a document. -/
def toJson (plans : StagePlans) : Json :=
  .obj (plans.map fun (stage, plan) => (stage.key, plan.toJson))

end StagePlans

/-- A named arrangement of frames over the stages. -/
structure Scaffold where
  id : String
  name : String
  description : String
  stages : StagePlans
  dependencies : List String
  successCriteria : Members
  version : String
  contextPreservation : Bool
  deriving DecidableEq

namespace Scaffold

/-- A scaffold without any plan. -/
def empty (id name : String) : Scaffold where
  id := id
  name := name
  description := ""
  stages := []
  dependencies := []
  successCriteria := []
  version := Frame.defaultVersion
  contextPreservation := true

def withStage (scaffold : Scaffold) (stage : Stage) (frames critical : List String) : Scaffold :=
  { scaffold with stages := scaffold.stages.insert stage ⟨frames, critical⟩ }

/-- The fields of a scaffold in documents, in their order. -/
def fieldNames : List String :=
  ["id", "name", "description", "stages", "dependencies", "success_criteria", "version",
    "context_preservation"]

/-- Read a scaffold from a document. -/
def ofJson? (source : Source) (j : Json) : Option Scaffold := do
  let [id, name, description, stages, dependencies, successCriteria, version,
    contextPreservation] ← Record.fields? source fieldNames j | none
  return {
    id := ← Record.withDefault "" Record.string? id
    name := ← Record.required Record.string? name
    description := ← Record.withDefault "" Record.string? description
    stages := ← Record.withDefault [] (StagePlans.ofJson? source) stages
    dependencies := ← Record.withDefault [] Record.strings? dependencies
    successCriteria := ← Record.withDefault [] Json.members? successCriteria
    version := ← Record.withDefault Frame.defaultVersion Record.string? version
    contextPreservation := ← Record.withDefault true Record.bool? contextPreservation }

def members (scaffold : Scaffold) : List (String × Json) :=
  [("id", .str scaffold.id), ("name", .str scaffold.name),
    ("description", .str scaffold.description), ("stages", scaffold.stages.toJson),
    ("dependencies", .strings scaffold.dependencies),
    ("success_criteria", .obj scaffold.successCriteria), ("version", .str scaffold.version),
    ("context_preservation", .bool scaffold.contextPreservation)]

/-- Write a scaffold into a document. -/
def toJson (scaffold : Scaffold) : Json := .obj scaffold.members

/-- What a list of scaffolds shows of a scaffold. -/
def summary (scaffold : Scaffold) : Json :=
  .obj [("id", .str scaffold.id), ("name", .str scaffold.name),
    ("description", .str scaffold.description), ("stages", .nat scaffold.stages.length),
    ("dependencies", .strings scaffold.dependencies),
    ("context_preservation", .bool scaffold.contextPreservation)]

end Scaffold

end ScaffoldRunner
