import ScaffoldRunner.Config.Basic

/-!
# The registry of frames and scaffolds

Frames are registered by their id, a later one replacing an earlier one. A scaffold is registered
only when all frames of its plans are.
-/

namespace ScaffoldRunner

structure Registry where
  frames : Dict Frame := []
  scaffolds : Dict Scaffold := []

namespace Registry

/-- The registry without any entry. -/
def empty : Registry := {}

def registerFrame (registry : Registry) (frame : Frame) : Registry :=
  { registry with frames := registry.frames.insert frame.id frame }

/-- Refuse a plan of a scaffold that names a frame that is not registered, or marks a frame as
critical that it does not run. -/
def checkPlan (registry : Registry) (scaffold : Scaffold) (stage : Stage) (plan : StagePlan) :
    Except ConfigError Unit :=
  match plan.frames.find? fun id => !registry.frames.has id with
  | some missing => .error (.unknownFrame scaffold.id stage missing)
  | none =>
      match plan.critical.find? fun id => !plan.frames.contains id with
      | some stray => .error (.strayCritical scaffold.id stage stray)
      | none => .ok ()

/-- Register a scaffold under its id, unless one of its plans is refused. -/
def registerScaffold (registry : Registry) (scaffold : Scaffold) :
    Except ConfigError Registry := do
  scaffold.stages.forM fun (stage, plan) => registry.checkPlan scaffold stage plan
  return { registry with scaffolds := registry.scaffolds.insert scaffold.id scaffold }

def ofConfig (config : Config) : Except ConfigError Registry := do
  config.validate
  let config := config.withListedIds
  let registry := config.frames.values.foldl registerFrame empty
  config.scaffolds.values.foldlM registerScaffold registry

def plan? (registry : Registry) (scaffoldId : String) (stage : Stage) : Option StagePlan :=
  (registry.scaffolds.get? scaffoldId).bind fun scaffold => scaffold.stages.get? stage

/-- The frames that a scaffold runs at a stage, in the order of its plan. -/
def framesFor (registry : Registry) (scaffoldId : String) (stage : Stage) : List Frame :=
  match registry.plan? scaffoldId stage with
  | some plan => plan.frames.filterMap registry.frames.get?
  | none => []

/-- Whether a scaffold marks a frame as critical at a stage. -/
def isCritical (registry : Registry) (scaffoldId : String) (stage : Stage) (frameId : String) :
    Bool :=
  (registry.plan? scaffoldId stage).any fun plan => plan.critical.contains frameId

def frameList (registry : Registry) : Json := .arr (registry.frames.values.map Frame.summary)

def scaffoldList (registry : Registry) : Json :=
  .arr (registry.scaffolds.values.map Scaffold.summary)

end Registry

end ScaffoldRunner
