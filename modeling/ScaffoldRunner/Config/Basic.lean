import ScaffoldRunner.Scaffold.Basic

/-!
# Configurations

A configuration holds the settings of the framework, the interpreters of script frames, the
frames and the scaffolds. `Config.validate` checks the numeric limits, then the ids of the frames,
then for every scaffold its id and that each plan names configured frames only and marks none as
critical that it does not run; the first fault found is the answer.
-/

namespace ScaffoldRunner

structure FrameworkSettings where
  /-- The directory of saved contexts. -/
  contextDir : String := "context_preservation"
  /-- The directory of reports. -/
  reportsDir : String := "reports"
  /-- The directory that frames and commands run in, when it is not the current one. -/
  workingDir : Option String := none
  /-- How often a frame is tried. -/
  maxAttempts : Nat := 2
  frameTimeoutSecs : Nat := 300
  commandTimeoutSecs : Nat := 300
  /-- Whether the last stage leaves the remote alone. -/
  skipPush : Bool := true
  deriving DecidableEq

/-- The interpreters of script frames. -/
structure Interpreters where
  python : String := "python3"
  node : String := "node"
  powershell : String := "powershell"
  deriving DecidableEq

structure Config where
  framework : FrameworkSettings := {}
  interpreters : Interpreters := {}
  frames : Dict Frame := []
  scaffolds : Dict Scaffold := []
  deriving DecidableEq

/-- Why a configuration cannot be used. -/
inductive ConfigError where
  | unreadable (reason : String)
  | malformed
  | invalidId (id : String)
  | noAttempts
  | noTime
  | unknownFrame (scaffold : String) (stage : Stage) (frame : String)
  | strayCritical (scaffold : String) (stage : Stage) (frame : String)
  | notFound
  deriving DecidableEq

namespace Config

def defaultPaths : List String := ["octospine.toml", "config/octospine.toml"]

end Config

namespace ConfigError

/-- The group of a fault. -/
def kind : ConfigError → String
  | unreadable _ => "FileRead"
  | malformed => "TomlParse"
  | invalidId _ => "InvalidFrameId"
  | noAttempts | noTime | unknownFrame .. | strayCritical .. => "InvalidConfig"
  | notFound => "NotFound"

/-- The text of a fault. -/
def message : ConfigError → String
  | unreadable reason => "Failed to read config file: " ++ reason
  | malformed => "Failed to parse TOML"
  | invalidId id =>
      "Invalid frame or scaffold ID format: ID '" ++ id ++ "' must match pattern [a-zA-Z0-9._-]+"
  | noAttempts => "Invalid configuration: framework.max_attempts must be at least 1"
  | noTime => "Invalid configuration: framework timeouts must be greater than zero"
  | unknownFrame scaffold stage frame =>
      "Invalid configuration: Scaffold '" ++ scaffold ++ "' stage " ++ stage.key ++
        " references unknown frame '" ++ frame ++ "'"
  | strayCritical scaffold stage frame =>
      "Invalid configuration: Scaffold '" ++ scaffold ++ "' stage " ++ stage.key ++ " marks '" ++
        frame ++ "' critical but does not run it"
  | notFound =>
      "No configuration file found (looked for " ++ Text.join ", " Config.defaultPaths ++ ")"

end ConfigError

namespace Config

def isIdChar (c : Char) : Bool := c.isAlphanum || c = '.' || c = '_' || c = '-'

/-- Whether a text is an id: not empty, and made of ASCII letters, digits, points, underscores and
hyphens. -/
def isId (id : String) : Bool := !id.toList.isEmpty && id.toList.all isIdChar

/-- Refuse a text that is no id. -/
def checkId (id : String) : Except ConfigError Unit :=
  if isId id then .ok () else .error (.invalidId id)

/-- Refuse a plan that names a frame that is not configured, or marks a frame as critical that it
does not run. -/
def checkPlan (config : Config) (scaffold : String) (stage : Stage) (plan : StagePlan) :
    Except ConfigError Unit := do
  plan.frames.forM fun id =>
    if config.frames.has id then .ok () else .error (.unknownFrame scaffold stage id)
  plan.critical.forM fun id =>
    if plan.frames.contains id then .ok () else .error (.strayCritical scaffold stage id)

/-- Refuse a configuration with a fault. -/
def validate (config : Config) : Except ConfigError Unit := do
  if config.framework.maxAttempts = 0 then throw .noAttempts
  if config.framework.frameTimeoutSecs = 0 ∨ config.framework.commandTimeoutSecs = 0 then
    throw .noTime
  config.frames.keys.forM checkId
  config.scaffolds.forM fun (id, scaffold) => do
    checkId id
    scaffold.stages.forM fun (stage, plan) => config.checkPlan id stage plan

/-- Give every frame and scaffold the id that it is listed under. -/
def withListedIds (config : Config) : Config :=
  { config with
    frames := config.frames.map fun (id, frame) => (id, { frame with id := id })
    scaffolds := config.scaffolds.map fun (id, scaffold) => (id, { scaffold with id := id }) }

/-- Whether the last stage leaves the remote alone: by its setting, or because the environment
says so with a `1`, blanks around it aside. -/
def skipsPush (config : Config) (environment : Option String) : Bool :=
  config.framework.skipPush || environment.any fun text => Text.trim text = "1"

/-- The directory that frames and commands run in. -/
def workingDir (config : Config) (currentDir : String) : String :=
  match config.framework.workingDir with
  | some dir => Path.join currentDir dir
  | none => currentDir

/-- A configured directory, counted from the working directory. -/
def resolveDir (config : Config) (currentDir dir : String) : String :=
  Path.join (config.workingDir currentDir) dir

end Config

end ScaffoldRunner
