import ScaffoldRunner.Config.Basic
import ScaffoldRunner.Toml.Parser
import ScaffoldRunner.Toml.Printer
import ScaffoldRunner.Workspace.FileTree

/-!
# Configurations as documents and texts

The mapping between configurations and document values. Every table may be left out; what a
table does not state has its default. Configurations are read from TOML texts, which are found at
given places, and are written as such.
-/

namespace ScaffoldRunner

namespace FrameworkSettings

/-- The fields of the settings in documents, in their order. -/
def fieldNames : List String :=
  ["context_dir", "reports_dir", "working_dir", "max_attempts", "frame_timeout_secs",
    "command_timeout_secs", "skip_push"]

/-- Read the settings from a document. -/
def ofJson? (source : Source) (j : Json) : Option FrameworkSettings := do
  let [contextDir, reportsDir, workingDir, maxAttempts, frameTimeoutSecs, commandTimeoutSecs,
    skipPush] ← Record.fields? source fieldNames j | none
  let default : FrameworkSettings := {}
  return {
    contextDir := ← Record.withDefault default.contextDir Record.string? contextDir
    reportsDir := ← Record.withDefault default.reportsDir Record.string? reportsDir
    workingDir := ← Record.optional source Record.string? workingDir
    maxAttempts := ← Record.withDefault default.maxAttempts Record.u32? maxAttempts
    frameTimeoutSecs := ← Record.withDefault default.frameTimeoutSecs Record.u64? frameTimeoutSecs
    commandTimeoutSecs :=
      ← Record.withDefault default.commandTimeoutSecs Record.u64? commandTimeoutSecs
    skipPush := ← Record.withDefault default.skipPush Record.bool? skipPush }

/-- Write the settings into a document. -/
def toJson (s : FrameworkSettings) : Json :=
  .obj [("context_dir", .str s.contextDir), ("reports_dir", .str s.reportsDir),
    ("working_dir", .ofOption (s.workingDir.map .str)), ("max_attempts", .nat s.maxAttempts),
    ("frame_timeout_secs", .nat s.frameTimeoutSecs),
    ("command_timeout_secs", .nat s.commandTimeoutSecs), ("skip_push", .bool s.skipPush)]

/-- The members of the settings in a configuration, where an absent value is left out. -/
def documentMembers (s : FrameworkSettings) : List (String × Json) :=
  [("context_dir", .str s.contextDir), ("reports_dir", .str s.reportsDir)] ++
  Json.optionalMember "working_dir" (s.workingDir.map .str) ++
  [("max_attempts", .nat s.maxAttempts), ("frame_timeout_secs", .nat s.frameTimeoutSecs),
    ("command_timeout_secs", .nat s.commandTimeoutSecs), ("skip_push", .bool s.skipPush)]

end FrameworkSettings

namespace Interpreters

/-- Read the interpreters from a document. -/
def ofJson? (source : Source) (j : Json) : Option Interpreters := do
  let [python, node, powershell] ←
    Record.fields? source ["python", "node", "powershell"] j | none
  let default : Interpreters := {}
  return {
    python := ← Record.withDefault default.python Record.string? python
    node := ← Record.withDefault default.node Record.string? node
    powershell := ← Record.withDefault default.powershell Record.string? powershell }

/-- Write the interpreters into a document. -/
def toJson (i : Interpreters) : Json :=
  .obj [("python", .str i.python), ("node", .str i.node), ("powershell", .str i.powershell)]

end Interpreters

namespace Config

/-- Read a configuration from a document, as it stands there. -/
def ofJson? (source : Source) (j : Json) : Option Config := do
  let [framework, runtimes, frames, scaffolds] ←
    Record.fields? source ["framework", "runtimes", "frames", "scaffolds"] j | none
  return {
    framework := ← Record.withDefault {} (FrameworkSettings.ofJson? source) framework
    interpreters := ← Record.withDefault {} (Interpreters.ofJson? source) runtimes
    frames := ← Record.withDefault [] (Record.dict? (Frame.ofJson? source)) frames
    scaffolds := ← Record.withDefault [] (Record.dict? (Scaffold.ofJson? source)) scaffolds }

/-- Write a configuration into a document. -/
def toJson (config : Config) : Json :=
  .obj [("framework", config.framework.toJson), ("runtimes", config.interpreters.toJson),
    ("frames", .obj (config.frames.mapValues Frame.toJson)),
    ("scaffolds", .obj (config.scaffolds.mapValues Scaffold.toJson))]

/-- The document of a configuration, where absent values are left out. -/
def toDocument (config : Config) : Json :=
  .obj [("framework", .obj config.framework.documentMembers),
    ("runtimes", config.interpreters.toJson),
    ("frames", .obj (config.frames.mapValues fun frame => .obj frame.documentMembers)),
    ("scaffolds", .obj (config.scaffolds.mapValues Scaffold.toJson))]

/-- The configuration of a document: read, with the listed ids, and validated. -/
def ofDocument (j : Json) : Except ConfigError Config :=
  match ofJson? .configuration j with
  | none => .error .malformed
  | some config => do
      let config := config.withListedIds
      config.validate
      return config

/-! ## Texts -/

def parse (text : String) : Except ConfigError Config :=
  match Toml.parse? text with
  | some document => ofDocument document
  | none => .error .malformed

def load (tree : FileTree) (path : String) : Except ConfigError Config :=
  match tree.readText path with
  | .ok text => parse text
  | .error e => .error (.unreadable e.message)

/-- The configuration below a directory, with its path: the first of the default places that has a
file is taken. -/
def discover (tree : FileTree) (dir : String) : Except ConfigError (Config × String) :=
  match (defaultPaths.map (Path.join dir)).find? tree.isFile with
  | none => .error .notFound
  | some path => (load tree path).map fun config => (config, path)

/-- Write a configuration as a text; `none` when it holds something that has no form there. -/
def render? (config : Config) : Option String := Toml.render? config.toDocument

end Config

end ScaffoldRunner
