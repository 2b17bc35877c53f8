import ScaffoldRunner.CommandLine.Request
import ScaffoldRunner.Config.Text
import ScaffoldRunner.Frame.Launch
import ScaffoldRunner.Logging
import ScaffoldRunner.Run.Execution

/-!
# Following a command line

What the program prints, what it logs about its own success, and the code it exits with.
-/

namespace ScaffoldRunner

structure LogLine where
  level : LogLevel
  message : String
  deriving DecidableEq, Repr

/-- What a run of the program comes to. -/
structure Conclusion where
  exitCode : Nat
  output : String := ""
  /-- What goes to the error output as it is. -/
  notice : String := ""
  log : List LogLine := []

/-- What the program finds around it. -/
structure Surroundings where
  currentDir : String
  environment : Dict String

namespace Surroundings

/-- The directory of temporary files. -/
def tempDir (s : Surroundings) : String := (s.environment.get? "TMPDIR").getD "/tmp"

/-- How the frames of a configuration are started. -/
def launcher (s : Surroundings) (config : Config) : FrameLauncher where
  interpreters := config.interpreters
  workingDir := config.workingDir s.currentDir
  defaultTimeoutMillis := config.framework.frameTimeoutSecs * 1000
  tempDir := s.tempDir

variable {σ : Type}

/-- The host that starts the scripts of frames as programs. -/
def host (s : Surroundings) (config : Config)
    (runProgram : ProgramCall → World σ → Reply ProgramOutcome × World σ) : Host σ where
  callFrame := (s.launcher config).callFrame runProgram
  runProgram := runProgram

end Surroundings

namespace CommandLine

/-- The exit code of a run that was interrupted. -/
def interruptedCode : Nat := 130

/-- The exit code of a command line that cannot be followed. -/
def refusedCode : Nat := 2

/-- The configuration that a command line names, or else the one that is found. -/
def loadConfig (s : Surroundings) (path : Option String) (files : FileTree) :
    Except ConfigError Config :=
  match path with
  | some path => Config.load files (Path.join s.currentDir path)
  | none => (Config.discover files s.currentDir).map (·.1)

def readInput : Option String → Except RunError Json
  | none => .ok .null
  | some text =>
      match Json.parse? text with
      | some input => .ok input
      | none => .error (.invalidInput "--input is not valid JSON")

def listing (config : Config) (what : Listing) : Except RunError String := do
  let registry ← (Registry.ofConfig config).mapError .config
  return match what with
    | .scaffolds => registry.scaffoldList.pretty
    | .frames => registry.frameList.pretty

def configText (config : Config) : Except RunError String :=
  match config.render? with
  | some text => .ok text
  | none => .error (.internal "Cannot render config")

/-- The conclusion of a command that prints a text, or fails. -/
def conclusionOf : Except RunError String → Conclusion
  | .ok output => { exitCode := 0, output := output }
  | .error (.aborted reason) =>
      { exitCode := interruptedCode, log := [⟨.warn, "Run aborted: " ++ reason⟩] }
  | .error e => { exitCode := 1, log := [⟨.error, "Command failed: " ++ e.message⟩] }

variable {σ : Type} (s : Surroundings)
  (runProgram : ProgramCall → World σ → Reply ProgramOutcome × World σ)

/-- Run a scaffold; what is printed is where the report lies. -/
def runScaffold (config : Config) (scaffold : String) (input : Option String) (world : World σ) :
    Except RunError String × World σ :=
  let prepared : Except RunError (Json × Pipeline) := do
    let input ← readInput input
    let skipsPush := config.skipsPush (s.environment.get? "AF_SKIP_GIT_PUSH")
    let pipeline ← (Pipeline.ofConfig config s.currentDir skipsPush).mapError .config
    return (input, pipeline)
  match prepared with
  | .error e => (.error e, world)
  | .ok (input, pipeline) =>
      match pipeline.execute (s.host config runProgram) scaffold input false (.start world) with
      | .ok outcome session => (.ok (outcome.reportPath ++ "\n"), session.world)
      | .error e session => (.error e, session.world)

/-- Do what is asked for under a configuration. -/
def perform (config : Config) (request : Request) (world : World σ) : Conclusion × World σ :=
  match request with
  | .run scaffold input =>
      let (result, world) := runScaffold s runProgram config scaffold input world
      (conclusionOf result, world)
  | .list what => (conclusionOf ((listing config what).map (· ++ "\n")), world)
  | .checkConfig true => (conclusionOf ((configText config).map (· ++ "\n")), world)
  | .checkConfig false => (conclusionOf (.ok ""), world)

def follow (c : CommandLine) (world : World σ) : Conclusion × World σ :=
  match loadConfig s c.configPath world.files with
  | .error e =>
      let message := "Failed to load configuration: " ++ (RunError.config e).message
      ({ exitCode := 1, log := [⟨.error, message⟩] }, world)
  | .ok config => perform s runProgram config c.request world

/-- What comes of arguments: the conclusion, with the lines of the log that are shown, and the
format of the log. -/
def answer (args : List String) (world : World σ) : Conclusion × LogFormat × World σ :=
  match read args with
  | .error (.shown text) => ({ exitCode := 0, output := text ++ "\n" }, .compact, world)
  | .error (.refused text) =>
      ({ exitCode := refusedCode, notice := text ++ "\n" }, .compact, world)
  | .ok c =>
      let settings := LogSettings.ofEnvironment s.environment c.verbose
      let (conclusion, world) := follow s runProgram c world
      let shown := conclusion.log.filter fun line => settings.shows line.level
      ({ conclusion with log := shown }, settings.format, world)

end CommandLine

end ScaffoldRunner
