import ScaffoldRunner.Config.Basic
import ScaffoldRunner.Frame.Response
import ScaffoldRunner.Text.Utf8
import ScaffoldRunner.World

/-!
# Launching script frames

The extension of a script decides how it is started: by an interpreter, or as a program of its
own. What the frame gets to see is written into a temporary file, whose path it finds in its
environment. The frame answers with the last object that it prints.
-/

namespace ScaffoldRunner

/-- What a script is run by. -/
inductive FrameRuntime where
  | python
  | node
  | powershell
  | executable
  deriving DecidableEq, Repr

namespace FrameRuntime

def name : FrameRuntime → String
  | python => "Python"
  | node => "Node"
  | powershell => "PowerShell"
  | executable => "Executable"

/-- The extensions that choose an interpreter, in lower case. -/
def extensions : List (String × FrameRuntime) :=
  [("py", python), ("js", node), ("mjs", node), ("cjs", node), ("ps1", powershell)]

/-- The runtime of a script, by its extension in any ASCII letter case. -/
def ofPath (path : String) : FrameRuntime :=
  match Path.extension? path with
  | some ext =>
      (Dict.get? extensions (String.ofList (Text.lowerAscii ext.toList))).getD executable
  | none => executable

/-- How many of the last lines of output may hold the answer. -/
def responseWindow : FrameRuntime → Nat
  | node => 10
  | _ => 20

end FrameRuntime

/-- How script frames are started. -/
structure FrameLauncher where
  interpreters : Interpreters
  workingDir : String
  defaultTimeoutMillis : Nat
  /-- The directory of temporary files. -/
  tempDir : String := "/tmp"

namespace FrameLauncher

/-- The script that calls a function of a Python frame. -/
def pythonBootstrap : String :=
"\nimport importlib.util, json, os, sys
path = sys.argv[1]
with open(os.environ[\"AF_CONTEXT_FILE\"], encoding=\"utf-8\") as fh:
    ctx = json.load(fh)
try:
    sys.path.insert(0, os.path.dirname(os.path.abspath(path)))
    spec = importlib.util.spec_from_file_location(\"octospine_frame\", path)
    module = importlib.util.module_from_spec(spec)
    spec.loader.exec_module(module)
    target = getattr(module, ctx[\"entry_point\"], None)
    if target is None:
        out = \x7b\"success\": False, \"error\": \"Entry point not found: \" + ctx[\"entry_point\"]\x7d
    elif callable(target):
        try:
            out = target(context=ctx)
        except TypeError:
            out = target()
    else:
        out = target
except Exception as exc:
    out = \x7b\"success\": False, \"error\": str(exc)\x7d
print(json.dumps(out, default=str))
"

/-- The script that calls a function of a Node frame. -/
def nodeBootstrap : String :=
"\n(async () => \x7b
  try \x7b
    const moduleObj = await import(process.env.FILE_URL);
    const fs = require('fs');
    const context = JSON.parse(fs.readFileSync(process.env.CONTEXT_FILE, 'utf8'));
    const target = moduleObj[context.entry_point];
    if (target === undefined) \x7b
      console.log(JSON.stringify(\x7b success: false, error: 'Entry point not found: ' + context.entry_point \x7d));
      return;
    \x7d
    const output = typeof target === 'function' ? await target(context) : target;
    console.log(JSON.stringify(output));
  \x7d catch (error) \x7b
    console.log(JSON.stringify(\x7b success: false, error: String((error && error.message) || error) \x7d));
  \x7d
\x7d)();
"

/-- Whether a byte stands for itself in a segment of a file URL. -/
def isPlainByte (b : UInt8) : Bool :=
  32 < b && b < 127 && !"\"<>`#?\x7b\x7d/%\\".toUTF8.toList.contains b

/-- A byte in a segment of a file URL. -/
def escapeByte (b : UInt8) : List Char :=
  if isPlainByte b then [Char.ofNat b.toNat]
  else
    let digit (n : Nat) : Char := "0123456789ABCDEF".toList.getD n '0'
    ['%', digit (b.toNat / 16), digit (b.toNat % 16)]

def fileUrl? (path : String) : Option String :=
  if Path.isAbsolute path then
    match Path.names path with
    | [] => some "file:///"
    | names =>
        let segments := names.map fun name =>
          "/" ++ String.ofList (name.toUTF8.toList.flatMap escapeByte)
        some ("file://" ++ String.join segments)
  else none

/-- What a frame gets to see. -/
def contextDocument (call : FrameCall) : Json :=
  .obj [("input_data", call.inputData), ("parameters", .obj call.parameters),
    ("previous_results", .obj call.previousResults),
    ("preserved_context", .ofOption call.preserved),
    ("entry_point", .str call.frame.entryPoint), ("stage", .str call.stage.key),
    ("attempt", .nat call.attempt)]

/-- The time that a frame may take. -/
def timeoutMillis (l : FrameLauncher) (frame : Frame) : Nat :=
  match frame.timeoutSecs with
  | some secs => secs * 1000
  | none => l.defaultTimeoutMillis

/-- The program that runs a script, as it is named in errors. -/
def programName (l : FrameLauncher) (runtime : FrameRuntime) (path : String) : String :=
  match runtime with
  | .python => l.interpreters.python
  | .node => l.interpreters.node
  | .powershell => l.interpreters.powershell
  | .executable => path

/-- The arguments of the program that runs a script. -/
def arguments (runtime : FrameRuntime) (path contextFile : String) : List String :=
  match runtime with
  | .python => ["-c", pythonBootstrap, path]
  | .node => ["-e", nodeBootstrap]
  | .powershell =>
      ["-NoProfile", "-ExecutionPolicy", "Bypass", "-File", path, "-ContextFile", contextFile]
  | .executable => ["--context-file", contextFile]

/-- What is added to the environment of the program that runs a script. -/
def environment (runtime : FrameRuntime) (path contextFile : String) :
    Except FrameError (Dict String) :=
  let common := [("AF_CONTEXT_FILE", contextFile), ("AF_FRAMEWORK_RUN", "1")]
  match runtime with
  | .node =>
      match fileUrl? path with
      | some url => .ok (common ++ [("CONTEXT_FILE", contextFile), ("FILE_URL", url)])
      | none => .error (.contextFile ("Cannot build module URL for " ++ path))
  | _ => .ok common

/-- How the script of a frame is started. -/
def programCall (l : FrameLauncher) (frame : Frame) (contextFile : String) :
    Except FrameError ProgramCall := do
  let runtime := FrameRuntime.ofPath frame.filePath
  let path := frame.resolvePath l.workingDir
  return {
    program := l.programName runtime path
    args := arguments runtime path contextFile
    workingDir := l.workingDir
    environment := ← environment runtime path contextFile
    timeoutMillis := l.timeoutMillis frame }

/-- What comes of a frame whose script has ended. -/
def outcomeOf (runtime : FrameRuntime) (program : ProgramCall) : ProgramOutcome → FrameOutcome
  | .notStarted reason => .error (.spawn program.program reason)
  | .timedOut => .error (.timeout (program.timeoutMillis / 1000))
  | .ended code stdout stderr =>
      if code = 0 then
        match Response.lastObject? (Text.ofBytesLossy stdout) runtime.responseWindow with
        | some response => Response.normalize response
        | none => .error .noResponse
      else
        .error (.exit code (Redaction.sanitize (Text.trim (Text.ofBytesLossy stderr))))

def contextFileName (id : String) : String := "octospine-ctx-" ++ id ++ ".json"

variable {σ : Type}

def removeFile (path : String) (world : World σ) : World σ :=
  match world.files.locate path with
  | .ok place => { world with files := world.files.remove place }
  | .error _ => world

/-- Run the script of a frame. The temporary file is there while the script runs; one that the
disk did not take is removed at once. -/
def callFrame (l : FrameLauncher)
    (runProgram : ProgramCall → World σ → Reply ProgramOutcome × World σ)
    (call : FrameCall) (world : World σ) : Reply FrameOutcome × World σ :=
  let (id, world) := world.freshId
  let path := Path.join l.tempDir (contextFileName id)
  match World.onFiles (FileTree.createNew path (contextDocument call).compact.toUTF8) world with
  | .error e world =>
      (.done (.error (.contextFile e.message)),
        if e = .alreadyExists then world else removeFile path world)
  | .ok () world =>
      match l.programCall call.frame path with
      | .error e => (.done (.error e), removeFile path world)
      | .ok program =>
          let runtime := FrameRuntime.ofPath call.frame.filePath
          match runProgram program world with
          | (.done outcome, world) =>
              (.done (outcomeOf runtime program outcome), removeFile path world)
          | (.interrupted, world) => (.interrupted, removeFile path world)

end FrameLauncher

end ScaffoldRunner
