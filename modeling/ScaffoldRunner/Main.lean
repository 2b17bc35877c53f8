import Std.Time.DateTime.Timestamp
import ScaffoldRunner.CommandLine.Conclusion
import ScaffoldRunner.Machine

/-!
# The program

The outer layer: it reads the arguments, the environment, the clock and the files below the
current directory, follows the command line on them, and writes back the files that have changed.
-/

namespace ScaffoldRunner.Main

/-- The variables of the environment that have a meaning here. -/
def variableNames : List String :=
  ["AF_SKIP_GIT_PUSH", "HOME", "LOG_FORMAT", "LOG_LEVEL", "LOG_SPANS", "PATH", "RUST_LOG", "TMPDIR"]

/-- How many directories deep files are read. -/
def maxDepth : Nat := 64

def readEnvironment : IO (Dict String) := do
  let mut found : Dict String := []
  for name in variableNames do
    if let some value ← IO.getEnv name then found := found.insert name value
  return found

/-- The point in time. -/
def readClock : IO Instant := do
  let nanos := (← Std.Time.Timestamp.now).toNanosecondsSinceUnixEpoch.val
  return ⟨nanos / 1000000000, (nanos % 1000000000).toNat⟩

/-- Read what lies below a directory into a tree. -/
def readTree : Nat → String → FileTree → IO FileTree
  | 0, _, tree => return tree
  | depth + 1, dir, tree => do
      let mut tree := tree.insert (Path.names dir) .dir
      for entry in ← (← IO.FS.realPath dir).readDir do
        let path := Path.join dir entry.fileName
        match (← entry.path.symlinkMetadata).type with
        | .dir => tree ← readTree depth path tree
        | .file => tree := tree.insert (Path.names path) (.file (← IO.FS.readBinFile path)
          Node.programMode)
        | _ => pure ()
      return tree

/-- The directories above a place. -/
def withParents (tree : FileTree) (place : List String) : FileTree :=
  (List.range (place.length + 1)).foldl (fun tree n =>
    if n = 0 then tree else tree.insert (place.take n) .dir) tree

def pathOf (place : List String) : String := "/" ++ Text.join "/" place

def sameNode : Option Node → Option Node → Bool
  | some (.file a _), some (.file b _) => a == b
  | some .dir, some .dir => true
  | none, none => true
  | _, _ => false

def writeChanges (before after : FileTree) : IO Unit := do
  for (place, _) in before.entries do
    if (after.get? place).isNone then
      match before.get? place with
      | some (.file _ _) => IO.FS.removeFile (pathOf place)
      | _ => pure ()
  for (place, node) in after.entries.reverse do
    unless sameNode (before.get? place) (some node) do
      match node with
      | .dir => IO.FS.createDirAll (pathOf place)
      | .file bytes _ =>
          IO.FS.createDirAll (pathOf place.dropLast)
          IO.FS.writeBinFile (pathOf place) bytes

def logText (format : LogFormat) (line : LogLine) : String :=
  match format with
  | .json =>
      (Json.record [("level", .str line.level.name), ("target", .str LogSettings.target),
        ("fields", .record [("message", .str line.message)])]).compact
  | _ => line.level.name ++ " " ++ line.message

/-- Follow the arguments; the answer is the exit code. -/
def run (args : List String) : IO UInt32 := do
  let dir := (← IO.currentDir).toString
  let environment ← readEnvironment
  let surroundings : Surroundings := ⟨dir, environment⟩
  let scratch := withParents (withParents {} (Path.names dir)) (Path.names surroundings.tempDir)
  let files ← readTree maxDepth dir scratch
  let machine : Machine := { environment := environment, currentDir := dir }
  let world : World Unit := { files := files, now := ← readClock, state := () }
  let (conclusion, format, after) :=
    CommandLine.answer surroundings machine.runProgram args world
  writeChanges files after.files
  IO.print conclusion.output
  IO.eprint conclusion.notice
  for line in conclusion.log do IO.eprintln (logText format line)
  return conclusion.exitCode.toUInt32

end ScaffoldRunner.Main

/-- Follow the command line. -/
def main (args : List String) : IO UInt32 := ScaffoldRunner.Main.run args
