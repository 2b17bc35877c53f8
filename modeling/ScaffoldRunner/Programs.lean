import ScaffoldRunner.Shell.Evaluation
import ScaffoldRunner.Utility.Arranging
import ScaffoldRunner.Utility.Awk
import ScaffoldRunner.Utility.Calendar
import ScaffoldRunner.Utility.Comparing
import ScaffoldRunner.Utility.Counting
import ScaffoldRunner.Utility.Digest
import ScaffoldRunner.Utility.Encoding
import ScaffoldRunner.Utility.Expression
import ScaffoldRunner.Utility.Find
import ScaffoldRunner.Utility.Grep
import ScaffoldRunner.Utility.Sed
import ScaffoldRunner.Utility.Sorting
import ScaffoldRunner.Utility.Translation
import ScaffoldRunner.Utility.Words

/-!
# The programs that are installed

A file is a program of its own, or a text whose first line names the program that runs it. The
programs that are installed are files that hold nothing but a mark and the name of the program.
-/

namespace ScaffoldRunner

namespace Programs

/-- What the files of installed programs begin with. -/
def mark : String := "\x7fELF"

/-- The names under which the shell is known. -/
def shellNames : List String := ["sh", "dash", "bash"]

open Utility in
/-- The utilities that run no other programs, by their names. -/
def plainUtilities : List (String × Utility Nat) :=
  [("[", condition true), ("arch", tell "x86_64"), ("base64", base64), ("basename", basename),
    ("cat", cat), ("chmod", chmod), ("cksum", cksum), ("cmp", cmp), ("comm", comm), ("cp", cp),
    ("cut", cut), ("date", date), ("diff", diff), ("dirname", dirname), ("echo", echo),
    ("egrep", grep true false), ("expand", expand), ("expr", expr), ("false", constant 1),
    ("fgrep", grep false true), ("fold", fold), ("grep", grep false false),
    ("groups", tell "root"), ("head", head), ("hostname", tell "localhost"), ("id", identity),
    ("install", install), ("join", join), ("kill", kill), ("ls", ls),
    ("md5sum", digestSum Digest.md5), ("mkdir", mkdir), ("mktemp", mktemp), ("mv", mv), ("nl", nl),
    ("nproc", tell "1"), ("od", od), ("paste", paste), ("printenv", printenv), ("printf", printf),
    ("pwd", pwd), ("readlink", readlink), ("realpath", realpath), ("rev", rev), ("rm", rm),
    ("rmdir", rmdir), ("sed", sed), ("seq", seq), ("sha1sum", digestSum Digest.sha1),
    ("sha256sum", digestSum Digest.sha256), ("sleep", sleep), ("sort", sort), ("stat", stat),
    ("sync", constant 0), ("tac", tac), ("tail", tail), ("tee", tee), ("test", condition false),
    ("touch", touch), ("tr", tr), ("true", constant 0), ("truncate", truncate), ("tty", tty),
    ("uname", uname), ("uniq", uniq), ("unlink", unlink), ("wc", wc), ("which", which),
    ("whoami", tell "root"), ("yes", yes)]

open Utility in
def utilities : List (String × (Loader → Utility Nat)) :=
  [("awk", awk), ("env", env), ("find", find), ("mawk", awk), ("nice", nice), ("nohup", nohup),
    ("setsid", fun load => runPlainly load "cfw"),
    ("stdbuf", fun load => runPlainly load "i:o:e:"), ("timeout", timeout), ("xargs", xargs)] ++
    plainUtilities.map fun (name, utility) => (name, fun _ => utility)

/-- How much of a file is looked at to find what runs it. -/
def headSize : Nat := 256

/-- What runs a text: the program that its first line names, and an argument for it if there is
one. A line that is too long is cut, as long as the name of the program is whole. -/
def interpreter? (bytes : ByteArray) : Option (String × List String) :=
  let isBlank (c : Char) : Bool := c = ' ' || c = '\t'
  let head := (Octets.ofBytes (bytes.extract 0 headSize)).toList
  match head with
  | '#' :: '!' :: rest =>
      let line := rest.takeWhile (· ≠ '\n')
      let isWhole := line.length < rest.length || head.length < headSize
      let line := if isWhole then line else line.take (headSize - 3)
      let line := ((line.dropWhile isBlank).reverse.dropWhile isBlank).reverse
      let path := line.takeWhile fun c => !isBlank c
      let argument := (line.drop path.length).dropWhile isBlank
      if path.isEmpty || (!isWhole && argument.isEmpty) then none
      else
        some (String.ofList path, if argument.isEmpty then [] else [String.ofList argument])
  | _ => none

def named? (load : Loader) (name : String) (setting : Setting) : Option Program :=
  if shellNames.contains name then some (Shell.program load setting)
  else
    (utilities.find? fun e => e.1 = name).map fun (_, utility) =>
      Utility.program (utility load) setting

/-- How often the program that runs a file may itself be run by another one. -/
def interpreterDepth : Nat := 5

/-- The program that a file holds, where programs are loaded by others in turn. -/
def loadWith (load : Loader) : Nat → Loader
  | 0, _, _, _ => .error .execFormat
  | depth + 1, files, setting, path => do
      if path = "" then throw .notFound
      match ← files.lookup (Octets.decode (setting.resolve path)) with
      | .dir => throw .permissionDenied
      | .file bytes mode =>
          if !Node.mayRun mode then throw .permissionDenied
          let text := Octets.ofBytes (bytes.extract 0 headSize)
          if mark.toList.isPrefixOf text.toList then
            match named? load (text.drop mark.length).toString setting with
            | some program => return program
            | none => throw .execFormat
          else
            match interpreter? bytes with
            | none => throw .execFormat
            | some (runner, first) =>
                loadWith load depth files
                  { setting with name := runner, args := first ++ path :: setting.args } runner

/-- The program that a file holds, up to some depth. -/
def loadUpTo : Nat → Loader
  | 0, _, _, _ => .error .execFormat
  | depth + 1, files, setting, path => loadWith (loadUpTo depth) interpreterDepth files setting path

/-- The program that a file holds. -/
def load : Loader := loadUpTo Act.rounds

/-- The directories that there are from the start. -/
def directories : List String :=
  ["bin", "boot", "dev", "etc", "home", "lib", "lib64", "media", "mnt", "opt", "proc", "root",
    "run", "sbin", "srv", "sys", "tmp", "usr", "var"]

/-- The texts about the system that there are from the start. -/
def texts : List (String × String) :=
  [("group", "root:x:0:\n"), ("hostname", "localhost\n"), ("hosts", "127.0.0.1\tlocalhost\n"),
    ("passwd", "root:x:0:0:root:/root:/bin/sh\n")]

/-- The files that there are from the start: the programs, and the directories they lie in. -/
def installed : List (List String × Node) :=
  let names := shellNames ++ utilities.map (·.1)
  let inDir (dir : List String) : List (List String × Node) := names.map fun name =>
    (dir ++ [name], .file (mark ++ name).toUTF8 Node.programMode)
  directories.map (fun name => ([name], .dir)) ++
    ["bin", "games", "include", "lib", "local", "sbin", "share", "src"].map
      (fun name => (["usr", name], .dir)) ++
    ["cache", "lib", "log", "spool", "tmp"].map (fun name => (["var", name], .dir)) ++
    [(["usr", "local", "bin"], .dir), (["usr", "local", "lib"], .dir),
      (["usr", "local", "share"], .dir)] ++
    texts.map (fun (name, text) => (["etc", name], .file text.toUTF8 0o644)) ++
    ["null", "zero", "full", "random", "urandom"].map (fun name =>
      (["dev", name], .file .empty 0o666)) ++
    inDir ["bin"] ++ inDir ["usr", "bin"]

def install (files : FileTree) : FileTree :=
  let isNew (e : List String × Node) : Bool := (files.get? e.1).isNone
  if (files.get? ["usr", "bin", "sh"]).isSome then files
  else { files with entries := files.entries ++ installed.filter isNew }

end Programs

end ScaffoldRunner
