import ScaffoldRunner.Instant
import ScaffoldRunner.Json.Printer
import ScaffoldRunner.Workspace.FileTree

/-!
# The directory of reports

A report is a file named for its subject and the second in which it was written. A report never
replaces anything: when its name is taken, a number is put behind the second, the smallest one
that is free.
-/

namespace ScaffoldRunner

structure ReportDirectory where
  dir : String

namespace ReportDirectory

/-- The name of a report after a number of collisions. -/
def fileName (stem : String) : Nat → String
  | 0 => stem ++ ".json"
  | n => stem ++ "_" ++ toString n ++ ".json"

/-- The name of a report without its number. -/
def stem (subject : String) (now : Instant) : String := subject ++ "_" ++ now.fileStamp

/-- Create a file under the first free name, trying the given number of names. -/
def createFree (dir stem : String) (bytes : ByteArray) : Nat → Nat → FileM String
  | 0, _ => throw .alreadyExists
  | tries + 1, n => fun tree =>
      let path := Path.join dir (fileName stem n)
      match FileTree.createNew path bytes tree with
      | .ok () tree => .ok path tree
      | .error .alreadyExists tree => createFree dir stem bytes tries (n + 1) tree
      | .error e tree => .error e tree

/-- Write a report; the answer is its path. One more name is tried than there are files, so a free
one is found. -/
def write (reports : ReportDirectory) (subject : String) (now : Instant) (document : Json) :
    FileM String := do
  FileTree.createDirAll reports.dir
  let tree ← get
  createFree reports.dir (stem subject now) document.pretty.toUTF8 (tree.entries.length + 1) 0

def auditSubject (scaffold : String) : String := "meta_analysis_" ++ scaffold

/-- The subject of the report on a completed run of a scaffold. -/
def executionSubject (scaffold : String) : String := "scaffold_execution_" ++ scaffold

/-- The subject of the report on a failed run. -/
def failureSubject : String := "framework_failure"

end ReportDirectory

end ScaffoldRunner
