import ScaffoldRunner.Text.Basic

/-!
# Paths as texts

Paths are kept as they were written; joining them does not resolve `.` or `..`.
-/

namespace ScaffoldRunner.Path

/-- Whether a path starts at the root. -/
def isAbsolute (path : String) : Bool := path.toList.head? = some '/'

/-- A path below a directory; an absolute path stands for itself. An empty path leaves the
separator at the end. -/
def join (dir path : String) : String :=
  if isAbsolute path then path
  else
    match dir.toList.getLast? with
    | none => path
    | some '/' => dir ++ path
    | some _ => dir ++ "/" ++ path

/-- The names between the separators, without empty ones and without `.`. -/
def names (path : String) : List String :=
  (Text.split '/' path).filter fun name => name ≠ "" && name ≠ "."

/-- The last name of a path, unless that is the parent directory. -/
def fileName? (path : String) : Option String :=
  match (names path).getLast? with
  | some ".." | none => none
  | some name => some name

/-- The part of a file name behind its last point; a point in front of the name does not count. -/
def extensionOf? (name : List Char) : Option (List Char) :=
  let back := name.reverse
  let ext := back.takeWhile (· ≠ '.')
  let rest := back.dropWhile (· ≠ '.')
  match rest with
  | _ :: _ :: _ => some ext.reverse
  | _ => none

def extension? (path : String) : Option String :=
  (fileName? path).bind fun name => (extensionOf? name.toList).map String.ofList

end ScaffoldRunner.Path
