import ScaffoldRunner.Pattern.PosixSyntax
import ScaffoldRunner.Shell.Wildcard
import ScaffoldRunner.Utility.Listing
import ScaffoldRunner.Utility.Running
import ScaffoldRunner.Workspace.FileMode

/-!
# Finding files

`find` walks through directories and does for each file what an expression says.
-/

namespace ScaffoldRunner.Utility

namespace Find

inductive Comparison where
  | exactly
  | more
  | less

/-- An expression on files: tests and actions, joined by operators. -/
inductive Expression where
  | always (value : Bool)
  | name (pattern : String) (fold : Bool)
  | path (pattern : String) (fold : Bool)
  | regex (pattern : Pattern) (groups : Nat)
  | kind (letters : String)
  | empty
  | size (comparison : Comparison) (count unit : Nat)
  | permissions (bits : Nat) (all any : Bool)
  | newer (rank : Nat)
  | writable (bits : Nat)
  | print (ending : String)
  | printFormat (format : String)
  | delete
  | prune
  | quit
  | exec (argv : List String)
  /-- The paths are collected, and the program is run with all of them. -/
  | execAll (index : Nat) (argv : List String)
  | negation (e : Expression)
  | both (a b : Expression)
  | either (a b : Expression)
  | sequence (a b : Expression)

def Expression.acts : Expression → Bool
  | print _ | printFormat _ | delete | exec _ | execAll _ _ | quit => true
  | negation e => e.acts
  | both a b | either a b | sequence a b => a.acts || b.acts
  | _ => false

/-- Whether what lies in a directory comes before the directory. -/
def Expression.isDeep : Expression → Bool
  | delete => true
  | negation e => e.isDeep
  | both a b | either a b | sequence a b => a.isDeep || b.isDeep
  | _ => false

/-- What holds for the whole walk. -/
structure Limits where
  least : Nat := 0
  most : Option Nat := none
  deep : Bool := false

/-- The state of reading an expression. -/
structure State where
  args : List String
  limits : Limits := {}
  collected : Nat := 0

/-- A step of reading an expression; the error is what is said about it. -/
abbrev Read := EStateM String State

/-- Take an argument. -/
def next? : Read (Option String) :=
  modifyGet fun s => (s.args.head?, { s with args := s.args.drop 1 })

/-- The argument of a test or an action. -/
def needed (name : String) : Read String := do
  match ← next? with
  | some arg => return arg
  | none => throw ("missing argument to " ++ "`" ++ name ++ "'")

/-- A number with a sign that says how it is compared. -/
def comparison (text : List Char) : Comparison × List Char :=
  match text with
  | '+' :: rest => (.more, rest)
  | '-' :: rest => (.less, rest)
  | rest => (.exactly, rest)

def size (text : String) : Read Expression := do
  let (c, rest) := comparison text.toList
  let digits := rest.takeWhile Char.isDigit
  let unit : Option Nat := match rest.drop digits.length with
    | [] | ['b'] => some 512
    | ['c'] => some 1
    | ['w'] => some 2
    | ['k'] => some 1024
    | ['M'] => some 1048576
    | ['G'] => some 1073741824
    | _ => none
  match unit, digits with
  | some unit, _ :: _ =>
      return .size c (digits.foldl (fun n c => n * 10 + (c.toNat - 48)) 0) unit
  | _, _ => throw ("Invalid argument " ++ "`" ++ text ++ "' to -size")

/-- The permission bits that a text asks for. -/
def permissions (text : String) : Read Expression := do
  let (all, any, digits) : Bool × Bool × String := match text.toList with
    | '-' :: rest => (true, false, String.ofList rest)
    | '/' :: rest => (false, true, String.ofList rest)
    | _ => (false, false, text)
  match FileMode.change? digits 0 0 false with
  | some bits => return .permissions bits all any
  | none => throw ("invalid mode " ++ "`" ++ text ++ "'")

def level (name : String) : Read Nat := do
  let text ← needed name
  match text.toNat? with
  | some n => return n
  | none => throw ("Expected a positive decimal integer argument to " ++ name ++
      ", but got " ++ quoted text)

/-- The arguments of a program, up to a semicolon or a plus after braces. -/
def program (name : String) : Read Expression := do
  let s ← get
  let isAll (args : List String) : Bool :=
    match args with
    | "\x7b\x7d" :: "+" :: _ => true
    | _ => false
  let rec go : List String → List String → Option (List String × Bool × List String)
    | [], _ => none
    | ";" :: rest, argv => some (argv.reverse, false, rest)
    | arg :: rest, argv =>
        if isAll (arg :: rest) then some (argv.reverse, true, rest.drop 1)
        else go rest (arg :: argv)
  match go s.args [] with
  | none | some ([], _, _) => throw ("missing argument to " ++ "`" ++ name ++ "'")
  | some (argv, true, rest) => do
      set { s with args := rest, collected := s.collected + 1 }
      return .execAll s.collected argv
  | some (argv, false, rest) => do
      set { s with args := rest }
      return .exec argv

/-- A test or an action. -/
def single (files : FileTree) (setting : Setting) (name : String) : Read Expression := do
  match name with
  | "-true" | "-mount" | "-xdev" | "-noleaf" | "-follow" | "-daystart" => return .always true
  | "-false" => return .always false
  | "-name" => return .name (← needed name) false
  | "-iname" => return .name (← needed name) true
  | "-path" | "-wholename" => return .path (← needed name) false
  | "-ipath" | "-iwholename" => return .path (← needed name) true
  | "-regex" | "-iregex" =>
      let text ← needed name
      match Pattern.Posix.read { extended := false, fold := name = "-iregex" } text.toList with
      | .ok r => return .regex r.pattern r.groups
      | .error e => throw e
  | "-type" => do
      let text ← needed name
      match text.toList.find? fun c => !"bcdpflsD,".toList.contains c with
      | none => return .kind text
      | some c => throw ("Unknown argument to -type: " ++ String.singleton c)
  | "-empty" => return .empty
  | "-size" => size (← needed name)
  | "-perm" => permissions (← needed name)
  | "-newer" => do
      let path ← needed name
      match locate files setting path with
      | .ok place =>
          if (files.get? place).isNone then throw (quoted path ++ ": No such file or directory")
          return .newer (files.entries.findIdx fun e => e.1 = place)
      | .error e => throw (quoted path ++ ": " ++ Fault.reasonOf e)
  | "-readable" | "-user" | "-group" | "-uid" | "-gid" | "-mtime" | "-mmin" | "-atime" | "-ctime" =>
      if name ≠ "-readable" then
        let _ ← needed name
      return .always true
  | "-writable" => return .always true
  | "-executable" => return .writable 0o111
  | "-print" => return .print "\n"
  | "-print0" => return .print "\x00"
  | "-printf" => return .printFormat (← needed name)
  | "-delete" => return .delete
  | "-prune" => return .prune
  | "-quit" => return .quit
  | "-exec" | "-execdir" | "-ok" => program name
  | "-maxdepth" => do
      let n ← level name
      modify fun s => { s with limits := { s.limits with most := some n } }
      return .always true
  | "-mindepth" => do
      let n ← level name
      modify fun s => { s with limits := { s.limits with least := n } }
      return .always true
  | "-depth" | "-d" => do
      modify fun s => { s with limits := { s.limits with deep := true } }
      return .always true
  | name =>
      if name.startsWith "-" then throw ("unknown predicate " ++ "`" ++ name ++ "'")
      else throw ("paths must precede expression: " ++ "`" ++ name ++ "'")

variable (files : FileTree) (setting : Setting)

mutual

/-- Expressions of which the last one counts. -/
def readSequence : Nat → Read Expression
  | 0 => throw "expression too long"
  | fuel + 1 => do
      let a ← readAny fuel
      match (← get).args with
      | "," :: _ => do
          let _ ← next?
          return .sequence a (← readSequence fuel)
      | _ => return a

def readAny : Nat → Read Expression
  | 0 => throw "expression too long"
  | fuel + 1 => do
      let a ← readAll fuel
      match (← get).args with
      | "-o" :: _ | "-or" :: _ => do
          let _ ← next?
          return .either a (← readAny fuel)
      | _ => return a

/-- Expressions that must all hold. -/
def readAll : Nat → Read Expression
  | 0 => throw "expression too long"
  | fuel + 1 => do
      let a ← readOne fuel
      match (← get).args with
      | [] | "-o" :: _ | "-or" :: _ | "," :: _ | ")" :: _ => return a
      | "-a" :: _ | "-and" :: _ => do
          let _ ← next?
          return .both a (← readAll fuel)
      | _ => return .both a (← readAll fuel)

def readOne : Nat → Read Expression
  | 0 => throw "expression too long"
  | fuel + 1 => do
      match ← next? with
      | none => throw "expected an expression"
      | some "!" | some "-not" => return .negation (← readOne fuel)
      | some "(" => do
          let e ← readSequence fuel
          match ← next? with
          | some ")" => return e
          | _ => throw ("invalid expression; I was expecting to find a ')' somewhere but " ++
              "did not see one.")
      | some name => single files setting name

end

/-- What the walk has come to. -/
structure Progress where
  failed : Bool := false
  quit : Bool := false
  pruned : Bool := false
  /-- The paths that were collected for each program. -/
  collected : List (Nat × List String × List String) := []

abbrev Walk := Act Nat (Setting × Progress)

def asUtility {α : Type} (act : Utility α) : Walk α := do
  let (s, _) ← get
  Act.within s throw act

def note (change : Progress → Progress) : Walk Unit := modify fun (s, p) => (s, change p)

structure Found where
  path : String
  place : List String
  node : Node
  rank : Nat
  depth : Nat
  /-- The path that the walk has begun with. -/
  start : String

def nameOf (path : String) : String :=
  let back := path.toList.reverse.dropWhile (· = '/')
  if back.isEmpty then "/" else String.ofList (back.takeWhile (· ≠ '/')).reverse

/-- Whether a wildcard pattern matches a text. -/
def isLike (pattern text : String) (fold : Bool) : Bool :=
  let lower (text : String) : String := if fold then text.map Char.toLower else text
  Shell.Wildcard.admitsAll
    (Shell.Wildcard.ofField ((lower pattern).toList.map fun c => (c, false))) (lower text).toList

/-- What a letter after a percent sign stands for in a format. -/
def formatField (f : Found) (letter : Char) : String :=
  match letter with
  | 'p' => f.path
  | 'f' => nameOf f.path
  | 's' => toString (FileListing.sizeOf f.node)
  | 'd' => toString f.depth
  | 'm' => FileListing.inBase 8 f.node.mode
  | 'M' => FileListing.modeText f.node
  | 'y' => match f.node with
    | .dir => "d"
    | .file _ _ => "f"
  | 'h' =>
      let parts := Text.split '/' f.path
      if parts.length ≤ 1 then "." else Text.join "/" parts.dropLast
  | 'P' =>
      let rest := (f.path.drop f.start.length).toString
      if rest.startsWith "/" then (rest.drop 1).toString else rest
  | 'H' => f.start
  | 'u' | 'g' => "root"
  | 'U' | 'G' => "0"
  | '%' => "%"
  | c => String.ofList ['%', c]

def formatText (f : Found) : List Char → List Char
  | '%' :: c :: cs => (formatField f c).toList ++ formatText f cs
  | c :: cs => c :: formatText f cs
  | [] => []

/-- A text with each pair of braces replaced by a path. -/
def filledIn (path : List Char) : List Char → List Char
  | '\x7b' :: '\x7d' :: cs => path ++ filledIn path cs
  | c :: cs => c :: filledIn path cs
  | [] => []

/-- How a program that cannot be run is told. -/
def execFailure (name reason : String) : String := name ++ ": " ++ reason

def work (load : Loader) (f : Found) : Expression → Walk Bool
  | .always value => return value
  | .name pattern fold => return isLike pattern (nameOf f.path) fold
  | .path pattern fold => return isLike pattern f.path fold
  | .regex pattern groups =>
      let cs := f.path.toList.toArray
      return (Pattern.places cs pattern (Pattern.entry (groups + 1) 0)).any fun p =>
        p.position = cs.size
  | .kind letters =>
      return letters.toList.contains (match f.node with
        | .dir => 'd'
        | .file _ _ => 'f')
  | .empty => do
      let files ← Act.files
      return match f.node with
        | .dir => (files.below f.place).isEmpty
        | .file bytes _ => bytes.size = 0
  | .size comparison count unit =>
      let size := (FileListing.sizeOf f.node + unit - 1) / unit
      return match comparison with
        | .exactly => size = count
        | .more => count < size
        | .less => size < count
  | .permissions bits all any =>
      let mode := f.node.mode
      return if all then mode &&& bits = bits
        else if any then bits = 0 || mode &&& bits ≠ 0
        else mode = bits
  | .newer rank => return f.rank < rank
  | .writable bits => return f.node.mode &&& bits ≠ 0
  | .print ending => do
      asUtility (put (f.path ++ ending))
      return true
  | .printFormat format => do
      asUtility (put (Escape.expandAll Escape.ofFormat
        (String.ofList (formatText f format.toList))).1)
      return true
  | .delete => do
      if f.path = "." then return true
      let files ← Act.files
      let isFull := match f.node with
        | .dir => !(files.below f.place).isEmpty
        | .file _ _ => false
      if isFull then
        asUtility (complain ("cannot delete " ++ quoted f.path ++ ": Directory not empty"))
        note fun p => { p with failed := true }
        return false
      let _ ← Act.change fun tree => .ok () (tree.remove f.place)
      return true
  | .prune => do
      note fun p => { p with pruned := true }
      return true
  | .quit => do
      note fun p => { p with quit := true }
      return true
  | .exec argv => do
      let argv := argv.map fun arg => String.ofList (filledIn f.path.toList arg.toList)
      let ending ← asUtility (runChild load argv execFailure)
      return ending = .exited 0
  | .execAll index argv => do
      note fun p =>
        let known := if p.collected.any fun e => e.1 = index then p.collected
          else p.collected ++ [(index, argv, [])]
        { p with collected := known.map fun e =>
            if e.1 = index then (index, argv, e.2.2 ++ [f.path]) else e }
      return true
  | .negation e => do return !(← work load f e)
  | .both a b => do
      if ← work load f a then work load f b else return false
  | .either a b => do
      if ← work load f a then return true else work load f b
  | .sequence a b => do
      let _ ← work load f a
      work load f b

/-- Walk through what lies at a place. -/
def walk (load : Loader) (limits : Limits) (e : Expression) : Nat → Found → Walk Unit
  | 0, _ => return
  | fuel + 1, f => do
      if (← get).2.quit then return
      let isMeant := limits.least ≤ f.depth
      note fun p => { p with pruned := false }
      if isMeant && !limits.deep then
        let _ ← work load f e
      let (_, p) ← get
      if p.quit then return
      let goesIn := limits.most.all (f.depth < ·) && (limits.deep || !p.pruned)
      if goesIn then
        if let .dir := f.node then
          let files ← Act.files
          let numbered := (List.range files.entries.length).zip files.entries
          let inside := numbered.filterMap fun (rank, (place, node)) =>
            match f.place.isPrefixOf place, place.drop f.place.length with
            | true, [name] =>
                let separator := if f.path.endsWith "/" then "" else "/"
                let path := f.path ++ separator ++ Octets.encode name
                some (⟨path, place, node, rank, f.depth + 1, f.start⟩ : Found)
            | _, _ => none
          let inside := inside.mergeSort fun a b => a.path ≤ b.path
          for found in inside do walk load limits e fuel found
      if isMeant && limits.deep && !(← get).2.quit then
        let _ ← work load f e

end Find

open Find in
/-- Walk through directories and do something for each file. -/
def find (load : Loader) : Utility Nat := do
  let args := (← get).args
  let args := args.dropWhile fun arg => arg = "-L" || arg = "-P" || arg = "-H"
  let isPath (arg : String) : Bool :=
    !(arg.startsWith "-" && 1 < arg.length) && arg ≠ "(" && arg ≠ "!" && arg ≠ ")" && arg ≠ ","
  let paths := args.takeWhile isPath
  let rest := args.drop paths.length
  let files ← Act.files
  let s ← get
  let reading : Read Expression := if rest.isEmpty then return .always true
    else readSequence files s (4 * rest.length + 4)
  match reading { args := rest } with
  | .error e _ => do
      complain e
      return 1
  | .ok e r => do
      if let some arg := r.args.head? then
        complain (if arg = ")" then "invalid expression; you have too many ')'"
          else "paths must precede expression: " ++ "`" ++ arg ++ "'")
        leave 1
      let e := if e.acts then e else .both e (.print "\n")
      let limits := { r.limits with deep := r.limits.deep || e.isDeep }
      let progress : Walk Progress := do
        for path in if paths.isEmpty then ["."] else paths do
          let files ← Act.files
          match files.lookup (Octets.decode (s.resolve path)), locate files s path with
          | .ok node, .ok place =>
              let rank := files.entries.findIdx fun e => e.1 = place
              walk load limits e 64 ⟨path, place, node, rank, 0, path⟩
          | .error e, _ | _, .error e => do
              asUtility (complain (quoted path ++ ": " ++ Fault.reasonOf e))
              note fun p => { p with failed := true }
        return (← get).2
      let p ← Act.within (s, {}) leave progress
      let failed ← p.collected.foldlM (fun failed (_, argv, paths) => do
        match ← runChild load (argv ++ paths) execFailure with
        | .exited 0 => return failed
        | _ => return true) p.failed
      return statusOf (!failed)

end ScaffoldRunner.Utility
