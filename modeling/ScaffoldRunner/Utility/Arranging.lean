import ScaffoldRunner.Utility.Copying
import ScaffoldRunner.Utility.Listing
import ScaffoldRunner.Workspace.FileMode

/-!
# Arranging files

Utilities that make, copy, move and remove files and directories, and change their permission bits.
-/

namespace ScaffoldRunner.Utility

/-- A path as text, seen from the root. -/
def fullPath (path : String) : Utility String := return Octets.decode ((← get).resolve path)

def changeTree (f : FileTree → FileTree) : Utility Unit := do
  let _ ← Act.change fun tree => .ok () (f tree)

/-- Whether the answer to a question is yes; without an answer it is no. -/
def confirms (question : String) : Utility Bool := do
  let s ← get
  Act.put 2 (s.name ++ ": " ++ question)
  match ← Act.ask (.read 0 4096 true) with
  | .ok answer => return answer.startsWith "y" || answer.startsWith "Y"
  | .error _ => return false

def below (dir name : String) : String :=
  if dir.endsWith "/" then dir ++ name else dir ++ "/" ++ name

def finalName (path : String) : String :=
  let back := path.toList.reverse.dropWhile (· = '/')
  String.ofList (back.takeWhile (· ≠ '/')).reverse

/-! ## Directories -/

/-- The paths to a path and to those above it, the highest first. -/
def pathsTo (path : String) : List String :=
  let parts := Text.split '/' path
  let tops := (List.range parts.length).map fun i => Text.join "/" (parts.take (i + 1))
  tops.filter fun top => top ≠ "" && !top.endsWith "/"

/-- Make directories. -/
def mkdir : Utility Nat := do
  let o ← options
    { letters := "pvm:Z", names := [("parents", 'p'), ("verbose", 'v'), ("mode", 'm')] }
  if o.operands.isEmpty then misuse "missing operand"
  if let some mode := o.value? 'm' then
    if (FileMode.change? mode 0o777 0 true).isNone then
      complain ("invalid mode " ++ quoted mode)
      leave 1
  let make (path : String) : Utility Bool := do
    match ← Act.change (FileTree.makeDir (← fullPath path)) with
    | none => do
        if o.has 'v' then put ((← get).name ++ ": created directory " ++ quoted path ++ "\n")
        return true
    | some e => do
        complain ("cannot create directory " ++ quoted path ++ ": " ++ Fault.reasonOf e)
        return false
  /- Those that are there already are passed over. -/
  let ensure (path : String) : Utility Bool := do
    match ← lookup path with
    | .ok .dir => return true
    | .ok (.file _ _) => do
        complain ("cannot create directory " ++ quoted path ++ ": Not a directory")
        return false
    | .error _ => make path
  return statusOf (← forAll o.operands fun path => do
    if !o.has 'p' || path = "" then make path
    else
      let rec goOn : List String → Utility Bool
        | [] => return true
        | [last] => do
            match ← lookup last with
            | .ok .dir => return true
            | _ => make last
        | top :: rest => do
            if ← ensure top then goOn rest else return false
      goOn (pathsTo path))

/-- Remove a directory that is empty; why it cannot be removed, if so. -/
def removeDir (path : String) : Utility (Option String) := do
  match ← lookup path with
  | .error e => return some (Fault.reasonOf e)
  | .ok (.file _ _) => return some "Not a directory"
  | .ok .dir =>
      let files ← Act.files
      match locate files (← get) path with
      | .error e => return some (Fault.reasonOf e)
      | .ok place =>
          if finalName path = "." then return some "Invalid argument"
          else if place.isEmpty then return some "Device or resource busy"
          else if !(files.below place).isEmpty then return some "Directory not empty"
          else do
            changeTree fun tree => tree.remove place
            return none

/-- Remove directories that are empty. -/
def rmdir : Utility Nat := do
  let o ← options
    { letters := "pv\x01", names := [("parents", 'p'), ("verbose", 'v'),
        ("ignore-fail-on-non-empty", '\x01')] }
  if o.operands.isEmpty then misuse "missing operand"
  let remove (path : String) : Utility Bool := do
    if o.has 'v' then put ((← get).name ++ ": removing directory, " ++ quoted path ++ "\n")
    match ← removeDir path with
    | none => return true
    | some "Directory not empty" => do
        if !o.has '\x01' then
          complain ("failed to remove " ++ quoted path ++ ": Directory not empty")
        return o.has '\x01'
    | some reason => do
        complain ("failed to remove " ++ quoted path ++ ": " ++ reason)
        return false
  return statusOf (← forAll o.operands fun path => do
    let paths := if o.has 'p' then (pathsTo path).reverse else [path]
    paths.foldlM (fun isDone path => if isDone then remove path else pure false) true)

/-! ## Removing -/

/-- The paths below a place, each in front of what it lies in, with their nodes. -/
def pathsBelow (files : FileTree) (place : List String) (path : String) :
    List (String × List String × Node) :=
  let found := (files.below place).map fun (names, node) =>
    (below path (Octets.encode (Text.join "/" names)), place ++ names, node)
  (found.mergeSort fun a b => a.1 ≤ b.1).reverse

/-- Remove files. -/
def rm : Utility Nat := do
  let o ← options
    { letters := "dfiIrRv\x01"
      names := [("force", 'f'), ("recursive", 'r'), ("dir", 'd'), ("verbose", 'v'),
        ("interactive", 'i'), ("no-preserve-root", '\x01')] }
  if o.operands.isEmpty then
    if o.has 'f' then return 0
    misuse "missing operand"
  let isForced := o.last? ['f', 'i'] = some 'f'
  let asks := o.last? ['f', 'i'] = some 'i'
  let isDeep := o.has 'r' || o.has 'R'
  let fails (path reason : String) : Utility Bool := do
    complain ("cannot remove " ++ quoted path ++ ": " ++ reason)
    return false
  return statusOf (← forAll o.operands fun path => do
    let name := finalName path
    let files ← Act.files
    if isDeep && (name = "." || name = "..") then
      complain ("refusing to remove '.' or '..' directory: skipping " ++ quoted path)
      return false
    match ← lookup path, locate files (← get) path with
    | .error e, _ | _, .error e =>
        if isForced && (e = .notFound || e = .notDirectory) then return true
        else fails path (Fault.reasonOf e)
    | .ok (.file bytes _), .ok place => do
        let kind := if bytes.size = 0 then "regular empty file" else "regular file"
        let isMeant ← if asks then confirms ("remove " ++ kind ++ " " ++ quoted path ++ "? ")
          else pure true
        if isMeant then
          changeTree fun tree => tree.remove place
          if o.has 'v' then put ("removed " ++ quoted path ++ "\n")
        return true
    | .ok .dir, .ok place =>
        if isDeep then do
          if place.isEmpty then
            complain "it is dangerous to operate recursively on '/'"
            complain "use --no-preserve-root to override this failsafe"
            return false
          let isMeant ← if asks then confirms ("remove directory " ++ quoted path ++ "? ")
            else pure true
          if isMeant then
            if o.has 'v' then
              let inside := pathsBelow files place path ++ [(path, place, Node.dir)]
              put (String.join (inside.map fun (path, _, node) => match node with
                | .dir => "removed directory " ++ quoted path ++ "\n"
                | .file _ _ => "removed " ++ quoted path ++ "\n"))
            changeTree fun tree => tree.remove place
          return true
        else if o.has 'd' then do
          match ← removeDir path with
          | none => return true
          | some reason => fails path reason
        else fails path "Is a directory")

/-- Remove one file. -/
def unlink : Utility Nat := do
  let o ← options { letters := "" }
  match o.operands with
  | [path] =>
      match ← lookup path, locate (← Act.files) (← get) path with
      | .ok (.file _ _), .ok place => do
          changeTree fun tree => tree.remove place
          return 0
      | .ok .dir, _ => do
          complain ("cannot unlink " ++ quoted path ++ ": Is a directory")
          return 1
      | .error e, _ | _, .error e => do
          complain ("cannot unlink " ++ quoted path ++ ": " ++ Fault.reasonOf e)
          return 1
  | [] => misuse "missing operand"
  | _ :: extra :: _ => misuse ("extra operand " ++ quoted extra)

/-! ## Making -/

/-- Make files that are missing, and let the others count as written now. -/
def touch : Utility Nat := do
  let o ← options
    { letters := "acd:fhmr:t:"
      names := [("no-create", 'c'), ("date", 'd'), ("reference", 'r'), ("time", 't')] }
  if o.operands.isEmpty then misuse "missing file operand"
  return statusOf (← forAll o.operands fun path => do
    match ← lookup path, locate (← Act.files) (← get) path with
    | .ok (.file bytes mode), .ok place => do
        changeTree fun tree => tree.insert place (.file bytes mode)
        return true
    | .ok .dir, _ => return true
    | .error _, _ | _, .error _ => do
        if o.has 'c' then return true
        let s ← get
        match ← Act.openFile (s.resolve path) .appending s.newMode with
        | .ok descriptor => do
            Act.close descriptor
            return true
        | .error e => do
            let isDir := path.endsWith "/"
            complain ((if isDir then "setting times of " else "cannot touch ") ++ quoted path ++
              ": " ++ (if isDir then Fault.reasonOf .notFound else e.reason))
            return false)

/-- Letters and digits that follow no rule. -/
def scrambled (count seed : Nat) : String :=
  let alphabet := "abcdefghijklmnopqrstuvwxyzABCDEFGHIJKLMNOPQRSTUVWXYZ0123456789".toList
  let (_, cs) := (List.range count).foldl (fun (x, cs) _ =>
    let x := (x * 6364136223846793005 + 1442695040888963407) % twoTo 64
    (x, alphabet.getD (x / twoTo 33 % alphabet.length) 'a' :: cs)) (seed, ([] : List Char))
  String.ofList cs

/-- Make a file or a directory with a new name. -/
def mktemp : Utility Nat := do
  let o ← options
    { letters := "dp::qtu\x01:"
      names := [("directory", 'd'), ("tmpdir", 'p'), ("quiet", 'q'), ("dry-run", 'u'),
        ("suffix", '\x01')] }
  let s ← get
  let tmp := (s.value? "TMPDIR").getD "/tmp"
  let template := o.operands.headD "tmp.XXXXXXXXXX"
  let inTmp := o.operands.isEmpty || o.has 't' || o.has 'p'
  let dir := (o.value? 'p').getD ""
  let dir := if dir = "" then tmp else dir
  let marks := (template.toList.reverse.takeWhile (· = 'X')).length
  if marks < 3 then
    complain ("too few X's in template " ++ quoted template)
    return 1
  let (process, _) ← Act.ask .self
  let clock : Nat ← Act.ask .clock
  let name := (template.dropEnd marks).toString ++ scrambled marks (process * 1000003 + clock) ++
    (o.value? '\x01').getD ""
  let path := if inTmp then below dir name else name
  let full ← fullPath path
  let failure ←
    if o.has 'u' then pure none
    else if o.has 'd' then Act.change (FileTree.makeDir full)
    else Act.change (FileTree.writeWith (fun _ => 0o600) full .empty)
  match failure with
  | none => do
      put (path ++ "\n")
      return 0
  | some e => do
      let kind := if o.has 'd' then "directory" else "file"
      complain ("failed to create " ++ kind ++ " via template " ++
        quoted (if inTmp then below dir template else template) ++ ": " ++ Fault.reasonOf e)
      return 1

/-- Bring files to a size. -/
def truncate : Utility Nat := do
  let o ← options
    { letters := "cos:r:"
      names := [("no-create", 'c'), ("size", 's'), ("reference", 'r')] }
  match o.value? 's' with
  | none => misuse "you must specify either '--size' or '--reference'"
  | some text => do
      let (sign, digits) : Option Char × String := match text.toList with
        | c :: cs => if "+-<>".toList.contains c then (some c, String.ofList cs) else (none, text)
        | [] => (none, text)
      match sizeOf? digits with
      | none => do
          complain ("Invalid number: " ++ quoted text)
          return 1
      | some n =>
          if o.operands.isEmpty then misuse "missing file operand"
          return statusOf (← forAll o.operands fun path => do
            let before : ByteArray ← match ← lookup path with
              | .ok (.file bytes _) => pure bytes
              | _ => pure .empty
            let size := match sign with
              | some '+' => before.size + n
              | some '-' => before.size - n
              | some '<' => min before.size n
              | some '>' => max before.size n
              | _ => n
            let after : ByteArray := before.extract 0 size ++
              ⟨Array.replicate (size - before.size) 0⟩
            match ← Act.change (FileTree.write (← fullPath path) after) with
            | none => return true
            | some e => do
                complain ("cannot open " ++ quoted path ++ " for writing: " ++ Fault.reasonOf e)
                return false)

/-! ## Permission bits -/

/-- Change the permission bits of files. -/
def chmod : Utility Nat := do
  /- What begins with a dash may be a mode. -/
  let args := (← get).args
  let isMode (arg : String) : Bool :=
    match arg.toList with
    | '-' :: c :: cs => "rwxXst,+=ugoa01234567".toList.contains c &&
        (FileMode.change? arg 0 0 false).isSome && !(c = 'R' && cs.isEmpty)
    | _ => false
  let minus := args.find? isMode
  modify fun s => { s with args := args.filter fun arg => some arg ≠ minus }
  let o ← options
    { letters := "Rvcf\x01:"
      names := [("recursive", 'R'), ("verbose", 'v'), ("changes", 'c'), ("silent", 'f'),
        ("quiet", 'f'), ("reference", '\x01')] }
  let s ← get
  let (mode, paths) : String × List String ← match minus, o.value? '\x01', o.operands with
    | some mode, _, paths => pure (mode, paths)
    | none, some path, paths =>
        match ← lookup path with
        | .ok node => pure (FileListing.inBase 8 node.mode, paths)
        | .error e => do
            complain ("failed to get attributes of " ++ quoted path ++ ": " ++ Fault.reasonOf e)
            leave 1
    | none, none, [] => misuse "missing operand"
    | none, none, mode :: paths => pure (mode, paths)
  if paths.isEmpty then misuse ("missing operand after " ++ quoted mode)
  if (FileMode.change? mode 0 s.mask false).isNone then
    misuse ("invalid mode: " ++ quoted mode)
  let set (path : String) (place : List String) (node : Node) : Utility Unit := do
    let isDir : Bool := match node with
      | .dir => true
      | .file _ _ => false
    let changed := (FileMode.change? mode node.mode s.mask isDir).getD node.mode
    if let .file bytes _ := node then
      changeTree fun tree => { tree with entries := tree.entries.map fun e =>
        if e.1 = place then (place, .file bytes changed) else e }
    let text (mode : Nat) : String :=
      FileListing.padZero 4 (FileListing.inBase 8 mode) ++
        " (" ++ FileListing.modeLetters mode ++ ")"
    if o.has 'v' || (o.has 'c' && changed ≠ node.mode) then
      if changed = node.mode then
        put ("mode of " ++ quoted path ++ " retained as " ++ text changed ++ "\n")
      else
        put ("mode of " ++ quoted path ++ " changed from " ++ text node.mode ++ " to " ++
          text changed ++ "\n")
  return statusOf (← forAll paths fun path => do
    let files ← Act.files
    match ← lookup path, locate files s path with
    | .error e, _ | _, .error e => do
        if !o.has 'f' then complain ("cannot access " ++ quoted path ++ ": " ++ Fault.reasonOf e)
        return false
    | .ok node, .ok place => do
        set path place node
        if o.has 'R' then
          for (path, place, node) in (pathsBelow files place path).reverse do set path place node
        return true)

/-! ## Copying and moving -/

/-- The sources and the target of copying or moving, and whether the target is a directory that
they are put into. -/
def sourcesAndTarget (o : Options) : Utility (List String × String × Bool) := do
  let isDir (path : String) : Utility Bool := return (← Act.files).isDir (← fullPath path)
  match o.value? 't' with
  | some dir => do
      if o.operands.isEmpty then misuse "missing file operand"
      if !(← isDir dir) then
        complain ("target directory " ++ quoted dir ++ ": No such file or directory")
        leave 1
      return (o.operands, dir, true)
  | none =>
      match o.operands with
      | [] => misuse "missing file operand"
      | [a] => misuse ("missing destination file operand after " ++ quoted a)
      | paths => do
          let target := paths.getLast?.getD ""
          let sources := paths.dropLast
          let intoDir ← if o.has 'T' then pure false else isDir target
          if o.has 'T' && 1 < sources.length then
            misuse ("extra operand " ++ quoted (paths.getD 2 ""))
          if !intoDir && 1 < sources.length then
            let reason ← match ← lookup target with
              | .ok _ => pure "Not a directory"
              | .error e => pure (Fault.reasonOf e)
            complain ("target " ++ quoted target ++ ": " ++ reason)
            leave 1
          return (sources, target, intoDir)

/-- The names of options for copying and moving. -/
def movingNames : List (String × Char) :=
  [("archive", 'a'), ("force", 'f'), ("interactive", 'i'), ("no-clobber", 'n'), ("recursive", 'r'),
    ("target-directory", 't'), ("no-target-directory", 'T'), ("update", 'u'), ("verbose", 'v'),
    ("preserve", '\x01'), ("parents", '\x02')]

/-- Whether the target may be written over, which is asked if need be. -/
def mayReplace (o : Options) (target : String) (isThere : Bool) : Utility Bool := do
  if !isThere then return true
  match o.last? ['f', 'i', 'n'] with
  | some 'n' => return false
  | some 'i' => confirms ("overwrite " ++ quoted target ++ "? ")
  | _ => return true

/-- Copy a file or a directory to a place that does not exist, or is of the same kind. -/
def copyNode (o : Options) (source target : String) : Nat → Utility Bool
  | 0 => return true
  | fuel + 1 => do
      let fails (text : String) : Utility Bool := do
        complain text
        return false
      let files ← Act.files
      let s ← get
      match ← lookup source, locate files s source with
      | .error e, _ | _, .error e =>
          fails ("cannot stat " ++ quoted source ++ ": " ++ Fault.reasonOf e)
      | .ok node, .ok place =>
          let there := (← lookup target).toOption
          let isSame : Bool := match locate files s target with
            | .ok other => there.isSome && other = place
            | .error _ => false
          match node, there with
          | .file bytes mode, there => do
              if isSame then
                return ← fails (quoted source ++ " and " ++ quoted target ++ " are the same file")
              if let some .dir := there then
                return ← fails ("cannot overwrite directory " ++ quoted target ++
                  " with non-directory")
              if o.has 'u' && there.isSome then return true
              if !(← mayReplace o target there.isSome) then return true
              let keep := mode - (mode &&& s.mask)
              let isArchive := o.has 'a' || o.has 'p'
              let modeOf (found : Option Node) : Nat :=
                if isArchive then mode else (found.map Node.mode).getD keep
              match ← Act.change (FileTree.writeWith modeOf (← fullPath target) bytes) with
              | none => do
                  if o.has 'v' then put (quoted source ++ " -> " ++ quoted target ++ "\n")
                  return true
              | some e =>
                  let e := if target.endsWith "/" then OsError.notDirectory else e
                  fails ("cannot create regular file " ++ quoted target ++ ": " ++
                    Fault.reasonOf e)
          | .dir, there => do
              if !(o.has 'r' || o.has 'R' || o.has 'a') then
                return ← fails ("-r not specified; omitting directory " ++ quoted source)
              if let some (.file _ _) := there then
                return ← fails ("cannot overwrite non-directory " ++ quoted target ++
                  " with directory " ++ quoted source)
              if isSame then
                return ← fails (quoted source ++ " and " ++ quoted target ++ " are the same file")
              if let .ok other := locate files s target then
                if place.isPrefixOf other then
                  return ← fails ("cannot copy a directory, " ++ quoted source ++
                    ", into itself, " ++ quoted target)
              if there.isNone then
                if let some e ← Act.change (FileTree.makeDir (← fullPath target)) then
                  return ← fails ("cannot create directory " ++ quoted target ++ ": " ++
                    Fault.reasonOf e)
                if o.has 'v' then put (quoted source ++ " -> " ++ quoted target ++ "\n")
              let inside := (files.below place).filterMap fun e => match e.1 with
                | [name] => some (Octets.encode name)
                | _ => none
              (inside.mergeSort (· ≤ ·)).foldlM (fun isDone name => do
                return (← copyNode o (below source name) (below target name) fuel) && isDone) true

/-- Copy files. -/
def cp : Utility Nat := do
  let o ← options { letters := "abdfiHlLnpPrRsS:t:Tuvx\x01::\x02", names := movingNames }
  let (sources, target, intoDir) ← sourcesAndTarget o
  return statusOf (← forAll sources fun source =>
    copyNode o source (if intoDir then below target (finalName source) else target) 64)

/-- Move a file or a directory to a path. -/
def moveNode (o : Options) (source target : String) : Utility Bool := do
  let fails (text : String) : Utility Bool := do
    complain text
    return false
  let files ← Act.files
  let s ← get
  match ← lookup source, locate files s source with
  | .error e, _ | _, .error e =>
      fails ("cannot stat " ++ quoted source ++ ": " ++ Fault.reasonOf e)
  | .ok node, .ok place =>
      let there := (← lookup target).toOption
      let isDir : Bool := match node with
        | .dir => true
        | .file _ _ => false
      let moved (newPlace : List String) (tree : FileTree) : FileTree :=
        let entries := (tree.remove newPlace).entries.map fun e =>
          if place.isPrefixOf e.1 then (newPlace ++ e.1.drop place.length, e.2) else e
        { tree with entries := entries }
      match (if isDir then String.ofList ((target.toList.reverse.dropWhile (· = '/')).reverse)
          else target) |> fun path => files.fileTarget (Octets.decode (s.resolve path)) with
      | .error e =>
          let e := if target.endsWith "/" then OsError.notDirectory else e
          fails ("cannot move " ++ quoted source ++ " to " ++ quoted target ++ ": " ++
            Fault.reasonOf e)
      | .ok newPlace => do
          if isDir && place.isPrefixOf newPlace then
            return ← fails ("cannot move " ++ quoted source ++
              " to a subdirectory of itself, " ++ quoted target)
          if newPlace = place then
            return ← fails (quoted source ++ " and " ++ quoted target ++ " are the same file")
          match isDir, there with
          | true, some (.file _ _) =>
              return ← fails ("cannot overwrite non-directory " ++ quoted target ++
                " with directory " ++ quoted source)
          | false, some .dir =>
              return ← fails ("cannot overwrite directory " ++ quoted target ++
                " with non-directory")
          | true, some .dir =>
              if !(files.below newPlace).isEmpty then
                return ← fails ("cannot overwrite " ++ quoted target ++ ": Directory not empty")
          | _, _ => pure ()
          if o.last? ['f', 'i', 'n'] = some 'n' && there.isSome then
            return ← fails ("not replacing " ++ quoted target)
          if !(← mayReplace o target there.isSome) then return true
          changeTree (moved newPlace)
          if o.has 'v' then put ("renamed " ++ quoted source ++ " -> " ++ quoted target ++ "\n")
          return true

/-- Move files. -/
def mv : Utility Nat := do
  let o ← options { letters := "bfinS:t:TuvZ", names := movingNames }
  let (sources, target, intoDir) ← sourcesAndTarget o
  return statusOf (← forAll sources fun source =>
    let target := if intoDir then below target (finalName source) else target
    moveNode o source target)

/-- Copy files with permission bits of their own, or make directories. -/
def install : Utility Nat := do
  let o ← options
    { letters := "cdDm:o:g:pt:Tv"
      names := ("mode", 'm') :: ("directory", 'd') :: movingNames }
  let mode := ((o.value? 'm').bind fun m => FileMode.change? m 0 0 false).getD 0o755
  if o.has 'd' then
    return statusOf (← forAll o.operands fun path => do
      match ← Act.change (FileTree.createDirAll (← fullPath path)) with
      | none => return true
      | some e => do
          complain ("cannot create directory " ++ quoted path ++ ": " ++ Fault.reasonOf e)
          return false)
  let (sources, target, intoDir) ← sourcesAndTarget o
  return statusOf (← forAll sources fun source => do
    let target := if intoDir then below target (finalName source) else target
    if o.has 'D' then
      let _ ← Act.change (FileTree.createDirAll (← fullPath (Text.join "/"
        ((Text.split '/' target).dropLast))))
    match ← lookup source with
    | .error e => do
        complain ("cannot stat " ++ quoted source ++ ": " ++ Fault.reasonOf e)
        return false
    | .ok .dir => do
        complain ("omitting directory " ++ quoted source)
        return false
    | .ok (.file bytes _) =>
        match ← Act.change (FileTree.writeWith (fun _ => mode) (← fullPath target) bytes) with
        | none => return true
        | some e => do
            complain ("cannot create regular file " ++ quoted target ++ ": " ++ Fault.reasonOf e)
            return false)

end ScaffoldRunner.Utility
