import ScaffoldRunner.Data.Power
import ScaffoldRunner.System.Signal
import ScaffoldRunner.Utility.Basic
import ScaffoldRunner.Utility.Real

/-!
# Utilities that run programs

They start a program in surroundings of their own, put its arguments together, or end it when it
takes too long.
-/

namespace ScaffoldRunner.Utility

variable (load : Loader)

/-- Become the program of some arguments, or say what is wrong; the status tells whether the
program is missing. -/
def launch (argv : List String) (complaint : String → String → String) : Utility Nat := do
  let name := argv.headD ""
  modify fun s => { s with args := argv.drop 1 }
  let s ← get
  match { s with name := name }.program load (← Act.files) true with
  | .ok program => Act.become fun _ => program
  | .error e => do
      complain (complaint (quoted name) (Fault.reasonOf e))
      return if e = .notFound || e = .notDirectory then 127 else 126

/-- What most utilities say about a program that cannot be run. -/
def plainComplaint (name reason : String) : String := name ++ ": " ++ reason

/-- What utilities say that are there to run a command. -/
def failedToRun (name reason : String) : String :=
  "failed to run command " ++ name ++ ": " ++ reason

/-! ## Surroundings -/

def assignment? (arg : String) : Option (String × String) :=
  let name := arg.toList.takeWhile (· ≠ '=')
  match arg.toList.drop name.length with
  | _ :: value => if name.isEmpty then none else some (String.ofList name, String.ofList value)
  | [] => none

/-- Give a variable of an environment a value. -/
def setVariable (environment : List (String × String)) (e : String × String) :
    List (String × String) :=
  if environment.any fun other => other.1 = e.1 then
    environment.map fun other => if other.1 = e.1 then e else other
  else environment ++ [e]

/-- Write the variables of the environment, or run a program in another one. -/
def env : Utility Nat := do
  let args := (← get).args
  let args := args.flatMap fun arg => if arg = "-" then ["-i"] else [arg]
  /- One argument may hold several that are parted by blanks. -/
  let args := match args with
    | "-S" :: text :: rest => (Text.split ' ' text).filter (· ≠ "") ++ rest
    | args => args
  modify fun s => { s with args := args }
  let o ← options
    { letters := "i0u:C:v"
      names := [("ignore-environment", 'i'), ("null", '0'), ("unset", 'u'), ("chdir", 'C')]
      inFront := true } 125
  if o.has 'i' then modify fun s => { s with environment := [] }
  for (letter, name) in o.given do
    if letter = 'u' then
      modify fun s => { s with environment := s.environment.filter fun e => e.1 ≠ name }
  if let some dir := o.value? 'C' then
    match ← lookup dir with
    | .ok .dir => modify fun s => { s with dir := s.resolve dir }
    | .ok (.file _ _) => do
        complain ("cannot change directory to " ++ quoted dir ++ ": Not a directory")
        leave 125
    | .error e => do
        complain ("cannot change directory to " ++ quoted dir ++ ": " ++ Fault.reasonOf e)
        leave 125
  let assignments := o.operands.takeWhile fun arg => (assignment? arg).isSome
  modify fun s => { s with
    environment := (assignments.filterMap assignment?).foldl setVariable s.environment }
  match o.operands.drop assignments.length with
  | [] => do
      let ending := if o.has '0' then "\x00" else "\n"
      put (String.join ((← get).environment.map fun e => e.1 ++ "=" ++ e.2 ++ ending))
      return 0
  | argv => launch load argv plainComplaint

/-- Write the values of variables of the environment. -/
def printenv : Utility Nat := do
  let o ← options { letters := "0", names := [("null", '0')], inFront := true } 2
  let ending := if o.has '0' then "\x00" else "\n"
  let s ← get
  if o.operands.isEmpty then
    put (String.join (s.environment.map fun e => e.1 ++ "=" ++ e.2 ++ ending))
    return 0
  let values := o.operands.map s.value?
  put (String.join (values.filterMap fun v => v.map (· ++ ending)))
  return statusOf (values.all Option.isSome)

/-- Run a program with another priority, or write the priority. -/
def nice : Utility Nat := do
  let o ← options { letters := "n:", names := [("adjustment", 'n')], inFront := true } 125
  match o.operands with
  | [] => do
      put "0\n"
      return 0
  | argv => launch load argv plainComplaint

/-- Run a program that does not end when its terminal is closed. -/
def nohup : Utility Nat := do
  let o ← options { letters := "", inFront := true } 125
  match o.operands with
  | [] => misuse "missing operand" 125
  | argv => do
      Act.ask (.onSignal 1 .ignore)
      launch load argv failedToRun

def runPlainly (letters : String) : Utility Nat := do
  let o ← options { letters := letters, inFront := true } 125
  match o.operands with
  | [] => misuse "missing operand" 125
  | argv => launch load argv failedToRun

/-- Write where programs are on the search path. -/
def which : Utility Nat := do
  let o ← options { letters := "as" } 2
  let s ← get
  let files ← Act.files
  let found := o.operands.map fun name =>
    (Setting.candidates ((s.value? "PATH").getD "") name).filter fun path =>
      match files.lookup (Octets.decode (s.resolve path)) with
      | .ok (.file _ mode) => Node.mayRun mode
      | _ => false
  if !o.has 's' then
    put (String.join (found.flatMap fun paths =>
      (if o.has 'a' then paths else paths.take 1).map (· ++ "\n")))
  return statusOf (!found.isEmpty && found.all (!·.isEmpty))

/-! ## Time -/

/-- The microseconds of a time in seconds, or in other units by the letter at its end. -/
def microsOf? (text : String) : Option Nat :=
  match Real.read? text.toList with
  | none => none
  | some r =>
      let factor : Option Float := match r.rest with
        | [] | ['s'] => some 1.0
        | ['m'] => some 60.0
        | ['h'] => some 3600.0
        | ['d'] => some 86400.0
        | _ => none
      factor.bind fun factor =>
        if r.value.isNaN || r.value < 0.0 then none
        else
          let micros := r.value * factor * 1000000.0
          some (if micros < 1e15 then micros.toUInt64.toNat else tenTo 15)

def sleep : Utility Nat := do
  let o ← options { letters := "" }
  if o.operands.isEmpty then misuse "missing operand"
  let times := o.operands.map fun text => (text, microsOf? text)
  for (text, micros) in times do
    if micros.isNone then complain ("invalid time interval " ++ quoted text)
  if times.any fun e => e.2.isNone then
    adviseHelp
    return 1
  Act.ask (.sleep (total (times.filterMap (·.2))))
  return 0

def signal? (text : String) : Option Nat :=
  let upper := text.toUpper
  let name := if upper.startsWith "SIG" then (upper.drop 3).toString else upper
  match text.toNat? with
  | some n => if n ≤ Signal.largest then some n else none
  | none => if name = "EXIT" then some 0 else Signal.number? name

/-- Run a program, and end it when it takes too long. -/
def timeout : Utility Nat := do
  let o ← options
    { letters := "k:s:vfp"
      names := [("kill-after", 'k'), ("signal", 's'), ("verbose", 'v'), ("foreground", 'f'),
        ("preserve-status", 'p')]
      inFront := true } 125
  let time (text : String) : Utility Nat := do
    match microsOf? text with
    | some micros => return micros
    | none => misuse ("invalid time interval " ++ quoted text) 125
  let signal ← match o.value? 's' with
    | none => pure Signal.term
    | some text =>
        match signal? text with
        | some n => pure n
        | none => misuse (quoted text ++ ": invalid signal") 125
  let grace ← match o.value? 'k' with
    | some text => some <$> time text
    | none => pure none
  match o.operands with
  | duration :: first :: rest => do
      let micros ← time duration
      let child ← Act.fork fun s => program (launch load (first :: rest) failedToRun) s
      let wait (micros : Nat) : Utility (Option Ending) := do
        let patience : Patience := if micros = 0 then .full else .atMost micros
        match ← Act.await (some child) patience with
        | .ended _ ending => return some ending
        | _ => return none
      let strike (signal : Nat) : Utility Unit := do
        if o.has 'v' then
          complain ("sending signal " ++ (Signal.name? signal).getD (toString signal) ++
            " to command " ++ quoted first)
        if o.has 'f' then
          let _ ← Act.send signal child
        else Act.ask (.sendToFamily signal child)
      match ← wait micros with
      | some ending => return ending.status
      | none => do
          strike signal
          let first ← match grace with
            | some micros => wait micros
            | none => wait 0
          match first with
          | some ending =>
              if o.has 'p' then return ending.status
              else if signal = Signal.kill then Act.die Signal.kill
              else return 124
          | none => do
              strike Signal.kill
              let _ ← wait 0
              Act.die Signal.kill
  | _ => do
      adviseHelp
      return 125

/-! ## Arguments from the input -/

namespace Xargs

/-- How the input is cut into arguments. -/
inductive Cutting where
  /-- At blanks and line ends, with quotes and backslashes. -/
  | blanks
  /-- At line ends, with quotes and backslashes. -/
  | lines
  /-- At some character. -/
  | character (c : Char)

/-- Arguments, each with the number of the line that it stands on. -/
abbrev Items := List (String × Nat)

/-- Read quoted arguments. -/
def quotedItems (linesOnly : Bool) : Nat → List Char → Option (List Char) → Nat → Items →
    Except String Items
  | 0, _, _, _, found => .ok found.reverse
  | fuel + 1, cs, current, line, found =>
      let done : Items := match current with
        | some word => (String.ofList word.reverse, line) :: found
        | none => found
      let inside (sign : Char) (kind : String) (rest : List Char) : Except String Items :=
        let text := rest.takeWhile fun c => c ≠ sign && c ≠ '\n'
        match rest.drop text.length with
        | c :: rest =>
            if c = sign then
              quotedItems linesOnly fuel rest (some (text.reverseAux (current.getD []))) line found
            else .error kind
        | [] => .error kind
      match cs with
      | [] => .ok done.reverse
      | '\n' :: rest =>
          /- A blank at the end of a line joins it with the next one. -/
          quotedItems linesOnly fuel rest none (line + 1) done
      | '\\' :: c :: rest =>
          quotedItems linesOnly fuel rest (some (c :: current.getD [])) line found
      | '\'' :: rest => inside '\'' "single" rest
      | '"' :: rest => inside '"' "double" rest
      | c :: rest =>
          if (c = ' ' || c = '\t') && (!linesOnly || current.isNone) then
            quotedItems linesOnly fuel rest none line done
          else quotedItems linesOnly fuel rest (some (c :: current.getD [])) line found

def items (cutting : Cutting) (text : String) : Except String Items :=
  let cs := text.toList
  match cutting with
  | .blanks => quotedItems false (cs.length + 1) cs none 0 []
  | .lines => quotedItems true (cs.length + 1) cs none 0 []
  | .character c =>
      let (pieces, rest) := cutAt c cs
      let all := pieces ++ (if rest.isEmpty then [] else [rest])
      .ok (((all.map String.ofList).zip (List.range all.length)))

/-- The first arguments that go together: at most so many, from at most so many lines, and of a
size that is not too large. -/
def batch (most lines : Option Nat) (room : Nat) (found : Items) : Items :=
  let rec go : Items → List Nat → Nat → Nat → List (String × Nat) → Items
    | [], _, _, _, taken => taken.reverse
    | (text, line) :: rest, seen, count, size, taken =>
        let seen := if seen.contains line then seen else line :: seen
        let size := size + text.length + 1
        let isOver := most.any (· ≤ count) || lines.any (· < seen.length) || room < size
        if isOver && count ≠ 0 then taken.reverse
        else go rest seen (count + 1) size ((text, line) :: taken)
  go found [] 0 0 []

/-- Batches of arguments that go together. -/
def batches (most lines : Option Nat) (room : Nat) : Nat → Items → List (List String)
  | 0, _ => []
  | _, [] => []
  | fuel + 1, found =>
      let first := batch most lines room found
      first.map (·.1) :: batches most lines room fuel (found.drop first.length)

/-- A text with each occurrence of a mark replaced. -/
def replaceAll (mark value : List Char) : Nat → List Char → List Char
  | 0, cs => cs
  | _, [] => []
  | fuel + 1, c :: cs =>
      if !mark.isEmpty && mark.isPrefixOf (c :: cs) then
        value ++ replaceAll mark value fuel ((c :: cs).drop mark.length)
      else c :: replaceAll mark value fuel cs

end Xargs

/-- Run a program to its end, with nothing to read. -/
def runChild (argv : List String) (failure : String → String → String) : Utility Ending := do
  let child ← Act.fork fun s => program (do
    if let .ok descriptor ← Act.openFile "/dev/null" .reading then
      let _ ← Act.copy descriptor 0
      Act.close descriptor
    launch load argv failure) s
  match ← Act.await (some child) .full with
  | .ended _ ending => return ending
  | _ => return .exited 0

open Xargs in
/-- Run a program with the arguments that the input holds. -/
def xargs : Utility Nat := do
  let o ← options
    { letters := "0a:d:E:eI:i::L:n:P:prs:txl::"
      names := [("null", '0'), ("arg-file", 'a'), ("delimiter", 'd'), ("eof", 'E'),
        ("replace", 'i'), ("max-lines", 'l'), ("max-args", 'n'), ("max-procs", 'P'),
        ("interactive", 'p'), ("no-run-if-empty", 'r'), ("max-chars", 's'), ("verbose", 't'),
        ("exit", 'x')]
      inFront := true }
  let count (letter : Char) : Utility (Option Nat) := do
    match o.value? letter with
    | none => return none
    | some text =>
        match text.toNat? with
        | some 0 => misuse ("value 0 for -" ++ String.singleton letter ++ " option should be >= 1")
        | some n => return some n
        | none => misuse ("invalid number " ++ quoted text ++ " for -" ++
            String.singleton letter ++ " option")
  let most ← count 'n'
  let lines ← count 'L'
  let mark : Option String := match o.last? ['I', 'i', 'n', 'L'] with
    | some 'I' => o.value? 'I'
    | some 'i' => some (let mark := (o.value? 'i').getD ""; if mark = "" then "\x7b\x7d" else mark)
    | some 'n' => if most = some 1 then (o.value? 'I') else none
    | _ => none
  let delimiter := (o.value? 'd').map fun text => match text.toList with
    | ['\\', 'n'] => '\n'
    | ['\\', 't'] => '\t'
    | ['\\', '0'] => '\x00'
    | c :: _ => c
    | [] => '\n'
  let cutting : Cutting := match delimiter, o.has '0', mark with
    | some c, _, _ => .character c
    | none, true, _ => .character '\x00'
    | none, false, some _ => .lines
    | none, false, none => .blanks
  let text ← match ← contents ((o.value? 'a').getD "-") with
    | .ok text => pure text
    | .error e => do
        complain ("Cannot open input file " ++ quoted ((o.value? 'a').getD "") ++ ": " ++ e.reason)
        leave 1
  let found ← match items cutting text with
    | .ok found => pure found
    | .error kind => do
        complain ("unmatched " ++ kind ++ " quote; by default quotes are special to xargs " ++
          "unless you use the -0 option")
        leave 1
  let found := match o.value? 'E' with
    | some stop => found.takeWhile fun e => e.1 ≠ stop
    | none => found
  let command := if o.operands.isEmpty then ["echo"] else o.operands
  let size := total (command.map fun arg => arg.length + 1)
  let room := ((o.value? 's').bind String.toNat?).getD 131072 - size
  let calls : List (List String) := match mark with
    | some mark => found.map fun (text, _) => command.map fun arg =>
        String.ofList (replaceAll mark.toList text.toList (arg.length + 1) arg.toList)
    | none =>
        let groups := batches most lines room (found.length + 1) found
        let groups := if groups.isEmpty && !o.has 'r' then [[]] else groups
        groups.map (command ++ ·)
  let failure (name reason : String) : String :=
    String.ofList ((name.toList.drop 1).dropLast) ++ ": " ++ reason
  let status ← calls.foldlM (fun status argv => do
    if o.has 't' then Act.put 2 (Text.join " " argv ++ "\n")
    let name := argv.headD ""
    match ← runChild load argv failure with
    | .exited 0 => return status
    | .exited 126 => leave 126
    | .exited 127 => leave 127
    | .exited 255 => do
        complain (name ++ ": exited with status 255; aborting")
        leave 124
    | .exited _ => return 123
    | .killed signal => do
        complain (name ++ ": terminated by signal " ++ toString signal)
        leave 125) 0
  return status

/-- Send signals to processes. -/
def kill : Utility Nat := do
  let args := (← get).args
  let (signal, targets) : Option Nat × List String := match args with
    | "-s" :: name :: rest => (signal? name, rest)
    | "--" :: rest => (some Signal.term, rest)
    | first :: rest =>
        match first.toList with
        | '-' :: name => (signal? (String.ofList name), rest)
        | _ => (some Signal.term, args)
    | [] => (some Signal.term, [])
  match signal with
  | none => do
      complain "unknown signal"
      return 1
  | some signal =>
      return statusOf (← forAll targets fun target => do
        match target.toNat? with
        | none => do
            complain ("failed to parse argument: " ++ quoted target)
            return false
        | some process => do
            if ← Act.send signal process then return true
            complain ("(" ++ target ++ "): No such process")
            return false)

/-! ## Surroundings that are always the same -/

/-- Write a text that does not depend on anything. -/
def tell (text : String) : Utility Nat := do
  put (text ++ "\n")
  return 0

/-- Tell who the user is. -/
def identity : Utility Nat := do
  let o ← options
    { letters := "agGnruz"
      names := [("user", 'u'), ("group", 'g'), ("groups", 'G'), ("name", 'n'), ("real", 'r')] }
  if o.has 'u' || o.has 'g' || o.has 'G' then tell (if o.has 'n' then "root" else "0")
  else tell "uid=0(root) gid=0(root) groups=0(root)"

/-- Tell what the system is. -/
def uname : Utility Nat := do
  let o ← options
    { letters := "asnrvmpio"
      names := [("all", 'a'), ("kernel-name", 's'), ("nodename", 'n'), ("kernel-release", 'r'),
        ("kernel-version", 'v'), ("machine", 'm'), ("operating-system", 'o')] }
  let isAll := o.has 'a'
  let parts := (if isAll || o.has 's' || o.given.isEmpty then ["Linux"] else []) ++
    (if isAll || o.has 'n' then ["localhost"] else []) ++
    (if isAll || o.has 'r' then ["6.1.0"] else []) ++
    (if isAll || o.has 'v' then ["#1 SMP"] else []) ++
    (if isAll || o.has 'm' then ["x86_64"] else []) ++
    (if isAll || o.has 'o' then ["GNU/Linux"] else [])
  tell (Text.join " " parts)

/-- Tell the directory. -/
def pwd : Utility Nat := do
  let _ ← options { letters := "LP", names := [("logical", 'L'), ("physical", 'P')] }
  tell (← get).dir

/-- Tell that there is no terminal. -/
def tty : Utility Nat := do
  let o ← options { letters := "s" } 2
  if !o.has 's' then put "not a tty\n"
  return 1

end ScaffoldRunner.Utility
