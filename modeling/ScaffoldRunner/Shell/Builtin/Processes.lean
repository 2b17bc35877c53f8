import ScaffoldRunner.Shell.Builtin
import ScaffoldRunner.Workspace.FileMode

/-!
# Builtin commands on processes

Jobs, signals, the directory and the other things that a process has.
-/

namespace ScaffoldRunner.Shell

namespace Builtin

/-- The name of a signal. The ones for free use are counted from both ends. -/
def signalName (number : Nat) : String :=
  let first := 34
  if number = 0 then "EXIT"
  else if number = 16 || number = 32 || number = 33 then toString number
  else if number = first then "RTMIN"
  else if number = Signal.largest then "RTMAX"
  else if first < number && number < 50 then "RTMIN+" ++ toString (number - first)
  else if 50 ≤ number then "RTMAX-" ++ toString (Signal.largest - number)
  else (Signal.name? number).getD (toString number)

/-- The signal that a text names or numbers, from some number on. -/
def signal? (least : Nat) (text : String) : Option Nat :=
  match Sh.number? text with
  | some n => if n ≤ Signal.largest then some n else none
  | none =>
      let name := text.map Char.toUpper
      ((List.range (Signal.largest + 1)).drop least).find? fun n => signalName n = name

def setTrap (signal : Nat) (action : Option String) : Sh Unit := do
  modify fun s =>
    let others := s.traps.filter fun e => e.1 ≠ signal
    { s with traps := match action with
        | some action => (signal, action) :: others
        | none => others }
  let isDeaf := (← get).deafTo.contains signal
  if signal ≠ 0 && !isDeaf then
    let response : SignalAction := match action with
      | none => .usual
      | some "" => .ignore
      | some _ => .notice
    Act.ask (.onSignal signal response)

/-- Set what is run on signals, or tell it. -/
def trap : Builtin where
  name := "trap"
  run _ _ args := do
    let (_, operands) ← options "" args
    match operands with
    | [] => do
        for (signal, action) in (← get).traps.mergeSort fun a b => a.1 ≤ b.1 do
          Sh.say ("trap -- " ++ singleQuoted action ++ " " ++ signalName signal ++ "\n")
        return 0
    | first :: rest =>
        let isNumber := ((Sh.number? first).any (· ≤ Signal.largest))
        let (action, names) : Option String × List String :=
          if rest.isEmpty || isNumber then (none, operands)
          else (if first = "-" then none else some first, rest)
        setAll action names
where
  setAll (action : Option String) : List String → Sh Nat
    | [] => return 0
    | name :: names => do
        match signal? 0 name with
        | none => do
            Sh.putError ("trap: " ++ name ++ ": bad trap\n")
            return 1
        | some signal => do
            setTrap signal action
            setAll action names

def job (text : String) : Sh Job := do
  let jobs := (← get).jobs
  let noSuch : Sh Job := Sh.fail ("No such job: " ++ text)
  let given (found : Option Job) (otherwise : Sh Job) : Sh Job :=
    match found with
    | some job => pure job
    | none => otherwise
  match text.toList with
  | '%' :: cs =>
      if cs.isEmpty || cs = ['%'] || cs = ['+'] then given jobs.head? (Sh.fail "No current job")
      else if cs = ['-'] then given (jobs.drop 1).head? (Sh.fail "No previous job")
      else
        match Sh.number? (String.ofList cs) with
        | some n => given (jobs.find? fun job => job.number = n) noSuch
        | none => noSuch
  | _ => noSuch

/-- What is said about how a process has ended. -/
def endingText : Ending → String
  | .exited 0 => "Done"
  | .exited status => "Done(" ++ toString status ++ ")"
  | .killed signal => Signal.description signal

/-- Tell about a job: its number, whether it is the present one, and how it goes. -/
def showJob (jobs : List Job) (letters : List Char) (job : Job) : Sh Unit := do
  let first := ((job.processes.head?).map (·.1)).getD 0
  if letters.contains 'p' then Sh.say (toString first ++ "\n")
  else
    let sign : Char := if jobs.head?.any fun j => j.number = job.number then '+'
      else if (jobs.drop 1).head?.any fun j => j.number = job.number then '-'
      else ' '
    let front := "[" ++ toString job.number ++ "] " ++ String.singleton sign ++ " "
    let front := if letters.contains 'l' then front ++ toString first ++ " " else front
    let text := front ++ (match job.ending? with
      | none => "Running"
      | some ending => endingText ending)
    let text := text.pushn ' ' (max 1 (33 - text.length))
    let others := job.processes.drop 1
    if letters.contains 'l' then
      Sh.say text
      for (process, _) in others do
        let line := " |\n".pushn ' ' (front.length - (toString first).length - 1) ++
          toString process ++ " "
        Sh.say (line.pushn ' ' (33 - (line.length - 3)))
      Sh.say "\n"
    else Sh.say (text ++ String.join (others.map fun _ => " | ") ++ "\n")
  if job.ending?.isSome then
    modify fun s => { s with jobs := s.jobs.filter fun j => j.number ≠ job.number }

/-- Tell about jobs. -/
def jobs : Builtin where
  name := "jobs"
  run _ _ args := do
    let (given, operands) ← options "lp" args
    let letters := given.map (·.1)
    Jobs.reap Sh.rounds
    if operands.isEmpty then
      let all := (← get).jobs
      for job in all do showJob all letters job
    else
      for text in operands do
        let found ← job text
        showJob (← get).jobs letters found
    return 0

/-- Whether a job is still the one with its number. -/
def current (number : Nat) : Sh (Option Job) :=
  return (← get).jobs.find? fun job => job.number = number

/-- Wait for a job, or for all; `false` if a signal has come in. -/
def waitFor (which : Option Nat) : Nat → Sh Bool
  | 0 => return true
  | fuel + 1 => do
      let isOver : Bool ← match which with
        | some number => do
            let found ← current number
            pure (found.all fun job => job.ending?.isSome)
        | none => pure ((← get).jobs.all fun job => job.ending?.isSome)
      if isOver then return true
      match ← Act.await none .untilSignal with
      | .ended process ending => do
          if let some number := which then
            if let some found ← current number then
              if found.processes.any fun e => e.1 = process then Jobs.announce ending
          Jobs.note process ending
          waitFor which fuel
      | .interrupted => return false
      | _ => return true

/-- The status that tells which signal has come in. -/
def interruptedStatus : Sh Nat := do
  let fresh ← Act.ask .pause
  modify fun s => { s with signals := s.signals ++ fresh.filter fun n => !s.signals.contains n }
  return 128 + (((← get).signals.head?).getD 0)

def wait : Builtin where
  name := "wait"
  run _ _ args := do
    let (_, operands) ← options "" args
    if operands.isEmpty then
      if ← waitFor none Sh.rounds then
        modify fun s => { s with jobs := s.jobs.map fun job => { job with awaited := true } }
        return 0
      else interruptedStatus
    else go operands 127
where
  go : List String → Nat → Sh Nat
    | [], status => return status
    | text :: texts, _ => do
        let found : Option Job ← if text.toList.head? = some '%' then some <$> job text
          else do
            let process ← Sh.number text
            pure ((← get).jobs.find? fun job =>
              (job.processes.getLast?).any fun e => e.1 = process)
        match found with
        | none => go texts 127
        | some found => do
            if ← waitFor (some found.number) Sh.rounds then
              modify fun s => { s with jobs := s.jobs.map fun job =>
                if job.number = found.number then { job with awaited := true } else job }
              let ended ← current found.number
              go texts (((ended.bind Job.ending?).map Ending.status).getD 127)
            else interruptedStatus

/-- The signal of a command to send one, whether the signals are only to be told, and what is
left. -/
def killArguments (args : List String) : Sh (Option Nat × Bool × List String) := do
  match args with
  | [] => return (none, false, [])
  | arg :: rest =>
      match arg.toList with
      | '-' :: name =>
          match signal? 1 (String.ofList name) with
          | some signal => return (some signal, false, rest)
          | none => do
              let (given, operands) ← options "ls:" args
              let mut signal : Option Nat := none
              for (letter, value) in given do
                if letter = 's' then
                  match signal? 1 value with
                  | some n => signal := some n
                  | none => Sh.fail ("invalid signal number or name: " ++ value)
              return (signal, given.any fun e => e.1 = 'l', operands)
      | _ => return (none, false, args)

/-- Send a signal to processes, or tell the names of the signals. -/
def kill : Builtin where
  name := "kill"
  run _ _ args := do
    let usage : Sh Nat := Sh.fail
      ("Usage: kill [-s sigspec | -signum | -sigspec] [pid | job]... or\nkill -l [exitstatus]")
    let (signal, tells, operands) ← killArguments args
    if tells then
      match operands with
      | [] => do
          Sh.say "0\n"
          for number in List.range 64 do Sh.say (signalName (number + 1) ++ "\n")
          return 0
      | text :: _ => do
          let n ← Sh.number text
          let n := if 128 < n then n - 128 else n
          if 0 < n && n ≤ 64 then
            Sh.say (signalName n ++ "\n")
            return 0
          else Sh.fail ("invalid signal number or exit status: " ++ text)
    else if operands.isEmpty then usage
    else sendAll (signal.getD Signal.term) operands 0
where
  sendAll (signal : Nat) : List String → Nat → Sh Nat
    | [], status => return status
    | text :: texts, status => do
        let isJob := text.toList.head? = some '%'
        let process ← match text.toList with
          | '%' :: _ => do
              let found ← job text
              pure (((found.processes.head?).map (·.1)).getD 0)
          | '-' :: number => Sh.number (String.ofList number)
          | _ => Sh.number text
        let target ← if process = 0 then do
            let (self, _) ← Act.ask .self
            pure self
          else pure process
        /- Without control of jobs there is no job that a signal could be sent to. -/
        let mayReach := !isJob || (← get).has 'm'
        let isThere ← if mayReach then Act.send signal target else pure false
        if isThere then sendAll signal texts status
        else do
          Sh.complain "No such process\n"
          sendAll signal texts 1

/-- Bring a job to the front, or let it go on; without control of jobs there is none. -/
def resume (name : String) : Builtin where
  name := name
  run _ _ args := do
    let (_, operands) ← options "" args
    let text := operands.headD "%"
    let _ ← job text
    let shown := operands.headD "(null)"
    Sh.fail ("job " ++ shown ++ " not created under job control")

/-- The path that another leads to from a directory, with points taken as they are written. Two
slashes in front are kept, as they may mean something else than one. -/
def plainPath (dir path : String) : String :=
  let whole := Path.join dir path
  let names := (Path.names whole).foldl (fun names name =>
    if name = ".." then names.dropLast else names ++ [name]) []
  let root := if (whole.toList.takeWhile (· = '/')).length = 2 then "//" else "/"
  root ++ Text.join "/" names

/-- Change the directory; the answer tells whether that could be done. -/
def enter (path : String) : Sh Bool := do
  let s ← get
  let files ← Act.files
  let target := plainPath s.dir path
  if files.isDir (Octets.decode target) then
    Sh.assign "OLDPWD" s.dir true
    modify fun s => { s with dir := target }
    Sh.assign "PWD" target true
    return true
  else return false

/-- Change the directory. -/
def cd (name : String) : Builtin where
  name := name
  run _ _ args := do
    let (_, operands) ← options "LP" args
    let s ← get
    let (dest, shows) : String × Bool := match operands with
      | [] => ((s.var? "HOME").getD "", false)
      | "-" :: _ => ((s.var? "OLDPWD").getD "", true)
      | path :: _ => (path, false)
    let direct : Bool := match dest.toList with
      | '/' :: _ | ['.'] | '.' :: '/' :: _ | ['.', '.'] | '.' :: '.' :: '/' :: _ => true
      | _ => false
    let dest := if dest = "" then "." else dest
    let files ← Act.files
    let fromList : Option (String × Bool) :=
      if direct then none
      else
        ((Text.split ':' ((s.var? "CDPATH").getD "")).map fun dir =>
          (Setting.within dir dest, !dir.isEmpty)).find? fun (path, _) =>
            files.isDir (Octets.decode (s.resolve path))
    let (path, named) := fromList.getD (dest, false)
    if ← enter path then
      if shows || named then Sh.say ((← get).dir ++ "\n")
      return 0
    else Sh.fail ("can't cd to " ++ dest)

/-- Write the directory. -/
def pwd : Builtin where
  name := "pwd"
  run _ _ args := do
    let _ ← options "LP" args
    Sh.say ((← get).dir ++ "\n")
    return 0

/-- The letters of the permissions that three bits give. -/
def permissionLetters (bits : Nat) : String :=
  (if bits &&& 4 ≠ 0 then "r" else "") ++ (if bits &&& 2 ≠ 0 then "w" else "") ++
    (if bits &&& 1 ≠ 0 then "x" else "")

/-- Octal digits, at least four. -/
def octal (n : Nat) : String :=
  let digits := Nat.toDigits 8 n
  String.ofList (List.replicate (4 - digits.length) '0' ++ digits)

/-- Set which permissions new files do not get, or tell it. -/
def umask : Builtin where
  name := "umask"
  run _ _ args := do
    let (given, operands) ← options "S" args
    let mask := (← get).mask
    match operands with
    | [] => do
        let granted := 0o777 - mask
        Sh.say (if given.isEmpty then octal mask ++ "\n"
          else "u=" ++ permissionLetters (granted / 64) ++ ",g=" ++
            permissionLetters (granted / 8 % 8) ++ ",o=" ++ permissionLetters (granted % 8) ++ "\n")
        return 0
    | text :: _ => do
        let mask ← if text.toList.head?.any Char.isDigit then
            if text.toList.all fun c => '0' ≤ c && c ≤ '7' then
              pure (text.toList.foldl (fun n c => n * 8 + (c.toNat - 48)) 0 % 512)
            else Sh.fail ("Illegal number: " ++ text)
          else
            match FileMode.change? text (0o777 - mask) 0 false with
            | some granted => pure (0o777 - granted % 512)
            | none => Sh.fail ("Illegal mode: " ++ text)
        modify fun s => { s with mask := mask }
        return 0

/-- Tell the limits of a process; there are few. -/
def ulimit : Builtin where
  name := "ulimit"
  run _ _ args := do
    let (given, operands) ← options "HSatfdscmlpnvwr" args
    if operands.isEmpty then
      let letters := (given.map (·.1)).filter fun c => c ≠ 'H' && c ≠ 'S'
      let value := match letters.getLast? with
        | some 'c' => "0"
        | some 'n' => "20000"
        | some 's' => "8192"
        | some 'l' => "8192"
        | some 'r' => "0"
        | _ => "unlimited"
      Sh.say (value ++ "\n")
    return 0

/-- Tell the time that was used. -/
def times : Builtin where
  name := "times"
  run _ _ _ := do
    Sh.say "0m0.000000s 0m0.000000s\n0m0.000000s 0m0.000000s\n"
    return 0

end Builtin

end ScaffoldRunner.Shell
