import ScaffoldRunner.Shell.Simple

/-!
# Running commands

Commands are run one after the other, by what they are put together from. Commands whose failure
nobody looks at end the shell if it was asked to end then. A shell takes its commands from a text,
from a file or from its input.
-/

namespace ScaffoldRunner.Shell

namespace Evaluation

/-- What is being skipped, as far as it concerns the loop being run. -/
inductive Passing where
  | nothing
  | nextRound
  | leave (function : Bool)
  deriving DecidableEq

/-- What is being skipped at the end of a part of a loop. -/
def passing : Sh Passing := modifyGet fun s =>
  match s.skip with
  | none => (.nothing, s)
  | some (.leaveFunction _) => (.leave true, s)
  | some (.leaveLoops count) =>
      if count ≤ 1 then (.leave false, { s with skip := none })
      else (.leave false, { s with skip := some (.leaveLoops (count - 1)) })
  | some (.nextRound count) =>
      if count ≤ 1 then (.nextRound, { s with skip := none })
      else (.leave false, { s with skip := some (.nextRound (count - 1)) })

def statusOf (ev : Evaluator) (care : Care) (command : Command) : Sh Nat := do
  ev.run care command
  return (← get).status

/-- Run a loop with a condition; the answer is the status of its last round. -/
def loop (ev : Evaluator) (care : Care) (untilTrue : Bool) (condition body : Command) :
    Nat → Nat → Sh Nat
  | 0, status => return status
  | fuel + 1, status => do
      let answer ← statusOf ev { tested := true } condition
      match ← passing with
      | .leave function => return if function then answer else status
      | .nextRound => loop ev care untilTrue condition body fuel status
      | .nothing =>
          if (answer = 0) = untilTrue then return status
          else
            let status ← statusOf ev care body
            match ← passing with
            | .leave _ => return status
            | _ => loop ev care untilTrue condition body fuel status

/-- Run a loop over values; the answer is the status of its last round. -/
def each (ev : Evaluator) (care : Care) (name : String) (body : Command) :
    List String → Nat → Sh Nat
  | [], status => return status
  | value :: values, _ => do
      Sh.assign name value
      let status ← statusOf ev care body
      match ← passing with
      | .leave _ => return status
      | _ => each ev care name body values status

/-- Run something as a loop, which can be left. -/
def asLoop (act : Sh Nat) : Sh Nat := do
  modify fun s => { s with loops := s.loops + 1 }
  let status ← act
  modify fun s => { s with loops := s.loops - 1 }
  return status

/-- Whether one of some patterns stands for a text. -/
def anyMatches (ev : Evaluator) (text : String) : List Word → Sh Bool
  | [] => return false
  | pattern :: patterns => do
      let items := Wildcard.ofField (Piece.field (← ev.expand { tilde := .start } pattern))
      if Wildcard.admitsAll items text.toList then return true else anyMatches ev text patterns

/-- Run the first arm with a pattern that stands for a text. -/
def select (ev : Evaluator) (care : Care) (text : String) :
    List (List Word × Option Command) → Sh Nat
  | [] => return 0
  | (patterns, body) :: arms => do
      if ← anyMatches ev text patterns then
        match body with
        | some body => if (← get).skip.isSome then return 0 else statusOf ev care body
        | none => return 0
      else select ev care text arms

/-- Run commands in a copy of the shell; the answer is their status. A process that has nothing
else to do is that copy itself. -/
def subshell (ev : Evaluator) (care : Care) (body : Command) (redirects : List Redirect) :
    Sh Nat := do
  let targets ← Redirection.expandAll ev redirects
  let inside : Sh Unit := do
    Redirection.applyAll ev targets
    ev.run { care with isLast := true } body
    throw .ended
  if care.isLast && (← get).activeTraps.isEmpty then
    inside
    return 0
  else
    let _ ← Jobs.reserve
    Jobs.awaitStatus [← Jobs.spawn ev .front inside]

def background (ev : Evaluator) (body : Command) (redirects : List Redirect) : Sh Unit := do
  let targets ← Redirection.expandAll ev redirects
  let number ← Jobs.reserve
  let process ← Jobs.spawn ev (.back true) do
    Redirection.applyAll ev targets
    ev.run { isLast := true } body
    throw .ended
  Jobs.add number [process]

/-- Look a command up before the processes of a pipeline are started, so that all know where it
is. -/
def lookAhead (command : Command) : Sh Unit := do
  match command with
  | .simple _ _ ([.plain name] :: _) _ =>
      if isName name then let _ ← Lookup.find name
  | _ => return

/-- Start the processes of a pipeline, each with its input from the one before; the answer is their
numbers. -/
def startAll (ev : Evaluator) (care : Care) (isBackground : Bool) :
    List Command → Option Nat → Bool → Sh (List Nat)
  | [], _, _ => return []
  | command :: commands, input, isFirst => do
      lookAhead command
      let ends ← if commands.isEmpty then pure none else some <$> Act.makePipe
      let ground : Jobs.Ground := if isBackground then .back isFirst else .front
      let process ← Jobs.spawn ev ground do
        match ends with
        | some (readEnd, _) => Act.close readEnd
        | none => pure ()
        match input with
        | some input => Redirection.move input 0
        | none => pure ()
        match ends with
        | some (_, writeEnd) => Redirection.move writeEnd 1
        | none => pure ()
        ev.run { care with isLast := true } command
        throw .ended
      if let some input := input then Act.close input
      if let some (_, writeEnd) := ends then Act.close writeEnd
      let others ← startAll ev care isBackground commands (ends.map (·.1)) false
      return process :: others

/-- Run commands whose output is the input of the next one. -/
def pipeline (ev : Evaluator) (care : Care) (commands : List Command) (isBackground : Bool) :
    Sh Nat := do
  let number ← Jobs.reserve
  let processes ← startAll ev care isBackground commands none true
  if isBackground then
    Jobs.add number processes
    return 0
  else Jobs.awaitStatus processes

def output (ev : Evaluator) (body : Option Command) : Sh String := do
  match body with
  | none => return ""
  | some body => do
      let (readEnd, writeEnd) ← Act.makePipe
      let _ ← Jobs.reserve
      let process ← Jobs.spawn ev .front do
        Act.close readEnd
        Redirection.move writeEnd 1
        ev.run { isLast := true } body
        throw .ended
      Act.close writeEnd
      let text ← Act.readAll readEnd
      Act.close readEnd
      let status ← Jobs.awaitStatus [process]
      modify fun s => { s with outputStatus := status }
      let shown := (text.toOption.getD "").toList.filter fun c => c.toNat ≠ 0
      return Expansion.withoutLineEnds (String.ofList shown)

/-- Set the line of the script that is being run. -/
def atLine (line : Nat) : Sh Unit := modify fun s => { s with line := line }

/-- Whether a command has to do with processes, so that signals are looked after at its end. -/
def isLeaf : Command → Bool
  | .simple _ _ _ _ | .subshell _ _ _ | .background _ _ _ | .pipeline _ _ => true
  | _ => false

/-- Run a command; the answer tells whether its failure may end the shell. -/
def perform (ev : Evaluator) (care : Care) (command : Command) : Sh Bool := do
  let tested : Care := { tested := care.tested }
  match command with
  | .simple line assignments words redirects => do
      Simple.run ev care line assignments words redirects
      return true
  | .negated inner => do
      let status ← statusOf ev { tested := true } inner
      Sh.setStatus (if status = 0 then 1 else 0)
      return false
  | .redirected line body redirects => do
      atLine line
      let targets ← Redirection.expandAll ev redirects
      match ← Redirection.begin? ev targets with
      | none => do
          Sh.setStatus 2
          return true
      | some kept => do
          Sh.ensuring (ev.run tested body) (Redirection.giveBack kept)
          return false
  | .subshell line body redirects => do
      atLine line
      Sh.setStatus (← subshell ev care body redirects)
      return true
  | .background line body redirects => do
      atLine line
      background ev body redirects
      Sh.setStatus 0
      return true
  | .pipeline commands isBackground => do
      Sh.setStatus (← pipeline ev care commands isBackground)
      return true
  | .both first second => do
      let status ← statusOf ev { tested := true } first
      if status = 0 && (← get).skip.isNone then ev.run care second
      return false
  | .either first second => do
      let status ← statusOf ev { tested := true } first
      if status ≠ 0 && (← get).skip.isNone then ev.run care second
      return false
  | .sequence first second => do
      ev.run tested first
      if (← get).skip.isNone then ev.run care second
      return false
  | .branch condition body otherwise => do
      let status ← statusOf ev { tested := true } condition
      if (← get).skip.isSome then return false
      match if status = 0 then some body else otherwise with
      | some body => ev.run care body
      | none => Sh.setStatus 0
      return false
  | .loop untilTrue condition body => do
      Sh.setStatus (← asLoop (loop ev tested untilTrue condition body Sh.rounds 0))
      return false
  | .each line name words body => do
      atLine line
      let values ← words.mapM (Expansion.fields ev)
      Sh.setStatus (← asLoop (each ev tested name body values.flatten 0))
      return false
  | .select line subject arms => do
      atLine line
      let text ← Expansion.text ev { tilde := .start } subject
      Sh.setStatus (← select ev care text arms)
      return false
  | .define _ name body => do
      modify fun s => { s with functions := s.functions.insert name body }
      Sh.setStatus 0
      return false

def run (ev : Evaluator) (care : Care) (command : Command) : Sh Unit := do
  if (← get).has 'n' then return
  let looks := isLeaf command
  if looks then Script.actOnSignals ev
  let counts ← perform ev care command
  let failed := (← get).status ≠ 0
  if looks then Script.actOnSignals ev
  if counts && failed && !care.tested && (← get).has 'e' then throw .ended
  if care.isLast then throw .ended

end Evaluation

namespace Evaluator

/-- The parts of a shell tied together, up to some depth. -/
def upTo (load : Loader) : Nat → Evaluator
  | 0 =>
      { run := fun _ _ => Sh.fail "too deep"
        expand := fun _ _ => return []
        load := load }
  | depth + 1 =>
      { run := fun care command => Evaluation.run (upTo load depth) care command
        expand := fun manner word =>
          let ev := upTo load depth
          Expansion.pieces ev (Evaluation.output ev) manner word {}
        load := load }

end Evaluator

/-! ## The shell as a program -/

namespace Start

/-- The variables that a shell starts with: those of the environment, and its own. -/
def startingVariables (setting : Setting) (parent : Nat) (dir : String) : Dict Variable :=
  let own : List (String × Variable) :=
    [("OPTIND", { value := some "1" }), ("PATH", { value := some Setting.usualPath }),
      ("PS1", { value := some "# " }), ("PS2", { value := some "> " }),
      ("PS4", { value := some "+ " })]
  let given : List (String × Variable) := setting.environment.filterMap fun (name, value) =>
    if isName name then some (name, { value := some value, exported := true }) else none
  let fixed : List (String × Variable) :=
    [("IFS", { value := some " \t\n" }), ("OPTIND", { value := some "1" }),
      ("PPID", { value := some (toString parent) }),
      ("PWD", { value := some dir, exported := true })]
  Dict.ofList (own ++ given ++ fixed)

/-- The directory under the name that the environment has for it, if that is right. -/
def dirName (setting : Setting) (files : FileTree) : String :=
  match setting.environment.find? fun e => e.1 = "PWD" with
  | some (_, path) =>
      let same : Bool := match files.locate (Octets.decode path),
          files.locate (Octets.decode setting.dir) with
        | .ok a, .ok b => path.toList.head? = some '/' && a = b && (files.get? a).isSome
        | _, _ => false
      if same then path else setting.dir
  | none => setting.dir

/-- Run the commands that the arguments are about. -/
def run (ev : Evaluator) (args : List String) : Sh Unit := do
  let r ← Builtin.readOptions true (args.length + 1) { args := args }
  if r.isCommand then
    match r.args with
    | [] => Sh.fail "-c requires an argument"
    | text :: rest => do
        modify fun s => { s with name := rest.headD s.name, params := rest.drop 1 }
        let fromInput := (← get).has 's'
        let _ ← Script.text ev { isLast := !fromInput } text
        if fromInput then readInput
  else
    match r.args with
    | [] => do
        modify fun s => { s with options := 's' :: s.options }
        readInput
    | path :: rest => do
        if (← get).has 's' then
          modify fun s => { s with params := r.args }
          readInput
        else
          let descriptor ← Redirection.openFile path .reading
          let text ← Act.readAll descriptor
          Act.close descriptor
          modify fun s => { s with name := path, params := rest }
          let _ ← Script.file ev (text.toOption.getD "")
where
  /-- Run the commands of the input. -/
  readInput : Sh Unit := do
    let text ← Act.readAll 0
    let _ ← Script.file ev (text.toOption.getD "")

def state (setting : Setting) (files : FileTree) (self parent : Nat) (deafTo : List Nat) :
    State :=
  let dir := dirName setting files
  { name := setting.name
    vars := startingVariables setting parent dir
    dir := dir
    mask := setting.mask
    processId := self
    parentId := parent
    deafTo := deafTo
    reader := { rest := [], line := 0 } }

end Start

def program (load : Loader) (setting : Setting) : Program :=
  let ev := Evaluator.upTo load Sh.rounds
  .ask .self fun (self, parent) =>
    .ask .ignored fun deafTo =>
      .ask .files fun files =>
        Script.process ev (Start.run ev setting.args) (Start.state setting files self parent deafTo)

end ScaffoldRunner.Shell
