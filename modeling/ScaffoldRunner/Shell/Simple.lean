import ScaffoldRunner.Shell.Builtin.Control
import ScaffoldRunner.Shell.Builtin.Processes
import ScaffoldRunner.Shell.Builtin.Texts
import ScaffoldRunner.Shell.Builtin.Variables

/-!
# Simple commands

A simple command is put together from words: its first field says what is run. Redirections and
assignments come before that, and most are taken back when the command has ended.
-/

namespace ScaffoldRunner.Shell

namespace Builtin

def all : List Builtin :=
  [source, succeed ":", bracket, aliasing, resume "bg", leaveLoops, cd "cd", cd "chdir", command,
    nextRound, echo, eval, exec, exit, exported, fail, resume "fg", getopts, hash, jobs, kill,
    localVariables, printf, pwd, read, readonly, leaveFunction, setting, shift, test, times, trap,
    succeed "true", type, ulimit, umask, unalias, unset, wait]

def named? (name : String) : Option Builtin := all.find? fun b => b.name = name

end Builtin

namespace Simple

/-- The fields of a command that are known, and the words that are still to be expanded. -/
structure Fields where
  known : List String := []
  left : List Word

/-- Expand words until there is a field at some place. -/
def until? (ev : Evaluator) (place : Nat) : Nat → Fields → Sh (Option String × Fields)
  | 0, fields => return (none, fields)
  | fuel + 1, fields =>
      match fields.known[place]?, fields.left with
      | some text, _ => return (some text, fields)
      | none, [] => return (none, fields)
      | none, word :: left => do
          let more ← Expansion.fields ev word
          until? ev place fuel { known := fields.known ++ more, left := left }

def field? (ev : Evaluator) (place : Nat) (fields : Fields) : Sh (Option String × Fields) :=
  until? ev place (fields.left.length + 1) fields

/-- What a command is, as far as its first fields tell. -/
structure Head where
  fields : Fields
  /-- Where the name of the command is among the fields. -/
  place : Nat := 0
  found : Option Found := none
  /-- Functions count, and programs are looked for on the usual path. -/
  functions : Bool := true
  usualPath : Bool := false
  /-- Whether the first name is that of a builtin command, and of which sort. -/
  isSpecial : Option Bool := none
  /-- Assignments last for the command only. -/
  isTemporary : Bool := false
  assigns : Bool := false
  isExec : Bool := false

/-- Pass the options after `command`; the answer is the place of the name after them, if it is such
a command at all. -/
def afterCommand (ev : Evaluator) : Nat → Nat → Bool → Fields →
    Sh (Option (Nat × Bool) × Fields)
  | 0, _, _, fields => return (none, fields)
  | fuel + 1, place, usual, fields => do
      let (found, fields) ← field? ev place fields
      match found with
      | none => return (none, fields)
      | some text =>
          match text.toList with
          | ['-', '-'] => do
              let (next, fields) ← field? ev (place + 1) fields
              return (next.map fun _ => (place + 1, usual), fields)
          | '-' :: c :: cs =>
              if (c :: cs).all (· = 'p') then afterCommand ev fuel (place + 1) true fields
              else return (none, fields)
          | _ => return (some (place, usual), fields)

/-- Find out what a command is. -/
def head (ev : Evaluator) : Nat → Head → Sh Head
  | 0, h => return h
  | fuel + 1, h => do
      let name := h.fields.known.getD h.place ""
      match Lookup.own? (← get) h.functions name with
      | some .builtin => do
          let b := Builtin.named? name
          let isSpecial := h.isSpecial.getD (isSpecialBuiltin name)
          let h := { h with
            found := some .builtin
            isSpecial := some isSpecial
            isTemporary := !isSpecial
            assigns := b.any (·.assigns)
            isExec := name = "exec" }
          if name ≠ "command" then return h
          else
            let (next, fields) ← afterCommand ev Sh.rounds (h.place + 1) h.usualPath h.fields
            match next with
            | none => return { h with fields := fields }
            | some (place, usual) =>
                head ev fuel { h with
                  fields := fields, place := place, functions := false, usualPath := usual }
      | found => return { h with found := found, isTemporary := true }

/-- Expand the words that are left; those that are assignments stay whole if so asked. -/
def complete (ev : Evaluator) (assigns : Bool) (fields : Fields) : Sh (List String) := do
  let more ← fields.left.mapM fun word =>
    match if assigns then Word.assignment? word else none with
    | some (name, value) => do
        return [name ++ "=" ++ (← Expansion.text ev { tilde := .value } value)]
    | none => Expansion.fields ev word
  return fields.known ++ more.flatten

/-- Give variables their values; the answer is how the assignments would be written. -/
def assign (ev : Evaluator) (isTemporary exports : Bool) (assignments : List Word) :
    Sh (List String) :=
  assignments.mapM fun word => do
    match Word.assignment? word with
    | none => return ""
    | some (name, value) => do
        let text ← Expansion.text ev { tilde := .value } value
        if isTemporary then
          Sh.shadow name
          Sh.assign name text true
        else Sh.assign name text exports
        return name ++ "=" ++ text

/-- A text that is read and expanded as if it stood in quotes. -/
def expandedText (ev : Evaluator) (text : String) : Sh String := do
  let s ← get
  let start : WordState := { layer := { quoting := .double, isDouble := true } }
  let parse : Parse Word := do
    let first ← Parse.nextJoined
    let ending : DocumentEnd := ⟨['\n'], false⟩
    let (w, _) ← Parse.wordFrom Grammar.whole (some ending) false Parse.rounds start first
    return w.parts.reverse
  match parse { s.reader with rest := text.toList, again := false } with
  | .ok word reader => do
      set { s with reader := { s.reader with documents := reader.documents } }
      Expansion.text ev { quoted := true } word
  | .error _ _ => return text

/-- Show a command before it is run, if so asked. -/
def trace (ev : Evaluator) (descriptor : Nat) (texts : List String) : Sh Unit := do
  let s ← get
  if s.has 'x' && !s.isTracing then
    set { s with isTracing := true }
    let sign ← expandedText ev ((s.var? "PS4").getD "")
    modify fun s => { s with isTracing := false }
    Act.put descriptor (sign ++ " ".intercalate texts ++ "\n")

/-- How deep functions may call each other. -/
def depthLimit : Nat := 1000

def callFunction (ev : Evaluator) (care : Care) (body : Command) (args : List String) :
    Sh Unit := do
  let before ← get
  if depthLimit ≤ before.depth then
    Sh.fail ("Maximum function recursion depth (" ++ toString depthLimit ++ ") reached")
  set { before with
    params := args, optionIndex := 1, optionOffset := none, loops := 0, depth := before.depth + 1 }
  Sh.ensuring (ev.run { tested := care.tested } body) do
    modify fun s => { s with
      params := before.params
      optionIndex := before.optionIndex
      optionOffset := before.optionOffset
      loops := before.loops
      depth := before.depth }
    Script.endFile

/-- Run a builtin command; an error in one that is not special only sets the status. -/
def callBuiltin (ev : Evaluator) (care : Care) (isSpecial : Bool) (b : Builtin) (name : String)
    (args : List String) : Sh Unit := do
  let outer := (← get).command
  modify fun s => { s with command := name }
  let goBack : Sh Unit := modify fun s => { s with command := outer, unwritten := "" }
  try
    let status ← b.run ev care args
    match ← Sh.flush with
    | none => Sh.setStatus status
    | some _ => do
        modify fun s => { s with command := name }
        Sh.complain (name ++ ": I/O error")
        Sh.setStatus (status ||| 1)
  catch stop =>
    goBack
    if stop = .failed && !isSpecial then return else throw stop
  goBack

/-- Run a program: in a process of its own, unless there is nothing else to do. -/
def callProgram (ev : Evaluator) (care : Care) (otherPath : Option String)
    (argv : List String) : Sh Unit := do
  if care.isLast && (← get).activeTraps.isEmpty then Lookup.launch ev argv otherPath
  else
    let _ ← Jobs.reserve
    let process ← Act.fork fun s =>
      Lookup.launch ev argv otherPath s (fun _ s => .ended s.status) fun _ s => .ended s.status
    Sh.setStatus (← Jobs.awaitStatus [process])

/-- Run what a command has been found to be. -/
def call (ev : Evaluator) (care : Care) (h : Head) (argv : List String) : Sh Unit := do
  let name := argv.headD ""
  let args := argv.drop 1
  let otherPath := if h.usualPath then some Setting.usualPath else none
  let found ← match h.found with
    | some found => pure found
    | none => Lookup.program name otherPath
  match found with
  | .function body => callFunction ev care body args
  | .builtin =>
      match Builtin.named? name with
      | some b => callBuiltin ev care (h.isSpecial = some true) b name args
      | none => return
  | .program _ => callProgram ev care otherPath argv
  | .nothing reason => do
      Sh.complain (name ++ ": " ++ Lookup.reason reason)
      Sh.setStatus 127
      if h.isSpecial = some true then throw .failed

def run (ev : Evaluator) (care : Care) (line : Nat) (assignments words : List Word)
    (redirects : List Redirect) : Sh Unit := do
  modify fun s => { s with line := line, outputStatus := 0 }
  let frames := (← get).shadowed.length
  let (first, fields) ← field? ev 0 { left := words }
  let h : Head ← match first with
    | none => pure { fields := fields }
    | some _ => head ev Sh.rounds { fields := fields }
  let all ← complete ev h.assigns h.fields
  let argv := all.drop h.place
  if h.isTemporary then Sh.openFrame
  let targets ← Redirection.expandAll ev redirects
  match ← Redirection.begin? ev targets with
  | none => do
      Sh.setStatus 2
      Sh.closeFrames frames
      if h.isSpecial = some true then throw .failed
  | some kept => do
      let goBack : Sh Unit :=
        if h.isExec then Redirection.forget kept else Redirection.giveBack kept
      let act : Sh Unit := do
        let assigned ← assign ev h.isTemporary (h.isExec && 1 < argv.length) assignments
        let errors := ((kept.find? fun e => e.1 = 2).bind (·.2)).getD 2
        trace ev errors (assigned ++ all)
        if argv.isEmpty then modify fun s => { s with status := s.outputStatus }
        else call ev care h argv
      Sh.ensuring act goBack
      Sh.closeFrames frames

end Simple

end ScaffoldRunner.Shell
