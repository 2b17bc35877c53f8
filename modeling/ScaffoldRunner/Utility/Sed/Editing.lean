import ScaffoldRunner.Utility.Sed.Streams

/-!
# Editing a stream

For each line that is read, the commands of the script that are meant for it are done one after the
other. A command may go on elsewhere in the script, read another line or end the work.
-/

namespace ScaffoldRunner.Sed.Editing

def regex (r : Regex) : Editing (Pattern × Nat) := do
  match r with
  | some found => do
      modify fun s => { s with lastRegex := some found }
      return found
  | none =>
      match (← get).lastRegex with
      | some found => return found
      | none => do
          complain "-e expression #1, char 0: no previous regular expression"
          throw 1

/-- Whether a pattern matches the text at hand. -/
def isMatched (r : Regex) : Editing Bool := do
  let (pattern, groups) ← regex r
  let text := (← get).space.toList.toArray
  return (Pattern.matchFrom? text (groups + 1) pattern 0).isSome

/-- Whether an address means the line at hand. -/
def isAt (m : Mode) (a : Address) : Editing Bool := do
  let line := (← get).line
  match a with
  | .line n => return line = n
  | .step first every =>
      return if every = 0 then line = first else first ≤ line && (line - first) % every = 0
  | .last => isLast m
  | .pattern r => isMatched r

/-- Set how far the range of a command has come. -/
def setRange (index : Nat) (r : RangeState) : Editing Unit :=
  modify fun s => { s with ranges := s.ranges.setIfInBounds index r }

/-- Whether a range is meant to begin at the line at hand, which sets how far it goes. -/
def enterRange (m : Mode) (index : Nat) (first : Address) (stop : RangeEnd) : Editing Bool := do
  if !(← isAt m first) then return false
  let line := (← get).line
  let upTo (last : Nat) : Editing Bool := do
    if line < last then setRange index (.upTo last)
    return true
  match stop with
  | .more count => upTo (line + count)
  | .multiple n => upTo (if n = 0 then line else (line / n + 1) * n)
  | .address (.line n) => upTo n
  | .address .last => do
      if !(← isLast m) then setRange index .open
      return true
  | .address _ => do
      setRange index .open
      return true

/-- Whether a command is meant for the line at hand. -/
def isSelected (m : Mode) (index : Nat) (s : Selector) : Editing Bool := do
  let found ← match s.first, s.stop with
    | none, _ => pure true
    | some first, none => isAt m first
    | some first, some stop => do
        match (← get).ranges.getD index .closed, stop with
        | .closed, stop => enterRange m index first stop
        | .upTo last, _ => do
            let line := (← get).line
            if last ≤ line then setRange index .closed
            pure (line ≤ last)
        | .open, .address a => do
            if ← isAt m a then setRange index .closed
            pure true
        | .open, _ => pure true
  return found != s.negated

/-- What comes after a command. -/
inductive Flow where
  | goTo (index : Nat)
  /-- The text at hand is written, and the next line is read. -/
  | endCycle
  /-- The next line is read. -/
  | drop
  /-- The script begins again with what is left of the text at hand. -/
  | restart
  | quit (status : Nat) (writes : Bool)

def labelIndex (script : Array Command) (name : String) : Option Nat :=
  script.findIdx? fun c => match c.action with
    | .label other => other = name
    | _ => false

/-- The text at hand in a form in which all characters can be seen, in lines of some width. -/
def visible (width : Nat) (text : String) : String :=
  let octal (n : Nat) : List Char :=
    ['\\', Nat.digitChar (n / 64 % 8), Nat.digitChar (n / 8 % 8), Nat.digitChar (n % 8)]
  let shown (c : Char) : List Char :=
    match c with
    | '\\' => ['\\', '\\']
    | '\x07' => ['\\', 'a']
    | '\x08' => ['\\', 'b']
    | '\x0c' => ['\\', 'f']
    | '\n' => ['\\', 'n']
    | '\r' => ['\\', 'r']
    | '\t' => ['\\', 't']
    | '\x0b' => ['\\', 'v']
    | c => if ' ' ≤ c && c ≤ '~' then [c] else octal c.toNat
  let (out, _) := text.toList.foldl (fun (out, column) c =>
    let cs := shown c
    if width ≠ 0 && width - 1 < column + cs.length then
      (cs.reverse ++ '\n' :: '\\' :: out, cs.length)
    else (cs.reverse ++ out, column + cs.length)) (([] : List Char), 0)
  String.ofList ('$' :: out).reverse

/-- A text up to the first line end, and what follows it. -/
def firstLine? (ending : Char) (text : String) : Option (String × String) :=
  let first := text.toList.takeWhile (· ≠ ending)
  match text.toList.drop first.length with
  | _ :: rest => some (String.ofList first, String.ofList rest)
  | [] => none

/-- The next line of a file that is read line by line. -/
def lineOf? (path : String) : Editing (Option String) := do
  let lines ← match (← get).readers.find? fun e => e.1 = path with
    | some (_, lines) => pure lines
    | none =>
        match ← Act.openFile ((← get).setting.resolve path) .reading with
        | .error _ => pure []
        | .ok descriptor => do
            let text ← Act.readAll descriptor
            Act.close descriptor
            pure (Utility.linesOf (text.toOption.getD "")).1
  let set (lines : List String) : Editing Unit := modify fun s => { s with
    readers := (path, lines) :: s.readers.filter fun e => e.1 ≠ path }
  match lines with
  | [] => do
      set []
      return none
  | line :: lines => do
      set lines
      return some line

def substitute (m : Mode) (c : Substitution) : Editing Unit := do
  let (pattern, groups) ← regex c.regex
  if let some text := c.replaced? pattern groups (← get).space then
    modify fun s => { s with space := text, replaced := true }
    let s ← get
    if c.prints then put m text s.hasEnd
    if let some path := c.file then putTo m path text s.hasEnd

/-- Go on at a label, or at the end of the script. -/
def jump (m : Mode) (label : String) : Editing Flow := do
  let _ ← Act.ask .clock
  if label = "" then return .endCycle
  else return .goTo ((labelIndex m.script label).getD m.script.size)

def perform (m : Mode) (index : Nat) (c : Command) : Editing Flow := do
  let ending := String.singleton m.ending
  let s ← get
  let onward : Flow := .goTo (index + 1)
  let late (entry : Late) : Editing Flow := do
    set { s with late := s.late ++ [entry] }
    return onward
  let change (s : State) : Editing Flow := do
    set s
    return onward
  match c.action with
  | .openBlock _ | .closeBlock | .label _ | .nothing => return onward
  | .lineNumber => do
      put m (toString s.line)
      return onward
  | .append text => late (.text text)
  | .insert text => do
      putRaw m text
      return onward
  | .change text => do
      let isInside : Bool := match s.ranges.getD index .closed with
        | .closed => false
        | _ => !c.selector.negated && c.selector.stop.isSome
      if !isInside then putRaw m text
      return .drop
  | .branch label => jump m label
  | .branchIf label =>
      if s.replaced then do
        set { s with replaced := false }
        jump m label
      else return onward
  | .branchUnless label =>
      if s.replaced then change { s with replaced := false } else jump m label
  | .delete => return .drop
  | .deleteLine =>
      match firstLine? m.ending s.space with
      | none => return .drop
      | some (_, rest) => do
          set { s with space := rest }
          return .restart
  | .fileName => do
      put m s.path
      return onward
  | .get => change { s with space := s.hold }
  | .getAppend => change { s with space := s.space ++ ending ++ s.hold }
  | .hold => change { s with hold := s.space }
  | .holdAppend => change { s with hold := s.hold ++ ending ++ s.space }
  | .show width => do
      put m (visible (width.getD m.width) s.space)
      return onward
  | .next =>
      if ← isLast m then return .endCycle
      else do
        if !m.quiet then put m s.space s.hasEnd
        match ← nextLine? m with
        | none => return .quit 0 false
        | some text => do
            modify fun s => { s with space := text }
            return onward
  | .nextAppend =>
      if ← isLast m then return .endCycle
      else
        match ← nextLine? m with
        | none => return .endCycle
        | some text => do
            modify fun s => { s with space := s.space ++ ending ++ text }
            return onward
  | .print => do
      put m s.space s.hasEnd
      return onward
  | .printLine => do
      match firstLine? m.ending s.space with
      | some (line, _) => put m line
      | none => put m s.space
      return onward
  | .quit status silent => return .quit status (!silent)
  | .readFile path => late (.file path)
  | .readLine path => do
      match ← lineOf? path with
      | some line => do
          modify fun s => { s with late := s.late ++ [.text (line ++ "\n")] }
          return onward
      | none => return onward
  | .substitute c => do
      substitute m c
      return onward
  | .writeFile path => do
      putTo m path s.space s.hasEnd
      return onward
  | .writeLine path => do
      match firstLine? m.ending s.space with
      | some (line, _) => putTo m path line true
      | none => putTo m path s.space s.hasEnd
      return onward
  | .exchange => change { s with space := s.hold, hold := s.space }
  | .translate pairs =>
      change { s with space := s.space.map fun c =>
        ((pairs.find? fun e => e.1 = c).map (·.2)).getD c }
  | .zap => change { s with space := "" }

/-- The end of the work on a line. -/
def finishLine (m : Mode) (writes : Bool) : Editing Unit := do
  let s ← get
  if writes && !m.quiet then put m s.space s.hasEnd

/-- Do the script from a command on, line after line; the answer is the status. -/
def work (m : Mode) : Nat → Nat → Editing Nat
  | 0, _ => return 0
  | fuel + 1, index => do
      let next (writes : Bool) : Editing Nat := do
        finishLine m writes
        match ← nextLine? m with
        | none => return 0
        | some text => do
            modify fun s => { s with space := text }
            work m fuel 0
      match m.script[index]? with
      | none => next true
      | some c => do
          if ← isSelected m index c.selector then
            match ← perform m index c with
            | .goTo index => work m fuel index
            | .endCycle => next true
            | .drop => next false
            | .restart => do
                let _ ← Act.ask .clock
                putLate m
                work m fuel 0
            | .quit status writes => do
                finishLine m writes
                putLate m
                return status
          else
            match c.action with
            | .openBlock stop => work m fuel (stop + 1)
            | _ => work m fuel (index + 1)

/-- Edit all inputs; the answer is the status. -/
def run (m : Mode) : Editing Nat := do
  openWriters m
  let status ← match ← nextLine? m with
    | none => pure 0
    | some text => do
        modify fun s => { s with space := text }
        work m Act.rounds 0
  replaceFile m
  let o ← flush (← get).output
  modify fun s => { s with output := o }
  let s ← get
  return if status = 0 then s.status else status

end ScaffoldRunner.Sed.Editing
