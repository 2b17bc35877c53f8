import ScaffoldRunner.Utility.Awk.Functions

/-!
# Programs at work

The values of expressions, what statements do, and how a program goes through its records: first
what is to be done at the start, then the rules for each record, then what is to be done at the
end.
-/

namespace ScaffoldRunner.Awk

/-- The parts of a program at work that need one another. -/
structure Worker where
  value : Expr → Running Value
  perform : Statement → Running Unit

namespace Running

/-- The value of an expression as a number. -/
def number (w : Worker) (e : Expr) : Running Float := do return (← w.value e).toNumber

/-- The value of an expression as a text. -/
def text (w : Worker) (e : Expr) : Running String := do textOf (← w.value e)

/-- The key that some values make up. -/
def key (w : Worker) (keys : List Expr) : Running Key := do
  match keys with
  | [e] =>
      match ← w.value e with
      | .number x =>
          if Value.isWhole x then return .number (Value.exact x)
          else return .text (← textOf (.number x))
      | v => return .text (← textOf v)
  | keys => do
      let separator ← sharedText Script.keySeparator
      return .text (separator.intercalate (← keys.mapM (text w)))

/-- The pattern that an expression stands for. -/
def patternOf (w : Worker) (e : Expr) : Running Regex := do
  match e with
  | .regex r => return r
  | e => pattern (← text w e)

/-- Whether a text matches a pattern. -/
def isMatch (r : Regex) (s : String) : Bool :=
  (Pattern.matchFrom? s.toList.toArray r.groups r.pattern 0).isSome

def calculate (op : Arithmetic) (x y : Float) : Float :=
  match op with
  | .add => x + y
  | .subtract => x - y
  | .multiply => x * y
  | .divide => x / y
  | .remainder => remainder x y
  | .power => x.pow y

def holds (c : Comparison) (o : Ordering) : Bool :=
  match c, o with
  | .less, .lt | .atMost, .lt | .atMost, .eq | .equal, .eq | .unequal, .lt | .unequal, .gt => true
  | .atLeast, .gt | .atLeast, .eq | .more, .gt => true
  | _, _ => false

def fieldNumber (w : Worker) (e : Expr) : Running Int := do return Value.toInt (← number w e)

/-- A place, with what tells it apart worked out. -/
inductive Spot where
  | variable (v : Variable)
  | field (n : Int)
  | element (table : Nat) (key : Key)

def spot (w : Worker) (place : Expr) : Running Spot := do
  match place with
  | .field e => return .field (← fieldNumber w e)
  | .element v keys => do
      let k ← key w keys
      let index ← tableOf v
      changeTable index (·.touch true k)
      return .element index k
  | .var v => return .variable v
  | _ => return .field 0

def read : Spot → Running Value
  | .variable v => value v
  | .field n => field n
  | .element index k => do return (← table index).get k

def store (v : Value) : Spot → Running Unit
  | .variable place => setValue place v
  | .field n => setField n v
  | .element index k => changeTable index (·.set k v)

/-! ## Functions that are there from the start -/

/-- Run a command; the answer is its status. -/
def system (command : String) : Running Nat := do
  flushAll
  let process ← Act.fork fun s => runCommand s.load s.setting (opened s) 0 0 command
  awaitStatus process

/-- The next random number, which is less than one. -/
def random : Running Float := do
  let s ← get
  let next := (s.chance * 6364136223846793005 + 1442695040888963407) % twoTo 64
  set { s with chance := next }
  return Float.ofNat (next / twoTo 32) / 4294967296.0

def seconds : Running Nat := do
  let clock : Nat ← Act.ask .clock
  return Utility.Calendar.clockStart + clock / 1000000

/-- Replace matches in a place; the value is how many there were. -/
def substitute (w : Worker) (all : Bool) (args : List Expr) : Running Value := do
  match args with
  | r :: new :: rest => do
      let r ← patternOf w r
      let new ← text w new
      let place ← match rest with
        | e :: _ => if e.isPlace then some <$> spot w e else pure none
        | [] => pure (some (.field 0))
      let old ← match place, rest with
        | some place, _ => textOf (← read place)
        | none, e :: _ => text w e
        | none, [] => pure ""
      let (result, count) := replaced old r new all
      if count ≠ 0 then
        if let some place := place then store (.text result) place
      return .ofNat count
  | _ => return .unset

/-- The value of a call of a function that is there from the start. -/
def builtin (w : Worker) (f : Builtin) (args : List Expr) : Running Value := do
  let real (f : Float → Float) : Running Value := do
    match args with
    | e :: _ => return .number (f (← number w e))
    | [] => return .number (f 0.0)
  let letters (f : Char → Char) : Running Value := do
    match args with
    | e :: _ => return .text ((← text w e).map f)
    | [] => return .text ""
  match f, args with
  | .length, [] => return .ofNat (← record).length
  | .length, .var v :: _ => do
      let s ← get
      let slot := match v with
        | .shared index => s.shared.getD index default
        | .own index => s.own.getD index default
      match slot with
      | .table index => return .ofNat (← table index).size
      | .value _ => return .ofNat (← textOf (← value v)).length
  | .length, e :: _ => return .ofNat (← text w e).length
  | .index, a :: b :: _ => do
      let whole ← text w a
      let wanted ← text w b
      return .ofNat (placeOf whole.toList wanted.toList)
  | .substr, a :: b :: rest => do
      let whole ← text w a
      let start ← number w b
      match rest with
      | c :: _ => do
          let size ← number w c
          return .text (part whole start (some size))
      | [] => return .text (part whole start none)
  | .split, a :: .var v :: rest => do
      let whole ← text w a
      let how ← match rest with
        | .regex r :: _ => pure (Cutting.pattern r)
        | e :: _ => cutting (← text w e)
        | [] => cutting (← sharedText Script.fieldSeparator)
      let pieces := how.pieces whole
      changeTable (← tableOf v) fun _ => Table.ofList (pieces.map Value.input)
      return .ofNat pieces.length
  | .sub, args => substitute w false args
  | .gsub, args => substitute w true args
  | .match, a :: b :: _ => do
      let whole ← text w a
      let r ← patternOf w b
      let (start, size) : Float × Float :=
        match Pattern.matchFrom? whole.toList.toArray r.groups r.pattern 0 with
        | some m => (Float.ofNat (m.start + 1), Float.ofNat (m.stop - m.start))
        | none => (0.0, -1.0)
      setShared Script.matchStart (.number start)
      setShared Script.matchLength (.number size)
      return .number start
  | .sprintf, format :: args => do
      let format ← text w format
      let values ← args.mapM w.value
      let made := Formatting.make (← conversion) format values
      match made.fault with
      | some reason => fault (reason ++ "sprintf(\"" ++ format ++ "\")")
      | none => return .text (String.ofList made.text)
  | .sin, _ => real Float.sin
  | .cos, _ => real Float.cos
  | .exp, _ => real Float.exp
  | .log, _ => real Float.log
  | .sqrt, _ => real Float.sqrt
  | .int, _ => real Value.cut
  | .atan2, a :: b :: _ => do
      let y ← number w a
      let x ← number w b
      return .number (Float.atan2 y x)
  | .rand, _ => return .number (← random)
  | .srand, args => do
      let seed ← match args with
        | e :: _ => number w e
        | [] => do pure (Float.ofNat (← seconds))
      let before := (← get).seed
      modify fun s => { s with seed := seed, chance := (Value.toInt seed).natAbs }
      let _ ← random
      return .number before
  | .close, e :: _ => do
      match ← closeNamed (← text w e) with
      | some status => return .ofNat status
      | none => return .number (-1.0)
  | .system, e :: _ => do return .ofNat (← system (← text w e))
  | .toupper, _ => letters Char.toUpper
  | .tolower, _ => letters Char.toLower
  | .fflush, [] => do
      flushOutput
      return .number 0.0
  | .fflush, e :: _ => do
      let name ← text w e
      let found := (← get).outlets.filter fun o => o.name = name
      for o in found do
        changeOutlet (← flush o)
      return .number (if found.isEmpty then -1.0 else 0.0)
  | .systime, _ => do return .ofNat (← seconds)
  | .strftime, args => do
      let values ← args.mapM w.value
      let format ← match values with
        | v :: _ => textOf v
        | [] => pure "%c"
      let time ← match values with
        | _ :: v :: _ => pure (Value.toNat v.toNumber)
        | _ => seconds
      return .text (Utility.Calendar.tell (Int.ofNat time) format)
  | .mktime, e :: _ => do return .number (secondsOf (← text w e))
  | _, _ => return .unset

/-! ## Expressions -/

/-- What a variable of a function holds at the start of a call: what the argument says, or
nothing. -/
def passed (w : Worker) (u : Use) (arg : Option Expr) : Running Slot := do
  match u, arg with
  | .table, some (.var v) => return .table (← tableOf v)
  | .table, some e => do
      let _ ← w.value e
      newTable
  | .table, none => newTable
  | _, some e => return .value (← w.value e)
  | _, none => return .value .unset
where
  newTable : Running Slot := do
    let s ← get
    set { s with tables := s.tables.push {} }
    return .table s.tables.size

/-- How many variables the functions at work may have together. -/
def roomSize : Nat := 1006

/-- Call a function. The tables that it has for itself are gone when it is left. -/
def call (w : Worker) (f : Nat) (args : List Expr) : Running Value := do
  let s ← get
  let function := s.script.functions.getD f default
  let count := s.tables.size
  let own ← (List.range function.own.size).mapM fun i =>
    passed w (function.own.getD i .unknown) args[i]?
  let outer := (← get).own
  let _ ← Act.ask .clock
  let room := s.room + own.length
  if roomSize < room then quit "program limit exceeded: eval stack size=1024"
  modify fun s => { s with own := own.toArray, room := room }
  let result ← try
      w.perform (function.body.getD .nothing)
      pure Value.unset
    catch
      | .function v => pure v
      | reason => throw reason
  modify fun after => { after with
    own := outer, room := s.room, tables := after.tables.extract 0 count }
  return result

/-- Read a line, and give a place its value. Without a place it becomes the record. -/
def getLine (w : Worker) (source : Source) (name place : Option Expr) : Running Value := do
  let name ← match name with
    | some e => text w e
    | none => pure ""
  let found ← match source with
    | .records => some <$> nextText Act.rounds
    | .file => readFrom false name
    | .pipe => readFrom true name
  match found with
  | none => return .number (-1.0)
  | some none => return .number 0.0
  | some (some line) => do
      match place with
      | some e => store (.input line) (← spot w e)
      | none => do
          setRecord line
          let _ ← cutRecord
      return .number 1.0

def valueOf (w : Worker) (e : Expr) : Running Value := do
  match e with
  | .number x => return .number x
  | .text s => return .text s
  | .regex r => return .ofBool (isMatch r (← record))
  | .var v => value v
  | .field e => field (← fieldNumber w e)
  | .element _ _ => read (← spot w e)
  | .assign place e => do
      let v ← w.value e
      store v (← spot w place)
      return v
  | .update op place e => do
      let y ← number w e
      let place ← spot w place
      let v := Value.number (calculate op (← read place).toNumber y)
      store v place
      return v
  | .step op isBefore place => do
      let place ← spot w place
      let old := (← read place).toNumber
      let new := calculate op old 1.0
      store (.number new) place
      return .number (if isBefore then new else old)
  | .choice condition yes no => do
      if (← w.value condition).isTrue then w.value yes else w.value no
  | .both a b => do
      if (← w.value a).isTrue then return .ofBool (← w.value b).isTrue else return .ofBool false
  | .either a b => do
      if (← w.value a).isTrue then return .ofBool true else return .ofBool (← w.value b).isTrue
  | .negation a => return .ofBool !(← w.value a).isTrue
  | .contains keys v => do
      let k ← key w keys
      let index ← tableOf v
      changeTable index (·.touch false k)
      return .ofBool ((← table index).has k)
  | .matched negated a r => do
      let s ← text w a
      let r ← patternOf w r
      return .ofBool (isMatch r s != negated)
  | .compare c a b => do
      let x ← w.value a
      let y ← w.value b
      return .ofBool (holds c (order (← conversion) x y))
  | .concat a b => do
      let x ← text w a
      let y ← text w b
      return .text (x ++ y)
  | .arithmetic op a b => do
      let x ← number w a
      let y ← number w b
      return .number (calculate op x y)
  | .minus a => return .number (-(← number w a))
  | .plus a => return .number (← number w a)
  | .call f args => call w f args
  | .builtin f args => builtin w f args
  | .getLine source name place => getLine w source name place

/-! ## Statements -/

def shownText (v : Value) : Running String := do
  match v with
  | .number x => return Value.numberText (← sharedText Script.outputFormat) x
  | v => textOf v

/-- Where an output goes. -/
def target (w : Worker) (place : Option (Sink × Expr)) : Running (Option (Sink × String)) := do
  match place with
  | none => return none
  | some (sink, e) => return some (sink, ← text w e)

/-- Do the body of a loop once; whether the loop goes on. -/
def round (w : Worker) (body : Statement) : Running Bool := do
  let _ ← Act.ask .clock
  try
    w.perform body
    return true
  catch
    | .loop => return false
    | .round => return true
    | reason => throw reason

/-- Repeat while a condition holds. -/
def loop (w : Worker) (condition : Option Expr) (body step : Statement) : Nat → Bool → Running Unit
  | 0, _ => return
  | fuel + 1, looks => do
      let goesOn ← match looks, condition with
        | true, some e => do pure (← w.value e).isTrue
        | _, _ => pure true
      if goesOn then
        if ← round w body then
          w.perform step
          loop w condition body step fuel true

def each (w : Worker) (v : Variable) (body : Statement) : List String → Running Unit
  | [] => return
  | k :: keys => do
      setValue v (.text k)
      if ← round w body then each w v body keys

def performed (w : Worker) (s : Statement) : Running Unit := do
  match s with
  | .nothing => return
  | .block ss => ss.forM w.perform
  | .expression e => do
      let _ ← w.value e
  | .print args place => do
      let texts ← match args with
        | [] => do pure [← record]
        | args => args.mapM fun e => do shownText (← w.value e)
      let separator ← sharedText Script.outputFieldSeparator
      let ending ← sharedText Script.outputRecordSeparator
      write (← target w place) (separator.intercalate texts ++ ending)
  | .printf args place => do
      match args with
      | [] => return
      | format :: args => do
          let format ← text w format
          let values ← args.mapM w.value
          let place ← target w place
          let made := Formatting.make (← conversion) format values
          write place (String.ofList made.text)
          if let some reason := made.fault then
            fault (reason ++ "printf(\"" ++ format ++ "\")")
  | .branch e yes no => do
      if (← w.value e).isTrue then w.perform yes else w.perform no
  | .loop looksFirst e body step => loop w e body step Act.rounds looksFirst
  | .each v t body => do
      let index ← tableOf t
      changeTable index Table.sort
      each w v body (← table index).keys
  | .next => throw .record
  | .nextFile => throw .file
  | .leave status => do
      if let some e := status then
        let x ← number w e
        modify fun s => { s with status := (Value.toInt x % 256).toNat }
      throw .program
  | .giveBack e => do
      match e with
      | some e => throw (.function (← w.value e))
      | none => throw (.function .unset)
  | .stop => throw .loop
  | .continue => throw .round
  | .delete t keys => do
      let k ← key w keys
      changeTable (← tableOf t) (·.erase k)
  | .clear t => changeTable (← tableOf t) fun _ => {}

end Running

/-- The parts of a program at work tied together, up to some depth. -/
def Worker.upTo : Nat → Worker
  | 0 =>
      { value := fun _ => Running.fault "too deep"
        perform := fun _ => Running.fault "too deep" }
  | depth + 1 =>
      { value := fun e => Running.valueOf (upTo depth) e
        perform := fun s => Running.performed (upTo depth) s }

namespace Running

/-! ## The course of a program -/

/-- Whether a rule is meant for the record at hand. -/
def isMeant (w : Worker) (g : Guard) : Running Bool := do
  match g with
  | .always => return true
  | .condition e => return (← w.value e).isTrue
  | .range index first last => do
      let wasOpen := (← get).ranges.getD index false
      let isOpen ← if wasOpen then pure true else do pure (← w.value first).isTrue
      if !isOpen then return false
      let closes := (← w.value last).isTrue
      modify fun s => { s with ranges := s.ranges.setIfInBounds index !closes }
      return true

/-- Apply the rules to the record at hand. -/
def applyRules (w : Worker) (rules : List Rule) : Running Unit :=
  rules.forM fun r => do
    if ← isMeant w r.guard then w.perform r.body

/-- Go through the records. -/
def eachRecord (w : Worker) (rules : List Rule) : Nat → Running Unit
  | 0 => return
  | fuel + 1 => do
      let _ ← Act.ask .clock
      match ← nextText Act.rounds with
      | none => return
      | some line => do
          setRecord line
          try applyRules w rules
          catch
            | .record => pure ()
            | .file => closeInput
            | reason => throw reason
          eachRecord w rules fuel

/-- Do something that may end the program; whether it does not. -/
def goesOn (act : Running Unit) : Running Bool := do
  try
    act
    return true
  catch
    | .program => return false
    | .fault status => throw (.fault status)
    | _ => return true

/-- Run the program; the answer is its status. -/
def course (w : Worker) : Running Nat := do
  let script := (← get).script
  try
    let goes ← goesOn (script.begins.toList.forM w.perform)
    let reads := !script.rules.isEmpty || !script.ends.isEmpty
    if goes && reads then
      let _ ← goesOn (eachRecord w script.rules.toList Act.rounds)
    let _ ← goesOn (script.ends.toList.forM w.perform)
    closeAll
    return (← get).status
  catch
    | .fault status => do
        closeAll
        return status
    | _ => return (← get).status

end Running

end ScaffoldRunner.Awk
