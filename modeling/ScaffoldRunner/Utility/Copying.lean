import ScaffoldRunner.Data.Power
import ScaffoldRunner.Utility.Basic

/-!
# Utilities that copy their inputs

They write their inputs as they are, or marked, cut or turned round.
-/

namespace ScaffoldRunner.Utility

/-- Copy a descriptor block by block, each changed by a step that has a state. -/
def copyBlocks {σ : Type} (descriptor : Nat) (step : σ → String → σ × String) :
    Nat → σ → Utility (Except Fault σ)
  | 0, state => return .ok state
  | fuel + 1, state => do
      match ← Act.ask (.read descriptor Act.blockSize false) with
      | .error e => return .error e
      | .ok block =>
          if block.isEmpty then return .ok state
          else do
            let (state, text) := step state block
            put text
            copyBlocks descriptor step fuel state

/-! ## Whole inputs -/

namespace Cat

structure Marks where
  numbers : Bool
  numbersFilled : Bool
  squeezes : Bool
  ends : Bool
  tabs : Bool
  unprintable : Bool

/-- How far the copy has come. -/
structure Progress where
  line : Nat := 0
  atStart : Bool := true
  /-- The number of empty lines in a row. -/
  empty : Nat := 0

/-- A number in front of a line. -/
def numberText (n : Nat) : String :=
  let digits := toString n
  String.ofList (List.replicate (6 - digits.length) ' ') ++ digits ++ "\t"

/-- A character in a form that can be seen. -/
def visible (m : Marks) (c : Char) : List Char :=
  let control (n : Nat) : List Char :=
    if n < 32 then ['^', Char.ofNat (n + 64)]
    else if n = 127 then ['^', '?']
    else [Char.ofNat n]
  if c = '\t' then (if m.tabs then ['^', 'I'] else [c])
  else if !m.unprintable then [c]
  else if c.toNat < 128 then control c.toNat
  else 'M' :: '-' :: control (c.toNat - 128)

def mark (m : Marks) (p : Progress × List Char) (c : Char) : Progress × List Char :=
  let (p, out) := p
  let empty := if c = '\n' && p.atStart then p.empty + 1 else 0
  if c = '\n' && p.atStart && m.squeezes && 1 < empty then ({ p with empty := empty }, out)
  else
    let numbered := p.atStart && (if m.numbersFilled then c ≠ '\n' else m.numbers)
    let line := if numbered then p.line + 1 else p.line
    let out := if numbered then (numberText line).toList.reverseAux out else out
    let shown := if c = '\n' then (if m.ends then ['$', '\n'] else ['\n']) else visible m c
    ({ line := line, atStart := c = '\n', empty := empty }, shown.reverseAux out)

/-- Whether an input is the file that the output goes to, and not yet at its end. -/
def isOutput (descriptor : Nat) : Utility Bool := do
  match ← Act.ask (.kind descriptor), ← Act.ask (.kind 1) with
  | .file place offset _, .file outPlace outOffset appends => do
      if place ≠ outPlace then return false
      match (← Act.files).get? place with
      | some (.file bytes _) =>
          return if appends then offset < bytes.size else offset < bytes.size && offset < outOffset
      | _ => return false
  | _, _ => return false

end Cat

open Cat in
/-- Copy inputs to the output. -/
def cat : Utility Nat := do
  let o ← options
    { letters := "bnsAeETtuv"
      names := [("number-nonblank", 'b'), ("number", 'n'), ("squeeze-blank", 's'),
        ("show-all", 'A'), ("show-ends", 'E'), ("show-tabs", 'T'), ("show-nonprinting", 'v')] }
  let marks : Marks :=
    { numbers := o.has 'n'
      numbersFilled := o.has 'b'
      squeezes := o.has 's'
      ends := o.has 'A' || o.has 'e' || o.has 'E'
      tabs := o.has 'A' || o.has 't' || o.has 'T'
      unprintable := o.has 'A' || o.has 'e' || o.has 't' || o.has 'v' }
  if let .closed ← (Act.ask (.kind 1) : Utility StreamKind) then
    complain ("standard output: " ++ Fault.badDescriptor.reason)
    leave 1
  let isPlain := o.given.all fun e => e.1 = 'u'
  let step (p : Progress) (block : String) : Progress × String :=
    if isPlain then (p, block)
    else
      let (p, out) := block.foldl (mark marks) (p, [])
      (p, String.ofList out.reverse)
  let (_, isDone) ← o.inputs.foldlM (fun (p, isDone) path => do
    match ← openInput path with
    | .error e => do
        complain (path ++ ": " ++ e.reason)
        return (p, false)
    | .ok descriptor => do
        if ← isOutput descriptor then
          complain (path ++ ": input file is output file")
          return (p, false)
        match ← copyBlocks descriptor step Act.rounds p with
        | .ok p => do
            closeInput descriptor
            return (p, isDone)
        | .error e => do
            complain (path ++ ": " ++ e.reason)
            return (p, false)) (({} : Progress), true)
  return statusOf isDone

/-- Write blocks of the input to the output and to some descriptors. -/
def copyToAll (descriptors : List Nat) : Nat → Utility Unit
  | 0 => return
  | fuel + 1 => do
      match ← Act.ask (.read 0 Act.blockSize false) with
      | .error _ => return
      | .ok block =>
          if block.isEmpty then return
          else do
            put block
            for descriptor in descriptors do Act.put descriptor block
            copyToAll descriptors fuel

/-- Copy the input to the output and to files. -/
def tee : Utility Nat := do
  let o ← options
    { letters := "aip", names := [("append", 'a'), ("ignore-interrupts", 'i')] }
  let s ← get
  let access : Access := if o.has 'a' then .appending else .writing
  let opened ← o.operands.mapM fun path => do
    match ← Act.openFile (s.resolve path) access s.newMode with
    | .ok descriptor => return some descriptor
    | .error e => do
        complain (path ++ ": " ++ e.reason)
        return none
  copyToAll (opened.filterMap id) Act.rounds
  return statusOf (opened.all Option.isSome)

/-! ## Parts of inputs -/

/-- The factors that letters after a number stand for. -/
def sizeFactors : List (String × Nat) :=
  let powers (base : Nat) : List Nat :=
    (List.range 6).map fun i => (List.replicate (i + 1) base).foldl (· * ·) 1
  let letters := ["K", "M", "G", "T", "P", "E"]
  [("", 1), ("b", 512), ("k", 1024), ("kB", 1000), ("m", 1048576)] ++ letters.zip (powers 1024) ++
    (letters.map (· ++ "iB")).zip (powers 1024) ++ (letters.map (· ++ "B")).zip (powers 1000)

/-- A number with letters after it that stand for a factor. -/
def sizeOf? (text : String) : Option Nat :=
  let cs := text.toList
  let digits := cs.takeWhile Char.isDigit
  let letters := String.ofList (cs.drop digits.length)
  if digits.isEmpty then none
  else (sizeFactors.find? fun e => e.1 = letters).map fun e =>
    digits.foldl (fun n c => n * 10 + (c.toNat - 48)) 0 * e.2

/-- Which part of an input is meant. -/
structure Portion where
  count : Nat := 10
  /-- Octets are counted, not lines. -/
  octets : Bool := false
  /-- The count has a sign in front that turns its meaning round. -/
  marked : Bool := false
  ending : Char := '\n'

/-- Read a portion; the sign that turns its meaning round is taken off. -/
def portion (value : String) (sign : Char) (isIgnored : Char → Bool) (octets : Bool)
    (ending : Char) : Utility Portion := do
  let (isMarked, digits) : Bool × String := match value.toList with
    | c :: cs => if c = sign then (true, String.ofList cs)
        else if isIgnored c then (false, String.ofList cs) else (false, value)
    | [] => (false, value)
  match sizeOf? digits with
  | some n => return ⟨n, octets, isMarked, ending⟩
  | none => do
      complain ("invalid number of " ++ (if octets then "bytes: " else "lines: ") ++ quoted digits)
      leave 1

/-- The number of octets in the first lines of a text, and how many lines are still missing. -/
def firstLines (ending : Char) : List Char → Nat → Nat → Nat × Nat
  | _, 0, size => (size, 0)
  | [], count, size => (size, count)
  | c :: cs, count + 1, size =>
      if c = ending then firstLines ending cs count (size + 1)
      else firstLines ending cs (count + 1) (size + 1)

/-- Copy the front of a descriptor, and go back in it to where the part has ended. -/
def copyFront (descriptor : Nat) (p : Portion) : Nat → Nat → Utility (Option Fault)
  | 0, _ => return none
  | fuel + 1, left => do
      if left = 0 then return none
      let kind ← Act.ask (.kind descriptor)
      match ← Act.ask (.read descriptor (if p.octets then min left 1024 else 1024) false) with
      | .error e => return some e
      | .ok block => do
          if block.isEmpty then return none
          let (size, left) := if p.octets then (block.length, left - block.length)
            else firstLines p.ending block.toList left 0
          put (block.take size).toString
          if left = 0 then
            if let .file _ offset _ := kind then
              let _ ← Act.ask (.rewind descriptor (offset + size))
            return none
          else copyFront descriptor p fuel left

/-- The pieces of a text, each with the separator that ends it. -/
def piecesOf (separator : List Char) (text : List Char) : List (List Char) :=
  let rec go : Nat → List Char → List Char → List (List Char) → List (List Char)
    | 0, _, _, pieces => pieces.reverse
    | _, [], piece, pieces => (if piece.isEmpty then pieces else piece.reverse :: pieces).reverse
    | fuel + 1, c :: cs, piece, pieces =>
        if !separator.isEmpty && separator.isPrefixOf (c :: cs) then
          go fuel ((c :: cs).drop separator.length) []
            ((separator.reverseAux piece).reverse :: pieces)
        else go fuel cs (c :: piece) pieces
  go (text.length + 1) text [] []

/-- The number of octets in front of the last lines of a text; a last line without an end
counts. -/
def sizeBeforeLast (ending : Char) (count : Nat) (text : String) : Nat :=
  let lines := piecesOf [ending] text.toList
  total ((lines.take (lines.length - count)).map List.length)

/-- Write the front of an input, or all but its end. -/
def putFront (p : Portion) (descriptor : Nat) : Utility (Option Fault) := do
  if p.marked then
    match ← Act.readAll descriptor with
    | .error e => return some e
    | .ok text => do
        let size := if p.octets then text.length - p.count
          else sizeBeforeLast p.ending p.count text
        put (text.take size).toString
        return none
  else copyFront descriptor p Act.rounds p.count

/-- Write the end of an input, or all from some place on. -/
def putEnd (p : Portion) (descriptor : Nat) : Utility (Option Fault) := do
  match ← Act.readAll descriptor with
  | .error e => return some e
  | .ok text => do
      let size := match p.marked, p.octets with
        | true, true => p.count - 1
        | true, false => (firstLines p.ending text.toList (p.count - 1) 0).1
        | false, true => text.length - p.count
        | false, false => sizeBeforeLast p.ending p.count text
      put (text.drop size).toString
      return none

/-- Write a part of each of some inputs, under a heading with its name if so asked. -/
def putParts (paths : List String) (headed : Bool) (part : Nat → Utility (Option Fault)) :
    Utility Bool := do
  let (_, isDone) ← paths.foldlM (fun (isFirst, isDone) path => do
    match ← openInput path with
    | .error e => do
        complain ("cannot open " ++ quoted path ++ " for reading: " ++ e.reason)
        return (isFirst, false)
    | .ok descriptor => do
        if headed then
          put ((if isFirst then "" else "\n") ++ "==> " ++
            (if path = "-" then "standard input" else path) ++ " <==\n")
        let failure ← part descriptor
        closeInput descriptor
        if let some e := failure then
          complain ("error reading " ++ quoted path ++ ": " ++ e.reason)
        return (false, isDone && failure.isNone)) (true, true)
  return isDone

/-- The options of a utility that writes parts of its inputs. A number after a dash counts lines. -/
def partOptions (letters : String) : Utility Options := do
  let s ← get
  let args : List String := match s.args with
    | first :: rest =>
        match first.toList with
        | '-' :: c :: cs =>
            if !c.isDigit then s.args
            else
              let digits := (c :: cs).takeWhile Char.isDigit
              let flags := (c :: cs).drop digits.length
              let letter := if flags.contains 'c' then "-c" else "-n"
              let flags := flags.filter (· ≠ 'c')
              let flags := if flags.isEmpty then [] else [String.ofList ('-' :: flags)]
              letter :: String.ofList digits :: flags ++ rest
        | _ => s.args
    | [] => []
  set { s with args := args }
  options
    { letters := letters
      names := [("bytes", 'c'), ("lines", 'n'), ("quiet", 'q'), ("silent", 'q'),
        ("verbose", 'v'), ("zero-terminated", 'z'), ("follow", 'f')] }

/-- Whether parts are written under headings. -/
def isHeaded (o : Options) : Bool :=
  match o.last? ['q', 'v'] with
  | some c => c = 'v'
  | none => 1 < o.operands.length

def portionOf (o : Options) (sign : Char) (isIgnored : Char → Bool) : Utility Portion := do
  let ending := if o.has 'z' then '\x00' else '\n'
  match o.last? ['c', 'n'] with
  | some letter => portion ((o.value? letter).getD "") sign isIgnored (letter = 'c') ending
  | none => return { ending := ending }

/-- Write the first part of inputs. -/
def head : Utility Nat := do
  let o ← partOptions "c:n:qvz"
  let p ← portionOf o '-' (· = '+')
  return statusOf (← putParts o.inputs (isHeaded o) (putFront p))

def waitForever : Nat → Utility Unit
  | 0 => return
  | fuel + 1 => do
      Act.ask (.sleep 1000000000)
      waitForever fuel

/-- Write the last part of inputs. -/
def tail : Utility Nat := do
  let o ← partOptions "c:n:qvzfFs:"
  let p ← portionOf o '+' (· = '-')
  let isDone ← putParts o.inputs (isHeaded o) (putEnd p)
  if o.has 'f' || o.has 'F' then waitForever Act.rounds
  return statusOf isDone

/-! ## Inputs turned round -/

/-- Write the lines of inputs, the last one first. -/
def tac : Utility Nat := do
  let o ← options
    { letters := "brs:", names := [("before", 'b'), ("regex", 'r'), ("separator", 's')] }
  let separator := ((o.value? 's').getD "\n").toList
  return statusOf (← forAll o.inputs fun path => do
    match ← openInput path with
    | .error e => do
        complain ("failed to open " ++ quoted path ++ " for reading: " ++ e.reason)
        return false
    | .ok descriptor => do
        match ← Act.readAll descriptor with
        | .error _ => do
            complain (path ++ ": read error: Invalid argument")
            return false
        | .ok text => do
            closeInput descriptor
            let pieces := piecesOf separator text.toList
            put (String.ofList pieces.reverse.flatten)
            return true)

/-- Write the lines of inputs with their characters turned round. -/
def rev : Utility Nat := do
  let o ← options { letters := "" }
  return statusOf (← forAll o.inputs fun path => do
    match ← contents path with
    | .error e => do
        complain ("cannot open " ++ path ++ ": " ++ e.reason)
        return false
    | .ok text => do
        let (lines, isEnded) := linesOf (Octets.decode text)
        let lines := lines.map fun line => Octets.encode (String.ofList line.toList.reverse)
        put (Text.join "\n" lines ++ (if isEnded && !lines.isEmpty then "\n" else ""))
        return true)

end ScaffoldRunner.Utility
