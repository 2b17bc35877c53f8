import ScaffoldRunner.Utility.Copying

/-!
# Counting lines

`wc` counts the lines, words and octets of its inputs, and `nl` numbers their lines.
-/

namespace ScaffoldRunner.Utility

structure Counts where
  lines : Nat := 0
  words : Nat := 0
  octets : Nat := 0
  /-- The length of the longest line. -/
  longest : Nat := 0
  column : Nat := 0
  inWord : Bool := false

namespace Counts

def count (n : Counts) (c : Char) : Counts :=
  let n := { n with octets := n.octets + 1 }
  let ended (n : Counts) : Counts :=
    { n with longest := max n.longest n.column, column := 0, inWord := false }
  match c with
  | '\n' => ended { n with lines := n.lines + 1 }
  | '\r' | '\x0c' => ended n
  | '\t' => { n with column := n.column + (8 - n.column % 8), inWord := false }
  | ' ' => { n with column := n.column + 1, inWord := false }
  | '\x0b' => { n with inWord := false }
  | c =>
      if ' ' ≤ c && c ≤ '~' then
        { n with
          words := if n.inWord then n.words else n.words + 1
          column := n.column + 1
          inWord := true }
      else n

/-- The counts of a whole input after its last character. -/
def finish (n : Counts) : Counts := { n with longest := max n.longest n.column }

/-- The counts of two inputs together. -/
def add (a b : Counts) : Counts :=
  { lines := a.lines + b.lines
    words := a.words + b.words
    octets := a.octets + b.octets
    longest := max a.longest b.longest }

end Counts

def wc : Utility Nat := do
  let o ← options
    { letters := "lwcmL"
      names := [("bytes", 'c'), ("chars", 'm'), ("lines", 'l'), ("words", 'w'),
        ("max-line-length", 'L')] }
  let all := !(o.given.any fun e => "lwcmL".toList.contains e.1)
  let shown (n : Counts) : List Nat :=
    (if all || o.has 'l' then [n.lines] else []) ++ (if all || o.has 'w' then [n.words] else []) ++
      (if o.has 'm' then [n.octets] else []) ++ (if all || o.has 'c' then [n.octets] else []) ++
      (if o.has 'L' then [n.longest] else [])
  let files ← Act.files
  let s ← get
  /- Numbers are as wide as those of the sizes of all files together, or of seven digits. -/
  let sizes ← o.inputs.mapM fun path => do
    if path = "-" then
      match ← Act.ask (.kind 0) with
      | .file place _ _ =>
          return match files.get? place with
            | some (.file bytes _) => some (some bytes.size)
            | _ => some none
      | _ => return some none
    else
      let special : Bool := match locate files s path with
        | .ok ("dev" :: _) => true
        | _ => false
      return match ← lookup path with
        | .ok (.file bytes _) => if special then some none else some (some bytes.size)
        | .ok .dir => some none
        | .error _ => none
  let known := sizes.filterMap id
  let size := (toString (total (known.filterMap id))).length
  let width := if o.inputs.length = 1 && (shown {}).length = 1 then 1
    else if known.any Option.isNone then max size 7
    else size
  let line (n : Counts) (name : String) : String :=
    let numbers := (shown n).map fun k =>
      let digits := toString k
      String.ofList (List.replicate (width - digits.length) ' ') ++ digits
    Text.join " " numbers ++ (if name = "" then "" else " " ++ name) ++ "\n"
  let (sum, isDone) ← o.inputs.foldlM (fun ((sum : Counts), isDone) path => do
    match ← openInput path with
    | .error e => do
        complain (path ++ ": " ++ e.reason)
        return (sum, false)
    | .ok descriptor => do
        let step (n : Counts) (block : String) : Counts × String := (block.foldl Counts.count n, "")
        match ← copyBlocks descriptor step Act.rounds {} with
        | .ok n => do
            closeInput descriptor
            put (line n.finish (if path = "-" && o.operands.isEmpty then "" else path))
            return (sum.add n.finish, isDone)
        | .error e => do
            complain (path ++ ": " ++ e.reason)
            put (line {} path)
            return (sum, false)) (({} : Counts), true)
  if 1 < o.operands.length then put (line sum "total")
  return statusOf isDone

/-! ## Numbering -/

structure Numbering where
  style : String
  format : String
  width : Nat
  separator : String
  start : Int
  step : Int

namespace Numbering

/-- A number in its place in front of a line. -/
def number (m : Numbering) (n : Int) : String :=
  let digits := toString n.natAbs
  let sign := if n < 0 then "-" else ""
  let fill (c : Char) : String :=
    String.ofList (List.replicate (m.width - digits.length - sign.length) c)
  match m.format with
  | "ln" => sign ++ digits ++ fill ' '
  | "rz" => sign ++ fill '0' ++ digits
  | _ => fill ' ' ++ sign ++ digits

def numbered (m : Numbering) (n : Int) (line : String) (_ : Bool) : Reading Int :=
  let isNumbered := m.style = "a" || (m.style = "t" && line ≠ "")
  if isNumbered then
    { state := n + m.step, output := [m.number n ++ m.separator ++ line ++ "\n"] }
  else
    let blank := String.ofList (List.replicate (m.width + m.separator.length) ' ')
    { state := n, output := [blank ++ line ++ "\n"] }

end Numbering

/-- Write inputs with their lines numbered. -/
def nl : Utility Nat := do
  let o ← options
    { letters := "b:d:f:h:i:l:n:ps:v:w:"
      names := [("body-numbering", 'b'), ("number-format", 'n'), ("number-separator", 's'),
        ("starting-line-number", 'v'), ("line-increment", 'i'), ("number-width", 'w')] }
  let m : Numbering :=
    { style := (o.value? 'b').getD "t"
      format := (o.value? 'n').getD "rn"
      width := ((o.value? 'w').bind String.toNat?).getD 6
      separator := (o.value? 's').getD "\t"
      start := ((o.value? 'v').bind String.toInt?).getD 1
      step := ((o.value? 'i').bind String.toInt?).getD 1 }
  let (_, isDone) ← o.inputs.foldlM (fun (n, isDone) path => do
    match ← openInput path with
    | .error e => do
        complain (path ++ ": " ++ e.reason)
        return (n, false)
    | .ok descriptor => do
        let (n, _) ← eachLine descriptor m.numbered Act.rounds [] n
        closeInput descriptor
        return (n, isDone)) (m.start, true)
  return statusOf isDone

end ScaffoldRunner.Utility
