import ScaffoldRunner.Pattern.PosixSyntax
import ScaffoldRunner.Utility.Escape

/-!
# Editing scripts

The commands of a stream editor: each is selected by addresses and does something to the text at
hand. A script is read from its characters; what is wrong with it is told with the number of
characters that were read.
-/

namespace ScaffoldRunner.Sed

/-- A pattern with the number of its groups; none stands for the one used last. -/
abbrev Regex := Option (Pattern × Nat)

/-- Which lines are meant. -/
inductive Address where
  | line (n : Nat)
  | step (first every : Nat)
  | last
  | pattern (r : Regex)

/-- How far a range of lines goes. -/
inductive RangeEnd where
  | address (a : Address)
  | more (count : Nat)
  | multiple (n : Nat)

/-- The lines that a command is for. -/
structure Selector where
  first : Option Address := none
  stop : Option RangeEnd := none
  negated : Bool := false
  /-- The range is open before the first line. -/
  fromStart : Bool := false

/-- How the letters after some place are written. -/
inductive LetterCase where
  | upper
  | lower
  | plain
  | nextUpper
  | nextLower

/-- A part of what a match is replaced by. -/
inductive Replacement where
  | text (cs : List Char)
  | group (number : Nat)
  | letters (c : LetterCase)

structure Substitution where
  regex : Regex
  replacement : List Replacement
  all : Bool := false
  prints : Bool := false
  /-- The first match that counts. -/
  number : Nat := 1
  file : Option String := none

inductive Action where
  | openBlock (stop : Nat)
  | closeBlock
  | lineNumber
  | append (text : String)
  | insert (text : String)
  | change (text : String)
  | branch (label : String)
  | branchIf (label : String)
  | branchUnless (label : String)
  | delete
  | deleteLine
  | fileName
  | get
  | getAppend
  | hold
  | holdAppend
  | show (width : Option Nat)
  | next
  | nextAppend
  | print
  | printLine
  | quit (status : Nat) (silent : Bool)
  | readFile (path : String)
  | readLine (path : String)
  | substitute (s : Substitution)
  | writeFile (path : String)
  | writeLine (path : String)
  | exchange
  | translate (pairs : List (Char × Char))
  | zap
  | label (name : String)
  | nothing

structure Command where
  selector : Selector
  action : Action

/-- What reading depends on. -/
structure Grammar where
  extended : Bool

structure Reader where
  rest : List Char
  position : Nat := 0
  commands : Array Command := #[]
  /-- The blocks that are open. -/
  blocks : List Nat := []

/-- A step of reading; the error is what is wrong, and whether the place is told. -/
abbrev Read := EStateM String Reader

namespace Read

def next : Read (Option Char) := modifyGet fun r =>
  match r.rest with
  | [] => (none, r)
  | c :: cs => (some c, { r with rest := cs, position := r.position + 1 })

/-- Look at the next character. -/
def peek : Read (Option Char) := return (← get).rest.head?

def pass (test : Char → Bool) : Read (List Char) := modifyGet fun r =>
  let found := r.rest.takeWhile test
  (found, { r with
    rest := r.rest.drop found.length, position := r.position + found.length })

/-- Whether a character is a blank within a line. -/
def isBlank (c : Char) : Bool := c = ' ' || c = '\t' || c = '\r' || c = '\x0b' || c = '\x0c'

def skipBlanks : Read Unit := do
  let _ ← pass isBlank

def number : Read Nat := do
  let ds ← pass Char.isDigit
  return ds.foldl (fun n c => n * 10 + (c.toNat - 48)) 0

/-- The items of a set up to its closing bracket, which is passed, with the last character first. -/
def setItems? : Nat → List Char → Read (Option (List Char))
  | 0, _ => return none
  | fuel + 1, found => do
      match (← get).rest with
      | '[' :: sign :: rest =>
          if sign = ':' || sign = '.' || sign = '=' then
            let name := rest.takeWhile fun c => c ≠ sign && c ≠ '\n'
            match rest.drop name.length with
            | _ :: ']' :: _ => do
                let size := name.length + 4
                let text := (← get).rest.take size
                let _ ← (List.range size).mapM fun _ => next
                setItems? fuel (text.reverseAux found)
            | _ => do
                let _ ← pass (· ≠ '\n')
                return none
          else do
            let _ ← next
            setItems? fuel ('[' :: found)
      | ']' :: _ => do
          let _ ← next
          return some (']' :: found)
      | '\n' :: _ | [] => return none
      | c :: _ => do
          let _ ← next
          setItems? fuel (c :: found)

/-- A set behind its opening bracket, with the last character first. A closing bracket at the front
is an item. -/
def set? (found : List Char) : Read (Option (List Char)) := do
  let front := match (← get).rest with
    | '^' :: ']' :: _ => ['^', ']']
    | '^' :: _ => ['^']
    | ']' :: _ => [']']
    | _ => []
  let _ ← front.mapM fun _ => next
  setItems? ((← get).rest.length + 1) (front.reverseAux found)

/-- A text up to a delimiter, which is passed. A delimiter after a backslash belongs to the text,
without the backslash; one in a set of a pattern does, too. -/
def delimited? (delimiter : Char) (isPattern : Bool) : Nat → List Char → Read (Option (List Char))
  | 0, _ => return none
  | fuel + 1, found => do
      if isPattern && (← peek) = some '\n' then return none
      match ← next with
      | none => return none
      | some c =>
          if c = delimiter then return some found.reverse
          else if c = '[' && isPattern then
            match ← set? (c :: found) with
            | some found => delimited? delimiter isPattern fuel found
            | none => return none
          else if c = '\\' then do
            match ← next with
            | none => return none
            | some d =>
                if d = delimiter then delimited? delimiter isPattern fuel (d :: found)
                else if d = 'n' && isPattern then
                  delimited? delimiter isPattern fuel ('\n' :: found)
                else delimited? delimiter isPattern fuel (d :: '\\' :: found)
          else delimited? delimiter isPattern fuel (c :: found)

/-- The characters that letters after a backslash stand for in patterns and texts. -/
def control? (c : Char) : Option Char :=
  match c with
  | 'a' => some '\x07'
  | 'f' => some '\x0c'
  | 'n' => some '\n'
  | 'r' => some '\r'
  | 't' => some '\t'
  | 'v' => some '\x0b'
  | _ => none

/-- The character that is meant after a backslash by a letter or a number, and what follows. -/
def escape? (cs : List Char) : Option (Char × List Char) :=
  let numbered (base most : Nat) (isDigit : Char → Bool) (cs : List Char) :
      Option (Char × List Char) :=
    if (cs.head?).any isDigit then some (Escape.number base most isDigit cs) else none
  match cs with
  | 'x' :: rest => numbered 16 2 Escape.isHex rest
  | 'o' :: rest => numbered 8 3 Escape.isOctal rest
  | 'd' :: rest => numbered 10 3 Char.isDigit rest
  | 'c' :: c :: rest => some (Char.ofNat (c.toUpper.toNat ^^^ 64), rest)
  | c :: rest => (control? c).map fun d => (d, rest)
  | [] => none

/-- A pattern with its escapes for characters replaced; those in sets count, too. What they stand
for is no operator. -/
def plainPattern : Nat → List Char → List Char
  | 0, cs => cs
  | _, [] => []
  | fuel + 1, '\\' :: c :: cs =>
      match escape? (c :: cs) with
      | some (d, rest) =>
          let shown := if d = '^' || d = '\\' then ['\\', d]
            else if "$*.[]+?()\x7b|\x7d".toList.contains d then ['[', d, ']']
            else [d]
          shown ++ plainPattern fuel rest
      | none => '\\' :: c :: plainPattern fuel cs
  | fuel + 1, c :: cs => c :: plainPattern fuel cs

def regex (g : Grammar) (fold lines : Bool) (cs : List Char) : Read Regex := do
  if cs.isEmpty then return none
  else
    let cs := plainPattern (cs.length + 1) cs
    match Pattern.Posix.read { extended := g.extended, fold := fold, lines := lines } cs with
    | .ok r =>
        if r.loose.isEmpty then return some (r.pattern, r.groups)
        else throw "Invalid preceding regular expression"
    | .error e => throw e

def address? (g : Grammar) : Read (Option Address) := do
  let fromPattern (delimiter : Char) : Read (Option Address) := do
    match ← delimited? delimiter true ((← get).rest.length + 1) [] with
    | none => throw "unterminated address regex"
    | some cs => do
        let flags ← pass fun c => c = 'I' || c = 'M'
        return some (.pattern (← regex g (flags.contains 'I') (flags.contains 'M') cs))
  match ← peek with
  | some '/' => do
      let _ ← next
      fromPattern '/'
  | some '\\' => do
      let _ ← next
      match ← next with
      | some c => fromPattern c
      | none => throw "unterminated address regex"
  | some '$' => do
      let _ ← next
      return some .last
  | some c =>
      if c.isDigit then do
        let n ← number
        if (← peek) = some '~' then
          let _ ← next
          return some (.step n (← number))
        else return some (.line n)
      else return none
  | none => return none

/-- The addresses of a command. -/
def selector (g : Grammar) : Read Selector := do
  match ← address? g with
  | none => return {}
  | some first => do
      skipBlanks
      let isZero : Bool := match first with
        | .line 0 => true
        | _ => false
      if (← peek) ≠ some ',' then
        if isZero then
          let _ ← next
          throw "invalid usage of line address 0"
        return { first := some first }
      let _ ← next
      skipBlanks
      let stop : RangeEnd ← match ← peek with
        | some '+' => do
            let _ ← next
            pure (.more (← number))
        | some '~' => do
            let _ ← next
            pure (.multiple (← number))
        | _ => do
            match ← address? g with
            | some a => pure (.address a)
            | none => do
                let _ ← next
                throw "unexpected `,'"
      let byPattern : Bool := match stop with
        | .address (.pattern _) => true
        | _ => false
      if isZero && !byPattern then
        let _ ← next
        throw "invalid usage of line address 0"
      return { first := some first, stop := some stop, fromStart := isZero }

/-- The end of a command: of the line, or before another command. -/
def finish : Read Unit := do
  skipBlanks
  match ← peek with
  | none => return
  | some '\n' | some ';' => do
      let _ ← next
  | some '}' | some '#' => return
  | _ => do
      let _ ← next
      throw "extra characters after command"

/-- The text of a line, with other lines if it ends with a backslash; backslashes are dropped. -/
def textLines : Nat → List Char → Read String
  | 0, found => return String.ofList found.reverse ++ "\n"
  | fuel + 1, found => do
      match ← next with
      | none | some '\n' => return String.ofList found.reverse ++ "\n"
      | some '\\' => do
          let r ← get
          match escape? r.rest with
          | some (d, rest) => do
              set { r with
                rest := rest, position := r.position + (r.rest.length - rest.length) }
              textLines fuel (d :: found)
          | none =>
              match ← next with
              | none => return String.ofList found.reverse ++ "\n"
              | some c => textLines fuel (c :: found)
      | some c => textLines fuel (c :: found)

/-- The text that a command puts in. It stands on the lines after a backslash, or on the same
line; blanks in front of it count only after a backslash. -/
def text : Read String := do
  skipBlanks
  match ← peek with
  | none => throw "expected \\ after `a', `c' or `i'"
  | some '\\' => do
      let _ ← next
      let blanks ← pass isBlank
      match ← peek with
      | none => return ""
      | some '\n' => do
          let _ ← next
          textLines ((← get).rest.length + 1) []
      | some _ => textLines ((← get).rest.length + 1) blanks.reverse
  | some _ => textLines ((← get).rest.length + 1) []

/-- The name of a file, to the end of the line. -/
def path : Read String := do
  skipBlanks
  let cs ← pass (· ≠ '\n')
  if cs.isEmpty then throw "missing filename in r/R/w/W commands"
  let _ ← next
  return String.ofList cs

/-- A label, up to a blank or a semicolon. -/
def labelName (toLineEnd : Bool) : Read String := do
  skipBlanks
  let cs ← pass fun c => c ≠ '\n' && (toLineEnd || (c ≠ ';' && !isBlank c && c ≠ '}'))
  return String.ofList (cs.reverse.dropWhile isBlank).reverse

def replacement : Nat → List Char → List Char → List Replacement → List Replacement
  | 0, _, text, parts => (.text text.reverse :: parts).reverse
  | fuel + 1, cs, text, parts =>
      let add (part : Replacement) (rest : List Char) : List Replacement :=
        replacement fuel rest [] (part :: .text text.reverse :: parts)
      match cs with
      | [] => (.text text.reverse :: parts).reverse
      | '&' :: rest => add (.group 0) rest
      | '\\' :: c :: rest =>
          if c.isDigit then add (.group (c.toNat - 48)) rest
          else
            match c with
            | 'U' => add (.letters .upper) rest
            | 'L' => add (.letters .lower) rest
            | 'E' => add (.letters .plain) rest
            | 'u' => add (.letters .nextUpper) rest
            | 'l' => add (.letters .nextLower) rest
            | c =>
                match escape? (c :: rest) with
                | some (d, more) => replacement fuel more (d :: text) parts
                | none => replacement fuel rest (c :: text) parts
      | c :: rest => replacement fuel rest (c :: text) parts

/-- The largest group that a replacement refers to. -/
def largestGroup (parts : List Replacement) : Nat :=
  parts.foldl (fun n part => match part with
    | .group k => max n k
    | _ => n) 0

structure Flags where
  all : Bool := false
  prints : Bool := false
  number : Option Nat := none
  fold : Bool := false
  lines : Bool := false
  file : Option String := none

def flags : Nat → Flags → Read Flags
  | 0, f => return f
  | fuel + 1, f => do
      match ← peek with
      | some 'g' => do
          let _ ← next
          if f.all then throw "multiple `g' options to `s' command"
          flags fuel { f with all := true }
      | some 'p' => do
          let _ ← next
          if f.prints then throw "multiple `p' options to `s' command"
          flags fuel { f with prints := true }
      | some 'i' | some 'I' => do
          let _ ← next
          flags fuel { f with fold := true }
      | some 'm' | some 'M' => do
          let _ ← next
          flags fuel { f with lines := true }
      | some 'w' => do
          let _ ← next
          return { f with file := some (← path) }
      | some c =>
          if c.isDigit then do
            if f.number.isSome then throw "multiple number options to `s' command"
            let n ← number
            if n = 0 then throw "number option to `s' command may not be zero"
            flags fuel { f with number := some n }
          else if c = '}' || c = '#' then return f
          else if c = ';' || c = '\n' then do
            let _ ← next
            return f
          else if isBlank c then do
            let _ ← next
            flags fuel f
          else do
            let _ ← next
            throw "unknown option to `s'"
      | none => do
          let _ ← next
          return f

def substitution (g : Grammar) : Read Action := do
  let size := (← get).rest.length + 1
  match ← next with
  | none => throw "unterminated `s' command"
  | some delimiter => do
      match ← delimited? delimiter true size [] with
      | none => throw "unterminated `s' command"
      | some source => do
          match ← delimited? delimiter false size [] with
          | none => throw "unterminated `s' command"
          | some target => do
              let f ← flags size {}
              let r ← regex g f.fold f.lines source
              let parts := replacement (target.length + 1) target [] []
              let largest := largestGroup parts
              if let some (_, groups) := r then
                if groups < largest then
                  throw ("invalid reference \\" ++ toString largest ++ " on `s' command's RHS")
              return .substitute
                { regex := r, replacement := parts, all := f.all, prints := f.prints
                  number := f.number.getD 1, file := f.file }

/-- The characters of a list for translation. -/
def listed : List Char → List Char
  | '\\' :: '\\' :: cs => '\\' :: listed cs
  | '\\' :: c :: cs =>
      match control? c with
      | some d => d :: listed cs
      | none => '\\' :: c :: listed cs
  | c :: cs => c :: listed cs
  | [] => []

def translation : Read Action := do
  let size := (← get).rest.length + 1
  match ← next with
  | none => throw "unterminated `y' command"
  | some delimiter => do
      match ← delimited? delimiter false size [], ← delimited? delimiter false size [] with
      | some source, some target => do
          let source := listed source
          let target := listed target
          if source.length ≠ target.length then
            throw "strings for `y' command are different lengths"
          finish
          return .translate (source.zip target)
      | _, _ => throw "unterminated `y' command"

/-- What a command does, from its letter on. -/
def action (g : Grammar) (s : Selector) (letter : Char) : Read Action := do
  let plain (a : Action) : Read Action := do
    finish
    return a
  let status : Read Nat := do
    skipBlanks
    let n ← number
    finish
    return n
  let target : Read String := do
    let name ← labelName false
    finish
    return name
  match letter with
  | '=' => plain .lineNumber
  | 'a' => return .append (← text)
  | 'i' => return .insert (← text)
  | 'c' => return .change (← text)
  | 'b' => return .branch (← target)
  | 't' => return .branchIf (← target)
  | 'T' => return .branchUnless (← target)
  | 'd' => plain .delete
  | 'D' => plain .deleteLine
  | 'F' => plain .fileName
  | 'g' => plain .get
  | 'G' => plain .getAppend
  | 'h' => plain .hold
  | 'H' => plain .holdAppend
  | 'l' => do
      skipBlanks
      let ds ← pass Char.isDigit
      finish
      return .show (if ds.isEmpty then none
        else some (ds.foldl (fun n c => n * 10 + (c.toNat - 48)) 0))
  | 'n' => plain .next
  | 'N' => plain .nextAppend
  | 'p' => plain .print
  | 'P' => plain .printLine
  | 'q' => do
      if s.stop.isSome then throw "command only uses one address"
      return .quit (← status) false
  | 'Q' => do
      if s.stop.isSome then throw "command only uses one address"
      return .quit (← status) true
  | 'r' => return .readFile (← path)
  | 'R' => return .readLine (← path)
  | 's' => substitution g
  | 'w' => return .writeFile (← path)
  | 'W' => return .writeLine (← path)
  | 'x' => plain .exchange
  | 'y' => translation
  | 'z' => plain .zap
  | ':' => do
      if s.first.isSome then throw ": doesn't want any addresses"
      let name ← labelName false
      if name = "" then throw "\":\" lacks a label"
      finish
      return .label name
  | c => throw ("unknown command: `" ++ String.singleton c ++ "'")

def add (s : Selector) (a : Action) : Read Unit :=
  modify fun r => { r with commands := r.commands.push ⟨s, a⟩ }

/-- Pass exclamation marks. -/
def negation (s : Selector) : Read Selector := do
  skipBlanks
  if (← peek) ≠ some '!' then return s
  let _ ← next
  skipBlanks
  if (← peek) = some '!' then
    let _ ← next
    throw "multiple `!'s"
  return { s with negated := true }

def commands (g : Grammar) : Nat → Read Unit
  | 0 => return
  | fuel + 1 => do
      let _ ← pass fun c => isBlank c || c = ';' || c = '\n'
      if (← peek).isNone then
        let r ← get
        if !r.blocks.isEmpty then
          set { r with position := 0 }
          throw "unmatched `\x7b'"
        return
      let s ← negation (← selector g)
      match ← next with
      | none | some '\n' => throw "missing command"
      | some '#' => do
          if s.first.isSome then throw "comments don't accept any addresses"
          let _ ← pass (· ≠ '\n')
          commands g fuel
      | some '\x7b' => do
          modify fun r => { r with blocks := r.commands.size :: r.blocks }
          add s (.openBlock 0)
          commands g fuel
      | some '\x7d' => do
          let r ← get
          match r.blocks with
          | [] => throw "unexpected `\x7d'"
          | start :: blocks => do
              if s.first.isSome then throw "\x7d doesn't want any addresses"
              set { r with
                blocks := blocks
                commands := (r.commands.modify start fun c =>
                  { c with action := .openBlock r.commands.size }).push ⟨s, .closeBlock⟩ }
              finish
              commands g fuel
      | some letter => do
          add s (← action g s letter)
          commands g fuel

end Read

/-- Read a script; the answer is its commands, or what is wrong and after how many characters. -/
def read (g : Grammar) (script : String) : Except (String × Nat) (Array Command) :=
  match Read.commands g (script.length + 2) { rest := script.toList } with
  | .ok () r => .ok r.commands
  | .error e r => .error (e, r.position)

end ScaffoldRunner.Sed
