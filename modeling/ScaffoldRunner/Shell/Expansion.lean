import ScaffoldRunner.Shell.Arithmetic
import ScaffoldRunner.Shell.Fields
import ScaffoldRunner.Shell.State
import ScaffoldRunner.System.Setting

/-!
# Expansion of words

What words stand for: the values of parameters, the output of commands and the values of
arithmetic expressions are put in, and what comes out is cut into fields or kept as one text.
-/

namespace ScaffoldRunner.Shell

/-- Where a tilde at the start of a path stands for a home directory. -/
inductive TildePlace where
  | nowhere
  /-- At the start of the word. -/
  | start
  /-- In the value of an assignment, also after a colon. -/
  | value
  /-- In an assignment, after the sign. -/
  | assignment
  deriving DecidableEq

structure Manner where
  /-- Whether parameters become fields of their own. -/
  splits : Bool := false
  /-- Whether all of the word stands in quotes. -/
  quoted : Bool := false
  /-- Whether the word stands in place of a value, so that even its text is cut. -/
  replaces : Bool := false
  tilde : TildePlace := .nowhere

/-- How a command is run. -/
structure Care where
  /-- Somebody looks at whether it fails. -/
  tested : Bool := false
  /-- The process has nothing else to do. -/
  isLast : Bool := false

/-- What the parts of a shell that run commands and expand words need of each other. -/
structure Evaluator where
  run : Care → Command → Sh Unit
  expand : Manner → Word → Sh (List Piece)
  load : Loader

namespace Expansion

/-- The letters of the options, in the order in which they are told. -/
def optionLetters : List Char :=
  ['p', 'u', 'b', 'a', 'C', 'E', 'V', 'v', 'x', 's', 'n', 'm', 'i', 'I', 'f', 'e']

/-- The parameters as one text. -/
def joined (s : State) (manner : Manner) (quoted : Bool) (name : String) : String :=
  let first := (s.separators.head?.map String.singleton).getD ""
  let between : String :=
    if manner.splits && (!quoted || name = "@") then String.singleton parameterEnd
    else first
  between.intercalate s.params

/-- The value of a parameter; `none` when it is not set. -/
def value? (s : State) (manner : Manner) (quoted : Bool) (name : String) : Option String :=
  match name with
  | "?" => some (toString s.status)
  | "#" => some (toString s.params.length)
  | "$" => some (toString s.processId)
  | "-" => some (String.ofList (optionLetters.filter s.has))
  | "!" => s.lastBackground.map toString
  | "@" | "*" => some (joined s manner quoted name)
  | name =>
      if name.toList.head?.any Char.isDigit then
        match name.toNat?.getD 0 with
        | 0 => some s.name
        | n + 1 => s.params[n]?
      else s.var? name

/-- The home directory that a name stands for; no name stands for the own one. -/
def home? (s : State) (name : String) : Option String :=
  if name = "" then s.var? "HOME" else if name = "root" then some "/root" else none

/-- A tilde at the front of a text with the name after it, replaced by a directory. The part is
the last one of its word or not. -/
def tilde? (s : State) (inValue isLast : Bool) (cs : List Char) :
    Option (String × List Char) :=
  match cs with
  | '~' :: rest =>
      let name := rest.takeWhile fun c => c ≠ '/' && !(inValue && c = ':')
      let after := rest.drop name.length
      if after.isEmpty && !isLast then none
      else (home? s (String.ofList name)).map fun dir => (dir, after)
  | _ => none

/-- The pieces of plain text outside of quotes. -/
def plainPieces (s : State) (manner : Manner) (isFirst isLast : Bool) (text : String) :
    List Piece :=
  let inValue := manner.tilde = .value || manner.tilde = .assignment
  let literal (cs : List Char) : List Piece :=
    if cs.isEmpty then []
    else if manner.replaces then Piece.ofValue false (String.ofList cs)
    else cs.map fun c => .char c false
  let rec go : Nat → Bool → Bool → List Char → List Char → List Piece
    | 0, _, _, before, cs => literal (before.reverse ++ cs)
    | _, _, _, before, [] => literal before.reverse
    | fuel + 1, here, signed, before, c :: cs =>
        match if here then tilde? s inValue isLast (c :: cs) else none with
        | some (dir, rest) =>
            literal before.reverse ++ Piece.ofText true dir ++ go fuel false signed [] rest
        | none =>
            let isSign := c = '=' && manner.tilde = .assignment && !signed
            go fuel ((c = ':' && inValue) || isSign) (signed || isSign) (c :: before) cs
  go (text.length + 1) (isFirst && (manner.tilde = .start || manner.tilde = .value)) false []
    text.toList

def text (ev : Evaluator) (manner : Manner) (word : Word) : Sh String := do
  return Piece.text (← ev.expand manner word)

/-- Complain that a parameter has no value. -/
def unset {α : Type} (name : String) : Sh α := Sh.fail (name ++ ": parameter not set")

/-- The pieces of a value that was found for a parameter. -/
def found (s : State) (quoted : Bool) (name value : String) : List Piece :=
  if quoted && name = "@" && !s.params.isEmpty then
    .opening true :: Piece.ofText true value ++ [.closing]
  else Piece.ofValue quoted value

def parameter (ev : Evaluator) (manner : Manner) (quoted : Bool) (name : String) (use : Use)
    (word : Word) : Sh (List Piece) := do
  let s ← get
  let value := value? s manner quoted name
  let counts (strict : Bool) : Bool :=
    match value with
    | some value => !(strict && value = "")
    | none => false
  let present : List Piece := found s quoted name (value.getD "")
  let inPlace : Manner := { manner with quoted := quoted, replaces := true, tilde :=
    if manner.tilde = .assignment || manner.tilde = .value then .value else .start }
  match use with
  | .bad => Sh.fail "Bad substitution"
  | .value =>
      match value with
      | none => if s.has 'u' then unset name else return []
      | some _ => return present
  | .length =>
      match value with
      | none => if s.has 'u' then unset name else return Piece.ofValue quoted "0"
      | some value => return Piece.ofValue quoted (toString value.length)
  | .orElse strict => if counts strict then return present else ev.expand inPlace word
  | .instead strict => if counts strict then ev.expand inPlace word else return []
  | .orAssign strict =>
      if counts strict then return present
      else
        let text ← text ev { tilde := inPlace.tilde } word
        Sh.assign name text
        return found (← get) quoted name text
  | .orFail strict =>
      if counts strict then return present
      else if word.isEmpty then
        Sh.fail (name ++ ": parameter not set" ++ if strict then " or null" else "")
      else
        let text ← text ev { tilde := .start } word
        Sh.fail (name ++ ": " ++ text)
  | .cut front longest =>
      match value with
      | none => if s.has 'u' then unset name else return []
      | some value => do
          let items := Wildcard.ofField (Piece.field (← ev.expand { tilde := .start } word))
          let cut := if front then Wildcard.dropFront else Wildcard.dropBack
          return found s quoted name (String.ofList (cut longest items value.toList))

/-- Octets without what ends lines at their end. -/
def withoutLineEnds (octets : String) : String :=
  String.ofList ((octets.toList.reverse.dropWhile (· = '\n')).reverse)

def arithmetic (ev : Evaluator) (expression : Word) : Sh String := do
  let text ← text ev { quoted := true } expression
  match Arithmetic.evaluate (← get).var? text with
  | .error reason => Sh.fail reason
  | .ok (n, assigned) => do
      for (name, value) in assigned do Sh.assign name (toString value)
      return toString n

/-- How far the expansion of a word has come. -/
structure Progress where
  inQuotes : Bool := false
  isFirst : Bool := true
  /-- Whether the quotes hold nothing but the parameters, so that there may be no field. -/
  onlyParams : Bool := false
  /-- What was found, the last first. -/
  done : List (List Piece) := []

/-- Whether quotes that have just begun hold nothing but the parameters. -/
def holdsParams (parts : Word) : Bool :=
  match parts with
  | .parameter "@" .value [] :: .mark :: _ => true
  | _ => false

def pieces (ev : Evaluator) (output : Option Command → Sh String) (manner : Manner) :
    Word → Progress → Sh (List Piece)
  | [], now => return now.done.reverse.flatten
  | part :: parts, now => do
      let quoted := manner.quoted || now.inQuotes
      let found (found : List Piece) : Progress :=
        { now with done := found :: now.done, isFirst := false }
      match part with
      | .mark =>
          let onlyParams := if now.inQuotes then now.onlyParams else holdsParams parts
          let next := found (if onlyParams then [] else [.mark])
          pieces ev output manner parts
            { next with inQuotes := !now.inQuotes, onlyParams := onlyParams && !now.inQuotes }
      | .quoted text => pieces ev output manner parts (found (Piece.ofText true text))
      | .plain text => do
          let s ← get
          pieces ev output manner parts (found (if quoted then Piece.ofText true text
            else plainPieces s manner now.isFirst parts.isEmpty text))
      | .parameter name use word => do
          pieces ev output manner parts (found (← parameter ev manner quoted name use word))
      | .output body => do
          pieces ev output manner parts (found (Piece.ofValue quoted (← output body)))
      | .arithmetic expression => do
          pieces ev output manner parts (found (Piece.ofValue quoted (← arithmetic ev expression)))

/-- The fields of a word, with wildcards replaced by paths. -/
def fields (ev : Evaluator) (word : Word) : Sh (List String) := do
  let pieces ← ev.expand { splits := true, tilde := .start } word
  let s ← get
  let fields := Piece.fields s.separators none pieces
  let isWild := fields.any fun field => field.any fun (c, quoted) =>
    !quoted && (c = '*' || c = '?' || c = '[')
  if !isWild || s.has 'f' then return fields.map Field.text
  else do
    let files ← Act.files
    let place := Path.names (Octets.decode s.dir)
    return fields.flatMap (Wildcard.paths files place)

end Expansion

end ScaffoldRunner.Shell
