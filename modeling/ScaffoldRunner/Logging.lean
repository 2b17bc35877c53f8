import ScaffoldRunner.Data.Dict
import ScaffoldRunner.Pattern.PlainSyntax
import ScaffoldRunner.Text.Basic
import ScaffoldRunner.Text.Search
import ScaffoldRunner.Text.Utf8

/-!
# Choices of logging

The format and the level of the log are chosen by words in any letter case; an unknown word
chooses the default. A filter, which takes the place of the level, is a list of directives; the
one whose target fits best decides about a line.
-/

namespace ScaffoldRunner

/-- The form of a log line. -/
inductive LogFormat where
  | json
  | pretty
  | compact
  deriving DecidableEq, Repr

/-- How much is logged, the least first. -/
inductive LogLevel where
  | error
  | warn
  | info
  | debug
  | trace
  deriving DecidableEq, Repr

namespace LogFormat

def name : LogFormat → String
  | json => "Json"
  | pretty => "Pretty"
  | compact => "Compact"

def choose (word : String) : LogFormat :=
  let word := String.ofList (Text.lower word.toList)
  if word = "json" then json else if word = "pretty" then pretty else compact

end LogFormat

namespace LogLevel

def name : LogLevel → String
  | error => "ERROR"
  | warn => "WARN"
  | info => "INFO"
  | debug => "DEBUG"
  | trace => "TRACE"

/-- All levels, the one that logs least first. -/
def all : List LogLevel := [error, warn, info, debug, trace]

def choose (word : String) : LogLevel :=
  let word := String.ofList (Text.upper word.toList)
  (all.find? fun level => level.name == word).getD info

/-- Whether a log of one level shows lines of another one. -/
def shows (level line : LogLevel) : Bool := all.idxOf line ≤ all.idxOf level

end LogLevel

/-- A part of a filter: up to which level lines are shown, or that none are. It may ask for lines
of targets that start with a text, for lines inside of a span, and for lines with some fields,
which may have to have values. -/
structure LogDirective where
  target : Option String := none
  span : Option String := none
  fields : List (String × Option String) := []
  level : Option LogLevel := some .trace

namespace LogDirective

/-- The level that a word or a number in a directive stands for. -/
def level? (word : String) : Option (Option LogLevel) :=
  let word := String.ofList (Text.lowerAscii word.toList)
  let digits := ((Text.afterPrefix? ['+'] word.toList).getD word.toList)
  let number? := if digits.all Char.isDigit then (String.ofList digits).toNat? else none
  if word = "off" ∨ number? = some 0 then some none
  else
    let numbered := LogLevel.all.zipIdx 1
    (numbered.find? fun (level, number) =>
      String.ofList (Text.lowerAscii level.name.toList) = word || number? = some number).map
      fun (level, _) => some level

/-- What is being read of a directive, and the byte at which it has started. -/
inductive ReadingPart where
  | start
  | word (first : Nat)
  | span (first : Nat)
  | field (first : Nat)
  | fields
  | target
  | level (first : Nat)

/-- A field, with the value behind an equals sign, which is a pattern. -/
def field? (text : String) : Option (String × Option String) :=
  match Text.split '=' text with
  | [] => none
  | [name] => if name = "" then none else some (name, none)
  | name :: value :: _ =>
      match Pattern.Plain.rewrite value.toList with
      | .ok _ => some (name, some value)
      | .error _ => none

/-- Go on reading at a character, which is the byte `i` of the text. -/
def readChar? (slice : Nat → Nat → String) (d : LogDirective) (part : ReadingPart) (i : Nat)
    (c : Char) : Option (LogDirective × ReadingPart) :=
  match part, c with
  | .start, '[' => some (d, .span (i + 1))
  | .start, c =>
      if c = '-' ∨ c = ':' ∨ c = '_' ∨ Unicode.Property.alphanumeric.has c then some (d, .word i)
      else none
  | .word first, '=' => some ({ d with target := some (slice first i) }, .level (i + 1))
  | .word first, '[' => some ({ d with target := some (slice first i) }, .span (i + 1))
  | .span first, ']' => some ({ d with span := some (slice first i) }, .target)
  | .span first, '{' =>
      let span := slice first i
      some ({ d with span := if span = "" then none else some span }, .field (i + 1))
  | .field first, '}' =>
      (field? (slice first i)).map fun f => ({ d with fields := d.fields ++ [f] }, .fields)
  | .fields, ']' => some (d, .target)
  | .target, '=' => some (d, .level (i + 1))
  | .fields, _ | .target, _ => none
  | part, _ => some (d, part)

/-- Read a directive: a level, a target, a span with fields between brackets, or several of them.
Blanks at the ends are passed over, but the places are counted from behind those in front. -/
def read? (text : String) : Option LogDirective := do
  let bytes := text.toUTF8
  let slice (first stop : Nat) : String := Text.ofBytesLossy (bytes.extract first stop)
  let (_, read?) := (Text.trim text).toList.foldl (fun (i, read?) c =>
    (i + c.utf8Size, read?.bind fun (d, part) => readChar? slice d part i c))
    (0, some (({} : LogDirective), ReadingPart.start))
  let (d, part) ← read?
  match part with
  | .word first =>
      let word := slice first bytes.size
      match level? word with
      | some level => return { d with level := level }
      | none => return { d with target := some word }
  | .level first =>
      let word := slice first bytes.size
      if word = "" then return d else return { d with level := ← level? word }
  | .target => return d
  | _ => none

/-- The directives of a filter. A filter without any shows errors. -/
def readAll (text : String) : List LogDirective :=
  let found := ((Text.split ',' text).filter (· ≠ "")).filterMap read?
  if found.isEmpty then [{ level := some .error }] else found

/-- Whether a directive is about lines of a target that have some fields and are in no span. -/
def fits (d : LogDirective) (target : String) (fields : List String) : Bool :=
  d.span.isNone && (Text.afterPrefix? (d.target.getD "").toList target.toList).isSome &&
    d.fields.all fun (name, value) => value.isNone && fields.contains name

/-- The directive that is more specific, by its target and then by its fields; of two equal ones
the second. -/
def moreSpecific (d e : LogDirective) : LogDirective :=
  let key (d : LogDirective) : Nat × Nat := ((d.target.getD "").length, d.fields.length)
  if (key e).1 < (key d).1 ∨ ((key e).1 = (key d).1 ∧ (key e).2 < (key d).2) then d else e

/-- Whether directives show a line of a target with some fields: the most specific directive that
fits decides. -/
def shows (directives : List LogDirective) (target : String) (fields : List String)
    (line : LogLevel) : Bool :=
  match directives.filter fun d => d.fits target fields with
  | [] => false
  | d :: ds => ((ds.foldl moreSpecific d).level).any fun level => level.shows line

end LogDirective

structure LogSettings where
  format : LogFormat
  directives : List LogDirective

namespace LogSettings

/-- The target of the lines of the program itself. -/
def target : String := "octospine"

/-- The settings that an environment makes. Without a level there, the program may be asked to
say more. -/
def ofEnvironment (environment : Dict String) (verbose : Bool) : LogSettings :=
  let level := match environment.get? "LOG_LEVEL" with
    | some word => LogLevel.choose word
    | none => if verbose then .debug else .info
  { format := LogFormat.choose ((environment.get? "LOG_FORMAT").getD "compact")
    directives := match environment.get? "RUST_LOG" with
      | some text => LogDirective.readAll text
      | none => [{ level := some level }] }

/-- Whether a line of the program is shown. -/
def shows (settings : LogSettings) (line : LogLevel) : Bool :=
  LogDirective.shows settings.directives target ["message"] line

end LogSettings

end ScaffoldRunner
