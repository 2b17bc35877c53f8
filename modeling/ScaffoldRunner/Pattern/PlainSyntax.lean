import ScaffoldRunner.Unicode.Property

/-!
# The plain grammar of patterns

The plain grammar has no ways to look around or to refer back, and it is strict: all escapes have
a meaning, braces hold bounds, brackets are closed. A pattern that is plain is rewritten so that
its classes for digits, blanks and words mean few characters, whatever a wider grammar makes of
them; a pattern that goes beyond the plain grammar in its first fault is left as it is; any other
one is refused.
-/

namespace ScaffoldRunner.Pattern.Plain

/-- Why a text is no plain pattern. -/
inductive Fault where
  /-- It looks around or refers back. -/
  | beyond
  | unreadable

inductive Escape where
  | char (c : Char)
  | edge
  /-- A class, with what takes its place. -/
  | few (text : List Char)
  | property

/-- The texts of the classes for digits, blanks and words. -/
def fewChars : List (Char × String) :=
  [('d', "0-9"), ('s', " \t\n\r\u000b\u000c\u00a0\ufeff\u2003\u2029"), ('w', "A-Za-z0-9_")]

/-- The characters that have a meaning in patterns. -/
def marks : List Char := "\\.+*?()|[]\x7b\x7d^$#&-~".toList

/-- Whether a character may have a backslash in front and stands for itself then. -/
def isEscapable (c : Char) : Bool :=
  marks.contains c || (c.toNat < 128 && !c.isAlphanum && c ≠ '<' && c ≠ '>')

/-- The value of a hexadecimal digit. -/
def hexDigit? (c : Char) : Option Nat :=
  if c.isDigit then some (c.toNat - '0'.toNat)
  else if 'a' ≤ c ∧ c ≤ 'f' then some (c.toNat - 'a'.toNat + 10)
  else if 'A' ≤ c ∧ c ≤ 'F' then some (c.toNat - 'A'.toNat + 10)
  else none

/-- The character with a code point in hexadecimal digits. -/
def hexChar? (ds : List Char) : Option Char := do
  if ds.isEmpty then none
  else
    let n ← ds.foldlM (fun n d => do return n * 16 + (← hexDigit? d)) 0
    if n.isValidChar then some (Char.ofNat n) else none

/-- A code point behind its mark: some digits, or any number of them in braces. -/
def hexEscape? (digits : Nat) (cs : List Char) : Option (Char × List Char) :=
  match cs with
  | '{' :: cs =>
      let ds := cs.takeWhile (· ≠ '}')
      match cs.drop ds.length with
      | _ :: rest => (hexChar? ds).map fun c => (c, rest)
      | [] => none
  | cs =>
      let ds := cs.take digits
      if ds.length < digits then none else (hexChar? ds).map fun c => (c, cs.drop digits)

/-- What follows the name of a property. -/
def afterProperty? (cs : List Char) : Option (List Char) :=
  match cs with
  | '{' :: cs =>
      match cs.dropWhile (· ≠ '}') with
      | _ :: rest => some rest
      | [] => none
  | c :: rest => if c = '\\' then none else some rest
  | [] => none

/-- Read an escape behind its backslash. -/
def escape? (cs : List Char) : Except Fault (Escape × List Char) :=
  let orUnreadable {α : Type} : Option α → Except Fault α
    | some a => .ok a
    | none => .error .unreadable
  match cs with
  | [] => .error .unreadable
  | c :: rest =>
      if c.isDigit then .error .beyond
      else if isEscapable c then .ok (.char c, rest)
      else
        match c with
        | 'x' => orUnreadable ((hexEscape? 2 rest).map fun (c, rest) => (.char c, rest))
        | 'u' => orUnreadable ((hexEscape? 4 rest).map fun (c, rest) => (.char c, rest))
        | 'U' => orUnreadable ((hexEscape? 8 rest).map fun (c, rest) => (.char c, rest))
        | 'p' | 'P' => orUnreadable ((afterProperty? rest).map fun rest => (.property, rest))
        | 'a' => .ok (.char '\x07', rest)
        | 'f' => .ok (.char '\x0c', rest)
        | 't' => .ok (.char '\t', rest)
        | 'n' => .ok (.char '\n', rest)
        | 'r' => .ok (.char '\r', rest)
        | 'v' => .ok (.char '\x0b', rest)
        | 'b' =>
            if rest.head? = some '{' then .error .unreadable else .ok (.edge, rest)
        | 'A' | 'z' | 'B' | '<' | '>' => .ok (.edge, rest)
        | c =>
            match fewChars.find? fun e => e.1 = c.toLower with
            | some (_, text) =>
                let mark := if c.isUpper then ['^'] else []
                .ok (.few ('[' :: mark ++ text.toList ++ [']']), rest)
            | none => .error .unreadable

/-- The control character that `\c` and a letter stand for, if the text starts with that. -/
def control? : List Char → Option (Char × List Char)
  | '\\' :: 'c' :: letter :: rest =>
      if letter.isAlpha then some (Char.ofNat (letter.toNat % 32), rest) else none
  | _ => none

/-- Drop blanks and comments, where they do not count. -/
def dropSpace (spaced : Bool) : Nat → List Char → List Char
  | 0, cs => cs
  | fuel + 1, cs =>
      if !spaced then cs
      else
        match cs with
        | '#' :: rest => dropSpace spaced fuel (rest.dropWhile (· ≠ '\n'))
        | c :: rest => if Text.isBlank c then dropSpace spaced fuel rest else cs
        | [] => []

/-- Drop blanks and comments, where they do not count. -/
def skipSpace (spaced : Bool) (cs : List Char) : List Char := dropSpace spaced (cs.length + 1) cs

/-- What stands between two places of a text, given what follows each. -/
def between (cs rest : List Char) : List Char := cs.take (cs.length - rest.length)

/-- Read an item of a set between brackets: its character, if it is one, and its text. -/
def classItem? (cs : List Char) : Except Fault (Option Char × List Char × List Char) := do
  match cs with
  | [] => .error .unreadable
  | '\\' :: after =>
      match control? cs with
      | some (c, rest) => return (some c, [c], rest)
      | none =>
          match ← escape? after with
          | (.char c, rest) => return (some c, between cs rest, rest)
          | (.few text, rest) => return (none, text, rest)
          | (.property, rest) => return (none, between cs rest, rest)
          | (.edge, _) => .error .unreadable
  | c :: rest => return (some c, [c], rest)

/-- The length of a named set, after its opening bracket. -/
def namedLength? (cs : List Char) : Option Nat := do
  let ':' :: cs := cs | none
  let (front, cs) := match cs with
    | '^' :: cs => (2, cs)
    | cs => (1, cs)
  let name := cs.takeWhile (· ≠ ':')
  let ':' :: ']' :: _ := cs.drop name.length | none
  if ["alnum", "alpha", "ascii", "blank", "cntrl", "digit", "graph", "lower", "print", "punct",
    "space", "upper", "word", "xdigit"].contains (String.ofList name) then
    some (front + name.length + 2)
  else none

/-- What stands in front of a set and has no other meaning there. -/
def classFront (spaced : Bool) (cs : List Char) : List Char × List Char :=
  let skip := skipSpace spaced
  let cs := skip cs
  let (mark, cs) := match cs with
    | '^' :: cs => (['^'], skip cs)
    | cs => ([], cs)
  let hyphens := cs.takeWhile (· = '-')
  let cs := if hyphens.isEmpty then cs else skip (cs.drop hyphens.length)
  match hyphens, cs with
  | [], ']' :: cs => (mark ++ [']'], cs)
  | hyphens, cs => (mark ++ hyphens, cs)

/-- Read sets up to the end of the outermost one; `depth` sets are open. -/
def classBody? (spaced : Bool) : Nat → Nat → List Char → List Char →
    Except Fault (List Char × List Char)
  | 0, _, _, _ => .error .unreadable
  | fuel + 1, depth, out, cs => do
      match skipSpace spaced cs with
      | [] => .error .unreadable
      | ']' :: rest =>
          if depth ≤ 1 then return (out ++ [']'], rest)
          else classBody? spaced fuel (depth - 1) (out ++ [']']) rest
      | '[' :: rest =>
          match namedLength? rest with
          | some n => classBody? spaced fuel depth (out ++ '[' :: rest.take n) (rest.drop n)
          | none =>
              let (front, rest) := classFront spaced rest
              classBody? spaced fuel (depth + 1) (out ++ '[' :: front) rest
      | '&' :: '&' :: rest => classBody? spaced fuel depth (out ++ ['&', '&']) rest
      | '-' :: '-' :: rest => classBody? spaced fuel depth (out ++ ['-', '-']) rest
      | '~' :: '~' :: rest => classBody? spaced fuel depth (out ++ ['~', '~']) rest
      | cs =>
          let (low, text, rest) ← classItem? cs
          match skipSpace spaced rest with
          | [] => .error .unreadable
          | '-' :: after =>
              match skipSpace spaced after with
              | [] => .error .unreadable
              | ']' :: _ | '-' :: _ => classBody? spaced fuel depth (out ++ text) ('-' :: after)
              | after =>
                  let (high, highText, rest) ← classItem? after
                  match low, high with
                  | some a, some b =>
                      if a ≤ b then
                        classBody? spaced fuel depth (out ++ text ++ '-' :: highText) rest
                      else .error .unreadable
                  | _, _ => .error .unreadable
          | rest => classBody? spaced fuel depth (out ++ text) rest

/-- Read a set after its opening bracket; the answer is its text. -/
def class? (spaced : Bool) (cs : List Char) : Except Fault (List Char × List Char) := do
  let (front, rest) := classFront spaced cs
  if rest.isEmpty then .error .unreadable
  else classBody? spaced (cs.length + 1) 1 ('[' :: front) rest

/-- A number between blanks. -/
def count? (cs : List Char) : Option (Nat × List Char) :=
  let cs := cs.dropWhile Text.isBlank
  let ds := cs.takeWhile Char.isDigit
  let n := ds.foldl (fun n d => n * 10 + (d.toNat - '0'.toNat)) 0
  if ds.isEmpty || 0xFFFFFFFF < n then none
  else some (n, (cs.drop ds.length).dropWhile Text.isBlank)

/-- What follows bounds, after their opening brace. -/
def afterBounds? (cs : List Char) : Option (List Char) := do
  let (least, cs) ← count? cs
  match cs with
  | '}' :: rest => some rest
  | ',' :: cs =>
      match cs with
      | '}' :: rest => some rest
      | cs =>
          let (most, cs) ← count? cs
          match cs with
          | '}' :: rest => if least ≤ most then some rest else none
          | _ => none
  | _ => none

/-- The name of a group up to its closing angle. -/
def groupName? (cs : List Char) : Option (List Char × List Char) :=
  let isMark (c : Char) : Bool := c = '_' || c = '.' || c = '[' || c = ']'
  let name := cs.takeWhile (· ≠ '>')
  match cs.drop name.length, name with
  | _ :: rest, c :: more =>
      if (c = '_' || Unicode.Property.alphabetic.has c) &&
          more.all fun c => isMark c || Unicode.Property.alphanumeric.has c then
        some (name, rest)
      else none
  | _, _ => none

/-- The flags up to a colon or a closing parenthesis: whether blanks are to count, if the flags
say so, whether there are any flags, and what follows. -/
def flags? : Option Bool → List Char → List Char → Option (Option Bool × Bool × List Char)
  | _, _, [] => none
  | spaced, seen, c :: rest =>
      if c = ':' ∨ c = ')' then
        if seen.head? = some '-' then none else some (spaced, !seen.isEmpty, c :: rest)
      else if seen.contains c ∨ !"imsUuRx-".toList.contains c then none
      else flags? (if c = 'x' then some !(seen.contains '-') else spaced) (c :: seen) rest

/-- What is known while a pattern is read. -/
structure Reading where
  /-- Whether blanks do not count. -/
  spaced : Bool := false
  /-- Whether blanks did not count before each open group. -/
  groups : List Bool := []
  names : List (List Char) := []
  /-- Whether there is something to repeat. -/
  target : Bool := false
  /-- The text of the pattern so far, in reverse order. -/
  out : List Char := []

namespace Reading

def emit (r : Reading) (text : List Char) (target : Bool) : Reading :=
  { r with out := text.reverse ++ r.out, target := target }

def openGroup (r : Reading) (spaced : Bool) (text : List Char) : Reading :=
  { r with groups := r.spaced :: r.groups, spaced := spaced }.emit text false

/-- Read the start of a group after its parenthesis. -/
def group? (r : Reading) (cs : List Char) : Except Fault (Reading × List Char) :=
  let inner := skipSpace r.spaced cs
  let named (name? : Option (List Char × List Char)) : Except Fault (Reading × List Char) :=
    match name? with
    | some (name, rest) =>
        if r.names.contains name then .error .unreadable
        else
          .ok ({ r with names := name :: r.names }.openGroup r.spaced ('(' :: between cs rest),
            rest)
    | none => .error .unreadable
  match inner with
  | '?' :: '=' :: _ | '?' :: '!' :: _ | '?' :: '<' :: '=' :: _ | '?' :: '<' :: '!' :: _ =>
      .error .beyond
  | '?' :: 'P' :: '<' :: rest | '?' :: '<' :: rest => named (groupName? rest)
  | '?' :: rest =>
      match flags? none [] rest with
      | some (spaced, _, ':' :: rest) =>
          .ok (r.openGroup (spaced.getD r.spaced) ('(' :: between cs rest), rest)
      | some (spaced, true, _ :: rest) =>
          .ok ({ r with spaced := spaced.getD r.spaced }.emit ('(' :: between cs rest) false, rest)
      | _ => .error .unreadable
  | _ => .ok (r.openGroup r.spaced ('(' :: between cs inner), inner)

end Reading

/-- Read a pattern to its end; the answer is its text with other classes. -/
def read : Nat → Reading → List Char → Except Fault (List Char)
  | 0, _, _ => .error .unreadable
  | fuel + 1, r, cs => do
      let rest := skipSpace r.spaced cs
      let r := { r with out := (between cs rest).reverse ++ r.out }
      match rest with
      | [] => if r.groups.isEmpty then return r.out.reverse else .error .unreadable
      | '(' :: rest =>
          let (r, rest) ← r.group? rest
          read fuel r rest
      | ')' :: rest =>
          match r.groups with
          | spaced :: groups =>
              read fuel ({ r with spaced := spaced, groups := groups }.emit [')'] true) rest
          | [] => .error .unreadable
      | '|' :: rest => read fuel (r.emit ['|'] false) rest
      | '[' :: rest =>
          let (text, rest) ← class? r.spaced rest
          read fuel (r.emit text true) rest
      | '{' :: rest =>
          match r.target, afterBounds? rest with
          | true, some after => read fuel (r.emit ('{' :: between rest after) true) after
          | _, _ => .error .unreadable
      | '\\' :: rest =>
          match control? ('\\' :: rest) with
          | some (c, rest) => read fuel r (c :: rest)
          | none =>
              match ← escape? rest with
              | (.few text, after) => read fuel (r.emit text true) after
              | (_, after) =>
                  if rest.head? = some 'a' then .error .unreadable
                  else read fuel (r.emit ('\\' :: between rest after) true) after
      | c :: rest =>
          if c = '?' ∨ c = '*' ∨ c = '+' then
            if !r.target then .error .unreadable
            else
              match rest with
              | '?' :: rest => read fuel (r.emit [c, '?'] true) rest
              | rest => read fuel (r.emit [c] true) rest
          else read fuel (r.emit [c] true) rest

/-- The text of a plain pattern with other classes. -/
def rewrite (text : List Char) : Except Fault (List Char) :=
  read (2 * text.length + 1) {} text

end ScaffoldRunner.Pattern.Plain
