import ScaffoldRunner.Shell.Reader

/-!
# Reading words

A word is read character by character. What a character means depends on the quotes and expansions
that are open: each `Layer` holds one kind of quoting and counts what was opened within it. The
parts of an expansion that is still open are gathered in a frame of their own.
-/

namespace ScaffoldRunner.Shell

inductive Quoting where
  | bare
  | double
  | single
  | arithmetic
  deriving DecidableEq

/-- One kind of quoting, and what is open within it. -/
structure Layer where
  quoting : Quoting
  /-- Whether expansions here are quoted. -/
  isDouble : Bool := false
  /-- How many braces are open, and how many of them in quotes. -/
  braces : Nat := 0
  quotedBraces : Nat := 0
  /-- Whether quotes are open within braces. -/
  innerQuotes : Bool := false
  parentheses : Nat := 0
  /-- Whether the layer goes with its last brace. -/
  isBrace : Bool := false

/-- An expansion that is being read. -/
inductive Opened where
  | parameter (name : String) (use : Use)
  | arithmetic

/-- A word that is being read. -/
structure WordState where
  layer : Layer
  outer : List Layer := []
  /-- The parts that were read, the last one first. -/
  parts : List Part := []
  /-- The expansions that are open, each with the parts in front of it. -/
  frames : List (Opened × List Part) := []
  hasQuotes : Bool := false

/-- The document that a word is read for. -/
structure DocumentEnd where
  ending : List Char
  stripsTabs : Bool

/-- The mark around commands whose output is meant. -/
def backquote : Char := Char.ofNat 96

/-- Whether a character may have a meaning in a pattern, so that quotes matter to it. -/
def isPatternChar (c : Char) : Bool := "!*?[=~:/-]".toList.contains c

/-- Whether a character ends a word that is not quoted. -/
def isMeta (c : Char) : Bool := "<>();&| \t".toList.contains c

/-- Whether a character names a parameter of its own. -/
def isSpecialParameter (c : Char) : Bool := "!#$*-?@".toList.contains c || c.isDigit

namespace WordState

/-- Add plain text. -/
def plain (w : WordState) (c : Char) : WordState :=
  match w.parts with
  | .plain text :: rest => { w with parts := .plain (text.push c) :: rest }
  | parts => { w with parts := .plain (String.singleton c) :: parts }

/-- Add a character that is quoted for itself. -/
def quoted (w : WordState) (c : Char) : WordState :=
  match w.parts with
  | .quoted text :: rest => { w with parts := .quoted (text.push c) :: rest }
  | parts => { w with parts := .quoted (String.singleton c) :: parts }

def add (w : WordState) (part : Part) : WordState := { w with parts := part :: w.parts }

/-- Note that quotes begin or end here; a document has no such marks. -/
def mark (w : WordState) (inDocument : Bool) : WordState :=
  if inDocument then w else w.add .mark

def opened (w : WordState) (what : Opened) : WordState :=
  { w with frames := (what, w.parts) :: w.frames, parts := [] }

/-- Close the last expansion. -/
def closed (w : WordState) : WordState :=
  match w.frames with
  | [] => w
  | (what, before) :: frames =>
      let inner := w.parts.reverse
      let part : Part := match what with
        | .parameter name use => .parameter name use inner
        | .arithmetic => .arithmetic inner
      { w with frames := frames, parts := part :: before }

/-- Lay another kind of quoting over the present one. -/
def push (w : WordState) (layer : Layer) : WordState :=
  { w with layer := layer, outer := w.layer :: w.outer }

/-- Go back to the kind of quoting before. -/
def pop (w : WordState) : WordState :=
  match w.outer with
  | [] => w
  | layer :: outer => { w with layer := layer, outer := outer }

/-- Change the quotes within braces. -/
def toggleInner (w : WordState) (inDocument : Bool) : WordState :=
  let layer := w.layer
  let layer := if layer.braces = 0 then layer
    else { layer with innerQuotes := !layer.innerQuotes }
  { w with layer := layer }.mark inDocument

/-- Close a brace, or take it for text. -/
def closeBrace (w : WordState) : WordState :=
  let layer := w.layer
  if layer.innerQuotes || layer.braces = 0 then w.plain '}'
  else
    let left := layer.braces - 1
    let w := if left = 0 && layer.isBrace then { w with layer := { layer with braces := left } }.pop
      else { w with layer := { layer with
        braces := left, quotedBraces := layer.quotedBraces - 1 } }
    w.closed

end WordState

namespace Parse

/-- The next character, where lines are joined except between single quotes. -/
def nextIn (layer : Layer) : Parse (Option Char) :=
  if layer.quoting = .single then next else nextJoined

/-- Characters of a name, or of a number. -/
def nameChars (test : Char → Bool) : Nat → List Char → Option Char →
    Parse (String × Option Char)
  | 0, name, c => return (String.ofList name.reverse, c)
  | fuel + 1, name, c =>
      match c with
      | some d =>
          if test d then do nameChars test fuel (d :: name) (← nextJoined)
          else return (String.ofList name.reverse, c)
      | none => return (String.ofList name.reverse, none)

/-- The operator of an expansion in braces, from its first character on, and whether what follows
is read without regard to quotes around the expansion. -/
def operator (c : Option Char) : Parse (Use × Bool) := do
  let plainUse (strict : Bool) (c : Option Char) : Use :=
    match c with
    | some '}' => if strict then .bad else .value
    | some '-' => .orElse strict
    | some '+' => .instead strict
    | some '?' => .orFail strict
    | some '=' => .orAssign strict
    | _ => .bad
  match c with
  | some ':' => return (plainUse true (← nextJoined), false)
  | some '%' | some '#' => do
      let front := c = some '#'
      let again ← nextJoined
      if again = c then return (.cut front true, true)
      else
        back again
        return (.cut front false, true)
  | c => return (plainUse false c, false)

/-- The parameter and the use of an expansion in braces. -/
def braced : Parse (String × Use × Bool) := do
  let number := Char.isDigit
  let named (c : Option Char) : Parse (Option (String × Option Char)) := do
    match c with
    | some d =>
        if isNameStart d then return some (← nameChars isNameChar rounds [] c)
        else if d.isDigit then return some (← nameChars number rounds [] c)
        else return none
    | none => return none
  let used (name : String) (c : Option Char) : Parse (String × Use × Bool) := do
    let (use, bare) ← operator c
    return (name, use, bare)
  let bad (c : Option Char) : Parse (String × Use × Bool) := do
    back c
    return ("", .bad, false)
  let measured (name : String) (c : Option Char) : Parse (String × Use × Bool) := do
    back c
    return (name, if c = some '}' then .length else .bad, false)
  let first ← nextJoined
  match ← named first with
  | some (name, c) => used name c
  | none =>
      match first with
      | none | some '}' => bad first
      | some sign => do
          let c ← nextJoined
          let single (c : Option Char) : Parse (String × Use × Bool) :=
            if isSpecialParameter sign then used (String.singleton sign) c else bad c
          if sign ≠ '#' then single c
          else
            match c with
            | none => single c
            | some d =>
                if d = '_' || d.isAlphanum then
                  match ← named c with
                  | some (name, c) => measured name c
                  | none => bad c
                else do
                  let after ← nextJoined
                  if d = '}' || after ≠ some '}' then
                    back after
                    single c
                  else if isSpecialParameter d then measured (String.singleton d) after
                  else bad after

/-- The text up to a closing backquote; a backslash keeps its meaning but in front of some
characters. -/
def backquoted (isDouble : Bool) : Nat → List Char → Parse (List Char)
  | 0, text => return text.reverse
  | fuel + 1, text => do
      match ← nextJoined with
      | none => fail "EOF in backquote substitution"
      | some c =>
          if c = backquote then return text.reverse
          else if c = '\\' then do
            match ← next with
            | none => fail "EOF in backquote substitution"
            | some d =>
                let isKnown := d = '\\' || d = backquote || d = '$' || (isDouble && d = '"')
                backquoted isDouble fuel (d :: if isKnown then text else '\\' :: text)
          else do
            if c = '\n' then countLine
            backquoted isDouble fuel (c :: text)

/-- Read commands from a text of their own. -/
def fromText (g : Grammar) (text : List Char) : Parse (Option Command) := do
  let outer ← get
  set { outer with rest := text, line := 1, again := false, awaited := [] }
  let body ← g.list .any
  modify fun r => { outer with documents := r.documents }
  return body

/-- The output of commands that follow. -/
def outputOf (g : Grammar) : Parse Part := do
  let awaited := (← get).awaited
  modify fun r => { r with awaited := [] }
  let body ← g.list .any
  match ← g.token with
  | .closing =>
      modify fun r => { r with awaited := awaited }
      return .output body
  | _ => unexpected (some .closing)

/-- Read what follows a dollar sign. -/
def dollar (g : Grammar) (w : WordState) : Parse WordState := do
  let c ← nextJoined
  match c with
  | none => return w.plain '$'
  | some '(' => do
      let second ← nextJoined
      if second = some '(' then
        return (w.opened .arithmetic).push { quoting := .arithmetic, isDouble := true }
      else do
        back second
        return w.add (← outputOf g)
  | some '{' => do
      let (name, use, bare) ← braced
      if use = .value then return w.add (.parameter name .value [])
      else
        let layer := w.layer
        let within : Quoting := if bare then .bare
          else if layer.quoting = .arithmetic then .double
          else layer.quoting
        let w := w.opened (.parameter name use)
        let w := if within ≠ layer.quoting || layer.innerQuotes then
            w.push { quoting := within, isDouble := within ≠ .bare, isBrace := true }
          else w
        let layer := w.layer
        return { w with layer := { layer with
          braces := layer.braces + 1
          quotedBraces := if layer.isDouble then layer.quotedBraces + 1
            else layer.quotedBraces } }
  | some d =>
      if isNameStart d then do
        let (name, c) ← nameChars isNameChar rounds [] c
        back c
        return w.add (.parameter name .value [])
      else if isSpecialParameter d then return w.add (.parameter (String.singleton d) .value [])
      else do
        back c
        return w.plain '$'

/-- Whether the line that starts here ends a document; if so, the characters after it. -/
def afterDocument? (document : DocumentEnd) (cs : List Char) : Option (List Char) :=
  let line := if document.stripsTabs then cs.dropWhile (· = '\t') else cs
  if document.ending.isPrefixOf line then
    match line.drop document.ending.length with
    | [] => some []
    | '\n' :: rest => some rest
    | _ => none
  else none

/-- The first character of a line, unless the line ends the document being read. -/
def lineStart (document : Option DocumentEnd) (c : Option Char) : Parse (Option Char) := do
  match document, c with
  | some document, some c => do
      let r ← get
      match afterDocument? document (c :: r.rest) with
      | some rest =>
          set { r with rest := rest, line := r.line + 1 }
          return none
      | none =>
          if document.stripsTabs && c = '\t' then
            set { r with rest := r.rest.dropWhile (· = '\t') }
            next
          else return some c
  | _, c => return c

/-- Read a word from its first character on; the answer is the word and the character after
it. -/
def wordFrom (g : Grammar) (document : Option DocumentEnd)
    (literalDollar : Bool) : Nat → WordState → Option Char → Parse (WordState × Option Char)
  | 0, w, c => return (w, c)
  | fuel + 1, w, c => do
      let inDocument := document.isSome
      let layer := w.layer
      let goOn (w : WordState) : Parse (WordState × Option Char) := do
        wordFrom g document literalDollar fuel w (← nextIn w.layer)
      match c with
      | none => return (w, none)
      | some '\n' =>
          if layer.quoting = .bare && layer.braces = 0 then return (w, c)
          else do
            countLine
            let start ← lineStart document (← next)
            wordFrom g document literalDollar fuel (w.plain '\n') start
      | some c =>
          match layer.quoting with
          | .single =>
              if c = '\'' then
                goOn ({ w with
                  layer := if layer.quotedBraces = 0 then
                    { layer with quoting := .bare, isDouble := false } else layer
                  hasQuotes := true }.mark inDocument)
              else goOn (w.quoted c)
          | quoting =>
              if c = '\\' then do
                match ← next with
                | none => goOn (w.quoted '\\')
                | some d =>
                    let isKnown := d = '\\' || d = backquote || d = '$' ||
                      (d = '"' && !(inDocument && layer.braces = 0)) ||
                      (d = '}' && layer.braces ≠ 0)
                    let w := if layer.isDouble && !isKnown then w.quoted '\\' else w
                    goOn { w.quoted d with hasQuotes := true }
              else if c = '$' then do
                if literalDollar then goOn (w.plain '$') else goOn (← dollar g w)
              else if c = backquote then do
                if literalDollar then goOn (w.plain c)
                else do
                  let text ← backquoted layer.isDouble rounds []
                  goOn (w.add (.output (← fromText g text)))
              else if c = '}' then goOn w.closeBrace
              else
                match quoting with
                | .bare =>
                    if c = '\'' then
                      goOn ({ w with layer := { layer with quoting := .single } }.mark inDocument)
                    else if c = '"' then
                      goOn ({ w with layer := { layer with
                        quoting := .double, isDouble := true } }.toggleInner inDocument)
                    else if isMeta c && layer.braces = 0 then return (w, some c)
                    else goOn (w.plain c)
                | .double =>
                    if c = '"' then
                      if inDocument && layer.braces = 0 then goOn (w.plain c)
                      else
                        let layer := if layer.quotedBraces = 0 then
                          { layer with quoting := .bare, isDouble := false } else layer
                        goOn ({ w with layer := layer, hasQuotes := true }.toggleInner inDocument)
                    else goOn (if isPatternChar c then w.quoted c else w.plain c)
                | _ =>
                    if c = '(' then
                      goOn ({ w with layer := { layer with
                        parentheses := layer.parentheses + 1 } }.plain c)
                    else if c = ')' then
                      if layer.parentheses ≠ 0 then
                        goOn ({ w with layer := { layer with
                          parentheses := layer.parentheses - 1 } }.plain c)
                      else do
                        let second ← nextJoined
                        if second = some ')' then goOn w.pop.closed
                        else do
                          back second
                          goOn (w.plain c)
                    else goOn (w.plain c)

/-- Check that nothing is left open at the end of a word. -/
def checkClosed (inDocument : Bool) (w : WordState) : Parse Unit := do
  if w.layer.quoting = .arithmetic then fail "Missing '))'"
  else if w.layer.quoting ≠ .bare && !inDocument then fail "Unterminated quoted string"
  else if w.layer.braces ≠ 0 then fail "Missing '\x7d'"

end Parse

end ScaffoldRunner.Shell
