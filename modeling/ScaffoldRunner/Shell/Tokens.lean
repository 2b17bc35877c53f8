import ScaffoldRunner.Shell.Words

/-!
# Reading tokens

Tokens are operators, redirections and words. Whether a word is looked up among the keywords and
the aliases depends on where it stands.
-/

namespace ScaffoldRunner.Shell

/-- What is looked for when a token is read. -/
structure Lookout where
  /-- Pass over the ends of lines. -/
  skipsLines : Bool := false
  keywords : Bool := false
  aliases : Bool := false
  /-- The word ends a document, so that nothing in it is expanded. -/
  documentEnd : Bool := false

namespace Lookout

def command : Lookout := { keywords := true, aliases := true }

/-- At the start of a command, after any number of lines. -/
def commandBelow : Lookout := { skipsLines := true, keywords := true, aliases := true }

end Lookout

namespace Parse

def skipComment : Parse Unit := modify fun r => { r with rest := r.rest.dropWhile (· ≠ '\n') }

/-- Read the operator after the descriptor of a redirection. -/
def redirection (descriptor : Option Nat) (c : Char) : Parse Token := do
  let second ← nextJoined
  let made (default : Nat) (kind : RedirectKind) : Parse Token :=
    return .redirection (descriptor.getD default) (some kind) false
  if c = '>' then
    match second with
    | some '>' => made 1 .append
    | some '|' => made 1 .clobber
    | some '&' => made 1 .copy
    | other => do
        back other
        made 1 .write
  else
    match second with
    | some '<' => do
        let third ← nextJoined
        if third ≠ some '-' then back third
        return .redirection (descriptor.getD 0) none (third = some '-')
    | some '&' => made 0 .copy
    | some '>' => made 0 .both
    | other => do
        back other
        made 0 .read

/-- Read a word or a redirection. -/
def wordToken (g : Grammar) (look : Lookout) (c : Option Char) : Parse Token := do
  let start : WordState := { layer := { quoting := .bare } }
  let (w, after) ← wordFrom g none look.documentEnd rounds start c
  checkClosed false w
  match after, w.parts, w.hasQuotes with
  | some '<', [], false => redirection none '<'
  | some '>', [], false => redirection none '>'
  | _, parts, hasQuotes => do
      let digit : Option Nat := match parts with
        | [.plain text] =>
            match text.toList with
            | [d] => if d.isDigit then some (d.toNat - '0'.toNat) else none
            | _ => none
        | _ => none
      match after, digit, hasQuotes with
      | some '<', some n, false => redirection (some n) '<'
      | some '>', some n, false => redirection (some n) '>'
      | _, _, _ => do
          back after
          return .word parts.reverse hasQuotes

def doubled (sign : Char) (single double : Token) : Parse Token := do
  let second ← nextJoined
  if second = some sign then return double
  else do
    back second
    return single

def freshToken (g : Grammar) (look : Lookout) : Nat → Parse Token
  | 0 => return .endOfFile
  | fuel + 1 => do
      match ← nextJoined with
      | none => return .endOfFile
      | some c =>
          if c = ' ' || c = '\t' then freshToken g look fuel
          else if c = '#' then do
            skipComment
            freshToken g look fuel
          else if c = '\n' then do
            countLine
            return .newline
          else if c = '&' then doubled '&' .background .andThen
          else if c = '|' then doubled '|' .pipe .orElse
          else if c = ';' then doubled ';' .semicolon .endOfArm
          else if c = '(' then return .opening
          else if c = ')' then return .closing
          else wordToken g look (some c)

/-- The last token, if it is to be read again, or else a new one. -/
def nextToken (g : Grammar) (look : Lookout) : Parse Token := do
  let r ← get
  if r.again then
    set { r with again := false }
    return r.last
  else do
    let token ← freshToken g look rounds
    modify fun r => { r with last := token }
    return token

/-- The lines up to the one that ends a document, in which nothing is expanded. -/
def plainDocument (document : DocumentEnd) : Nat → List Char → Parse (List Char)
  | 0, text => return text.reverse
  | fuel + 1, text => do
      let r ← get
      if r.rest.isEmpty then return text.reverse
      else
        match afterDocument? document r.rest with
        | some rest => do
            set { r with rest := rest, line := r.line + 1 }
            return text.reverse
        | none => do
            let body := if document.stripsTabs then r.rest.dropWhile (· = '\t') else r.rest
            let line := body.takeWhile (· ≠ '\n')
            let rest := body.drop line.length
            set { r with rest := rest.drop 1, line := if rest.isEmpty then r.line else r.line + 1 }
            let text := line.reverseAux text
            plainDocument document fuel (if rest.isEmpty then text else '\n' :: text)

/-- Read the documents whose lines come now. -/
def readDocuments (g : Grammar) : Parse Unit := do
  let awaited := (← get).awaited
  modify fun r => { r with awaited := [] }
  for document in awaited do
    let ending : DocumentEnd := ⟨document.ending.toList, document.stripsTabs⟩
    let body ← if document.expands then do
        let start : WordState := { layer := { quoting := .double, isDouble := true } }
        let first ← lineStart (some ending) (← nextJoined)
        let (w, _) ← wordFrom g (some ending) false rounds start first
        checkClosed true w
        pure w.parts.reverse
      else do
        let text ← plainDocument ending rounds []
        pure [Part.quoted (String.ofList text)]
    modify fun r => { r with documents := r.documents.setIfInBounds document.index body }

/-- Pass over the ends of lines, and read the documents that come after them. -/
def skipNewlines (g : Grammar) (look : Lookout) : Nat → Token → Parse Token
  | 0, token => return token
  | fuel + 1, token =>
      match token with
      | .newline => do
          readDocuments g
          skipNewlines g look fuel (← nextToken g {})
      | token => return token

/-- The text of an alias, if a word is one that is not being read already. -/
def alias? (r : Reader) (name : String) : Option String :=
  let left := r.rest.length
  if r.activeAliases.any fun e => e.1 = name && e.2 < left then none else r.aliases.get? name

/-- Whether the token that was read stands where the text of an alias has asked for another. -/
def asksForAlias : Parse Bool := do
  let r ← get
  if r.aliasFrom.isEmpty then return false
  let size := r.rest.length
  set { r with aliasFrom := r.aliasFrom.filter fun left => left ≤ size }
  return r.aliasFrom.any fun left => size < left

/-- Read a token, with keywords and aliases looked up. -/
def token (g : Grammar) : Nat → Lookout → Parse Token
  | 0, _ => return .endOfFile
  | fuel + 1, look => do
      let first ← nextToken g look
      let found ← if look.skipsLines then skipNewlines g look rounds first else pure first
      modify fun r => { r with last := found }
      let asks ← asksForAlias
      match found with
      | .word parts false =>
          match Word.plainText? parts with
          | none => return found
          | some text => do
              if look.keywords && Token.keywords.contains text then
                let keyword := Token.keyword text
                modify fun r => { r with last := keyword }
                return keyword
              else do
                let r ← get
                if r.aliases.isEmpty then return found
                else if !(look.aliases || asks) then return found
                else
                  match alias? r text with
                  | none => return found
                  | some value => do
                      let left := r.rest.length
                      let again := value.toList.getLast?.any fun c => c = ' ' || c = '\t'
                      set { r with
                        rest := value.toList ++ r.rest
                        activeAliases := (text, left) :: r.activeAliases
                        aliasFrom := if again then (left + 1) :: r.aliasFrom else r.aliasFrom }
                      token g fuel { look with aliases := true }
      | found => return found

end Parse

end ScaffoldRunner.Shell
