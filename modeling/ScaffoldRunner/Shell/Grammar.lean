import ScaffoldRunner.Shell.Tokens

/-!
# Reading commands

The grammar of commands: lists of pipelines, compound commands, function definitions and simple
commands. A script is read one complete command at a time.
-/

namespace ScaffoldRunner.Shell

namespace Parse

/-- Read a token, with some things looked out for. -/
def take (g : Grammar) (look : Lookout := {}) : Parse Token := token g rounds look

/-- Read a token that must be a certain keyword. -/
def expectKeyword (g : Grammar) (name : String) (look : Lookout := {}) : Parse Unit := do
  if !(← take g look).isKeyword name then unexpected (some (.keyword name))

/-- Read a list of commands that has at least one, unless the script ends; then what should come
after the list is missing. -/
def body (g : Grammar) : Parse Command := do
  return (← g.list .filled).getD (.simple 0 [] [] [])

def redirectTarget (g : Grammar) (descriptor : Nat) (kind : Option RedirectKind)
    (stripsTabs : Bool) : Parse Redirect := do
  match ← take g { documentEnd := kind.isNone } with
  | .word parts quoted =>
      match kind with
      | some kind => return .file kind descriptor parts
      | none => do
          let r ← get
          let document : AwaitedDocument :=
            { index := r.documents.size, ending := Word.text parts, stripsTabs := stripsTabs
              expands := !quoted }
          set { r with
            awaited := r.awaited ++ [document]
            documents := r.documents.push [] }
          return .document descriptor document.index (!quoted)
  | _ => unexpected

/-- Read redirections after a command, where keywords are known only to the first token. -/
def redirects (g : Grammar) : Nat → Lookout → List Redirect → Parse (List Redirect)
  | 0, _, found => return found.reverse
  | fuel + 1, look, found => do
      match ← take g look with
      | .redirection descriptor kind stripsTabs =>
          redirects g fuel {} ((← redirectTarget g descriptor kind stripsTabs) :: found)
      | _ => do
          pushBack
          return found.reverse

/-- A simple command that is being read, with everything in reverse order. -/
structure SimpleState where
  assignments : List Word := []
  words : List Word := []
  redirects : List Redirect := []

/-- Read a simple command or the definition of a function. -/
def simple (g : Grammar) (command : Parse Command) (line : Nat) :
    Nat → SimpleState → Parse Command
  | 0, _ => unexpected
  | fuel + 1, s => do
      let finished : Parse Command := do
        pushBack
        return .simple line s.assignments.reverse s.words.reverse s.redirects.reverse
      match ← take g { aliases := s.words.isEmpty } with
      | .word parts _ =>
          if s.words.isEmpty && (Word.assignment? parts).isSome then
            simple g command line fuel { s with assignments := parts :: s.assignments }
          else simple g command line fuel { s with words := parts :: s.words }
      | .redirection descriptor kind stripsTabs => do
          let redirect ← redirectTarget g descriptor kind stripsTabs
          simple g command line fuel { s with redirects := redirect :: s.redirects }
      | .opening =>
          match s.words, s.assignments, s.redirects with
          | [word], [], [] => do
              match ← take g with
              | .closing => do
                  let name := (Word.plainText? word).getD ""
                  if !isName name || specialBuiltins.contains name then fail "Bad function name"
                  let token ← take g .commandBelow
                  modify fun r => { r with last := token }
                  pushBack
                  let start := (← get).line
                  return .define start name (← command)
              | _ => unexpected (some .closing)
          | _, _, _ => finished
      | _ => finished

/-- Read what follows the condition and the commands of a branch. -/
def branches (g : Grammar) : Nat → Parse (Option Command)
  | 0 => return none
  | fuel + 1 => do
      match ← take g with
      | .keyword "elif" => do
          let condition ← body g
          expectKeyword g "then"
          let inner ← body g
          return some (.branch condition inner (← branches g fuel))
      | .keyword "else" => return some (← body g)
      | _ => do
          pushBack
          return none

/-- Read words up to another token. -/
def wordList (g : Grammar) : Nat → List Word → Parse (List Word)
  | 0, words => return words.reverse
  | fuel + 1, words => do
      match ← take g with
      | .word parts _ => wordList g fuel (parts :: words)
      | _ => return words.reverse

/-- Read a loop over words. -/
def eachLoop (g : Grammar) (line : Nat) : Parse Command := do
  let name ← match ← take g with
    | .word parts false =>
        match Word.plainText? parts with
        | some name => if isName name then pure name else fail "Bad for loop variable"
        | none => fail "Bad for loop variable"
    | _ => fail "Bad for loop variable"
  let words ← match ← take g .commandBelow with
    | .keyword "in" => do
        let words ← wordList g rounds []
        match (← get).last with
        | .newline | .semicolon => pure words
        | _ => unexpected
    | .semicolon => pure [[.mark, .parameter "@" .value [], .mark]]
    | _ => do
        pushBack
        pure [[.mark, .parameter "@" .value [], .mark]]
  expectKeyword g "do" .commandBelow
  return .each line name words (← body g)

/-- A token as a word; other tokens are passed over. -/
def wordOf (token : Token) : Word :=
  match token with
  | .word parts _ => parts
  | .keyword name => [.plain name]
  | _ => []

/-- Read the patterns of an arm from their first token on. -/
def patterns (g : Grammar) : Nat → Token → List Word → Parse (List Word)
  | 0, _, found => return found.reverse
  | fuel + 1, token, found => do
      let found := wordOf token :: found
      match ← take g with
      | .pipe => patterns g fuel (← take g) found
      | .closing => return found.reverse
      | _ => unexpected (some .closing)

/-- Read the arms of a selection. -/
def arms (g : Grammar) : Nat → List (List Word × Option Command) →
    Parse (List (List Word × Option Command))
  | 0, found => return found.reverse
  | fuel + 1, found => do
      let look : Lookout := { skipsLines := true, keywords := true }
      let first ← take g look
      if first.isKeyword "esac" then return found.reverse
      else do
        let first ← match first with
          | .opening => take g
          | token => pure token
        let patterns ← patterns g rounds first []
        let body ← g.list .any
        let found := (patterns, body) :: found
        match ← take g look with
        | .endOfArm => arms g fuel found
        | token =>
            if token.isKeyword "esac" then return found.reverse else unexpected (some .endOfArm)

def selection (g : Grammar) (line : Nat) : Parse Command := do
  match ← take g with
  | .word subject _ => do
      expectKeyword g "in" .commandBelow
      return .select line subject (← arms g rounds [])
  | _ => unexpected (some (.word [] false))

/-- Put the redirections that follow a compound command around it. -/
def withRedirects (g : Grammar) (line : Nat) (command : Command) : Parse Command := do
  match ← redirects g rounds .command [], command with
  | [], command => return command
  | rs, .subshell line body _ => return .subshell line body rs
  | rs, command => return .redirected line command rs

def command (g : Grammar) : Nat → Parse Command
  | 0 => unexpected
  | fuel + 1 => do
      let line := (← get).line
      let closed (name : String) (command : Command) : Parse Command := do
        expectKeyword g name
        withRedirects g line command
      match ← take g with
      | .keyword "if" => do
          let condition ← body g
          expectKeyword g "then"
          let inner ← body g
          closed "fi" (.branch condition inner (← branches g rounds))
      | .keyword "while" => do
          let condition ← body g
          expectKeyword g "do"
          closed "done" (.loop false condition (← body g))
      | .keyword "until" => do
          let condition ← body g
          expectKeyword g "do"
          closed "done" (.loop true condition (← body g))
      | .keyword "for" => do closed "done" (← eachLoop g line)
      | .keyword "case" => do withRedirects g line (← selection g line)
      | .keyword "\x7b" => do closed "\x7d" (← body g)
      | .opening => do
          let inner ← body g
          match ← take g with
          | .closing => withRedirects g line (.subshell line inner [])
          | _ => unexpected (some .closing)
      | .word _ _ | .redirection _ _ _ => do
          pushBack
          simple g (command g fuel) (← get).line rounds {}
      | _ => unexpected

def pipelineRest (g : Grammar) : Nat → List Command → Parse (List Command)
  | 0, commands => return commands.reverse
  | fuel + 1, commands => do
      match ← take g with
      | .pipe => do
          let token ← take g .commandBelow
          modify fun r => { r with last := token }
          pushBack
          pipelineRest g fuel ((← command g rounds) :: commands)
      | _ => do
          pushBack
          return commands.reverse

/-- Read a pipeline, whose first token has been looked at. -/
def pipeline (g : Grammar) (look : Lookout) : Parse Command := do
  let first ← take g look
  let negated := first.isKeyword "!"
  if negated then
    let _ ← take g .command
  pushBack
  let head ← command g rounds
  let whole : Command := match ← pipelineRest g rounds [head] with
    | [one] => one
    | many => .pipeline many false
  return if negated then .negated whole else whole

/-- Read pipelines that depend on the ones before them. -/
def chain (g : Grammar) : Nat → Command → Parse Command
  | 0, first => return first
  | fuel + 1, first => do
      match ← take g with
      | .andThen => do chain g fuel (.both first (← pipeline g .commandBelow))
      | .orElse => do chain g fuel (.either first (← pipeline g .commandBelow))
      | _ => do
          pushBack
          return first

def inBackground (command : Command) : Command :=
  match command with
  | .pipeline commands _ => .pipeline commands true
  | .redirected line body redirects => .background line body redirects
  | command => .background 0 command []

/-- Read a list of commands after some that were read already. -/
def listFrom (g : Grammar) (kind : ListKind) : Nat → Option Command → Parse (Option Command)
  | 0, found => return found
  | fuel + 1, found => do
      let byLine := kind = .line
      let first ← take g (if byLine then .command else .commandBelow)
      match first with
      | .newline => do
          readDocuments g
          return found
      | .endOfFile => do
          readDocuments g
          modify fun r => { r with last := .endOfFile, again := true }
          return found
      | first => do
          pushBack
          if !byLine && (kind = .any || found.isSome) && first.endsList then return found
          else do
            let command ← chain g rounds (← pipeline g {})
            let token ← take g
            let command := match token with
              | .background => inBackground command
              | _ => command
            let found : Command := match found with
              | none => command
              | some before => .sequence before command
            match token with
            | .endOfFile => do
                readDocuments g
                modify fun r => { r with last := .endOfFile, again := true }
                return some found
            | .newline => do
                pushBack
                listFrom g kind fuel (some found)
            | .background | .semicolon => listFrom g kind fuel (some found)
            | _ =>
                if byLine then unexpected
                else do
                  pushBack
                  return some found

end Parse

namespace Grammar

/-- The grammar with words that hold commands, up to some depth. -/
def upTo : Nat → Grammar
  | 0 => { list := fun _ => Parse.unexpected, token := Parse.unexpected }
  | depth + 1 =>
      { list := fun kind => Parse.listFrom (upTo depth) kind Parse.rounds none
        token := fun reader => Parse.take (upTo depth) {} reader }

def whole : Grammar := upTo Parse.rounds

end Grammar

/-- What comes of reading a command. -/
inductive Parsed where
  | command (command : Command)
  /-- There is an empty line. -/
  | nothing
  | ended

/-- Read a complete command. -/
def Parse.complete : Parse Parsed := do
  modify fun r => { r with again := false, awaited := [] }
  match ← Grammar.whole.list .line with
  | some command => return .command command
  | none => return if (← get).again then .ended else .nothing

end ScaffoldRunner.Shell
