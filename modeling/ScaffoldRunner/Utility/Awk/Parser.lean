import ScaffoldRunner.Utility.Awk.Expressions

/-!
# Reading programs

Statements, rules and functions are read from tokens. When all has been read, it is worked out
which parameters stand for tables: those that are used as such, and those that are handed on as
such.
-/

namespace ScaffoldRunner.Awk

namespace Parse

/-- Go past the end of a statement; a closing brace ends one, too, and stays. -/
def ending : Parse Unit := do
  let t ← head
  match t.lexeme with
  | .newline => skip
  | .sign s => if s = ";" then skip else if s = "\x7d" then return else unexpected
  | _ => unexpected

def isEnding (t : Token) : Bool :=
  match t.lexeme with
  | .newline | .finish => true
  | .sign s => s = ";" || s = "\x7d"
  | _ => false

/-- Whether a token ends the arguments of an output. -/
def endsArguments (t : Token) : Bool :=
  isEnding t || isSign t ">" || isSign t ">>" || isSign t "|"

/-- A condition between parentheses, and the line ends after it. -/
def condition (fuel : Nat) : Parse Expr := do
  expect "("
  let e ← inside (expression fuel)
  skipLines fuel
  return e

/-- The arguments of an output; they may stand between parentheses. -/
def outputArguments (fuel : Nat) : Parse (List Expr) := do
  let t ← head
  if endsArguments t then return []
  let before ← get
  let enclosed : Parse (Option (List Expr)) := do
    if !isSign t "(" then return none
    skip
    let es ← inside do
      if isSign (← head) ")" then return [] else expressions fuel
    return if endsArguments (← head) then some es else none
  match ← enclosed with
  | some es => return es
  | none => do
      set { before with inPrint := true }
      expressions fuel

/-- The arguments of an output and where it goes. -/
def output (fuel : Nat) : Parse (List Expr × Option (Sink × Expr)) := do
  skip
  modify fun r => { r with inPrint := true }
  let args ← outputArguments fuel
  modify fun r => { r with inPrint := false }
  let t ← head
  let sink : Option Sink :=
    if isSign t ">" then some .file
    else if isSign t ">>" then some .append
    else if isSign t "|" then some .pipe
    else none
  match sink with
  | none => return (args, none)
  | some sink => do
      skip
      return (args, some (sink, ← expression fuel))

/-- The head of a loop through a table, if there is one: the name and the table. -/
def eachHead? : Parse (Option (Variable × Variable)) := do
  match (← get).tokens with
  | { lexeme := .name name, .. } :: w :: { lexeme := .name table, .. } :: close :: rest =>
      if isWord w "in" && isSign close ")" then do
        let v ← variableAs .scalar name
        let t ← variableAs .table table
        modify fun r => { r with tokens := rest, parens := r.parens - 1 }
        return some (v, t)
      else return none
  | _ => return none

def looped {α : Type} (read : Parse α) : Parse α := do
  modify fun r => { r with loops := r.loops + 1 }
  let a ← read
  modify fun r => { r with loops := r.loops - 1 }
  return a

mutual

def statement : Nat → Parse Statement
  | 0 => unexpected
  | fuel + 1 => do
      let t ← head
      let simple (s : Statement) : Parse Statement := do
        ending
        return s
      let bare (s : Statement) : Parse Statement := do
        skip
        simple s
      /- What a condition stands in front of; there may be nothing left of it. -/
      let governed : Parse Statement := do
        if isSign (← head) "\x7d" then return .nothing else statement fuel
      let optional (make : Option Expr → Statement) : Parse Statement := do
        skip
        if isEnding (← head) then simple (make none)
        else
          let e ← expression fuel
          simple (make (some e))
      match t.lexeme with
      | .sign s =>
          if s = "\x7b" then block fuel
          else if s = ";" then simple .nothing
          else
            let e ← expression fuel
            simple (.expression e)
      | .newline => simple .nothing
      | .word w =>
          match w with
          | "if" => do
              skip
              let e ← condition fuel
              let yes ← governed
              let no ← otherwise? fuel
              return .branch e yes no
          | "while" => do
              skip
              let e ← condition fuel
              let body ← looped governed
              return .loop true (some e) body .nothing
          | "do" => do
              skip
              let body ← looped (statement fuel)
              if !isWord (← head) "while" then unexpected
              skip
              expect "("
              let e ← inside (expression fuel)
              simple (.loop false (some e) body .nothing)
          | "for" => do
              skip
              expect "("
              modify fun r => { r with parens := r.parens + 1 }
              match ← eachHead? with
              | some (v, table) => do
                  skipLines fuel
                  let body ← looped governed
                  return .each v table body
              | none => do
                  let part (closing : String) : Parse (Option Expr) := do
                    if ← takeSign? closing then return none
                    else
                      let e ← expression fuel
                      expect closing
                      return some e
                  let first ← part ";"
                  let e ← part ";"
                  let step ← part ")"
                  modify fun r => { r with parens := r.parens - 1 }
                  skipLines fuel
                  let body ← looped governed
                  let asStatement (e : Option Expr) : Statement :=
                    (e.map Statement.expression).getD .nothing
                  return .block [asStatement first, .loop true e body (asStatement step)]
          | "print" => do
              let (args, target) ← output fuel
              simple (.print args target)
          | "printf" => do
              let (args, target) ← output fuel
              if args.isEmpty then complain "no arguments in call to printf"
              simple (.printf args target)
          | "next" => do
              if !(← get).inRule then complain "improper use of next"
              bare .next
          | "nextfile" => do
              if !(← get).inRule then complain "improper use of nextfile"
              bare .nextFile
          | "exit" => optional .leave
          | "return" => do
              if (← get).current.isNone then complain "return outside function body"
              optional .giveBack
          | "break" => do
              if (← get).loops = 0 then complain "break statement outside of loop"
              bare .stop
          | "continue" => do
              if (← get).loops = 0 then complain "continue statement outside of loop"
              bare .continue
          | "delete" => do
              skip
              let table ← tableName
              if ← takeSign? "[" then
                let keys ← expressions fuel
                expect "]"
                simple (.delete table keys)
              else simple (.clear table)
          | "getline" => do
              let e ← expression fuel
              simple (.expression e)
          | _ => unexpected
      | _ => do
          let e ← expression fuel
          simple (.expression e)

/-- What is done when a condition does not hold. -/
def otherwise? : Nat → Parse Statement
  | 0 => return .nothing
  | fuel + 1 => do
      if isWord (← head) "else" then
        skip
        statement fuel
      else return .nothing

def block : Nat → Parse Statement
  | 0 => unexpected
  | fuel + 1 => do
      expect "\x7b"
      modify fun r => { r with braces := r.braces + 1 }
      let ss ← statements fuel
      expect "\x7d"
      modify fun r => { r with braces := r.braces - 1 }
      return .block ss

/-- Statements up to a closing brace. -/
def statements : Nat → Parse (List Statement)
  | 0 => return []
  | fuel + 1 => do
      if isSign (← head) "\x7d" then return []
      let s ← statement fuel
      return s :: (← statements fuel)

end

/-! ## Rules and functions -/

def parameters : Nat → List String → Parse (List String)
  | 0, names => return names
  | fuel + 1, names => do
      match (← head).lexeme with
      | .name name => do
          if names.contains name then
            complain (name ++ " is duplicated in argument list")
          skip
          let names := names ++ [name]
          if ← takeSign? "," then parameters fuel names else return names
      | _ => unexpected

/-- Define a function, behind the word that announces it. -/
def definition (fuel : Nat) : Parse Unit := do
  let name ← match (← head).lexeme with
    | .name s | .call s => pure s
    | _ => unexpected
  let f ← function name
  if ((← get).functions.getD f default).body.isSome then complain ("redefinition of " ++ name)
  skip
  expect "("
  let names ← if ← takeSign? ")" then pure [] else do
    let names ← parameters fuel []
    expect ")"
    pure names
  skipLines fuel
  modify fun r => { r with
    current := some f
    names := names
    functions := r.functions.modify f fun function =>
      { function with own := (names.map fun _ => Use.unknown).toArray } }
  let body ← block fuel
  modify fun r => { r with
    current := none
    names := []
    functions := r.functions.modify f fun function => { function with body := some body } }

/-- Read rules and functions up to the end. -/
def rules (size : Nat) : Nat → Script → Parse Script
  | 0, s => return s
  | fuel + 1, s => do
      let t ← head
      let behindBlock : Parse Unit := do
        let _ ← takeSign? ";"
        return
      let only (add : Statement → Script) : Parse Script := do
        skip
        let body ← block size
        behindBlock
        rules size fuel (add body)
      match t.lexeme with
      | .finish => return s
      | .newline => do
          skip
          rules size fuel s
      | .word "function" => do
          skip
          definition size
          behindBlock
          rules size fuel s
      | .word "BEGIN" => only fun body => { s with begins := s.begins.push body }
      | .word "END" => only fun body => { s with ends := s.ends.push body }
      | _ => do
          modify fun r => { r with inRule := true }
          let guard : Guard ← if isSign t "\x7b" then pure .always else do
            let e ← expression size
            if ← takeSign? "," then
              let last ← expression size
              let index := (← get).ranges
              modify fun r => { r with ranges := index + 1 }
              pure (.range index e last)
            else pure (.condition e)
          if isSign (← head) "\x7b" then
            let body ← block size
            modify fun r => { r with inRule := false }
            behindBlock
            rules size fuel { s with rules := s.rules.push ⟨guard, body⟩ }
          else
            ending
            modify fun r => { r with inRule := false }
            rules size fuel { s with rules := s.rules.push ⟨guard, .print [] none⟩ }

/-- Note that what is handed on as a table is one, on both sides. -/
def spreadUses : Nat → Reader → Reader
  | 0, r => r
  | fuel + 1, r =>
      let pass (r : Reader) (l : Link) : Reader :=
        let source := use r l.holder l.passed
        let target := use r (some l.function) (.own l.parameter)
        if target == .table && source == .unknown then setUse r l.holder .table l.passed
        else if source == .table && target == .unknown then
          setUse r (some l.function) .table (.own l.parameter)
        else r
      spreadUses fuel (r.links.foldl pass r)

/-- Read a whole program. -/
def script : Parse Script := do
  let size := 20 * ((← get).tokens.length + 1)
  let s ← rules size size { shared := #[] }
  let place := (← head).place
  let r ← get
  let fault (text : String) : Parse Unit := modify fun r => { r with
    complaints := r.complaints ++ [text] }
  for f in r.functions do
    if f.body.isNone && r.complaints.isEmpty then
      fault (place ++ ": function " ++ f.name ++ " never defined")
  for c in r.calls.reverse do
    let f := r.functions.getD c.function default
    if f.body.isSome && f.own.size < c.count then
      fault (c.place ++ ": too many arguments in call to " ++ f.name)
  let r := spreadUses (r.links.length + 1) r
  return { s with functions := r.functions, shared := r.shared }

end Parse

/-- Read a program from its tokens, or say what is wrong with it. -/
def Script.read (tokens : List Token) : Except (List String) Script :=
  match Parse.script { tokens := tokens } with
  | .ok s r => if r.complaints.isEmpty then .ok s else .error r.complaints
  | .error e r => .error (r.complaints ++ [e])

end ScaffoldRunner.Awk
