import ScaffoldRunner.Utility.Awk.Tokens

/-!
# Reading expressions

A program is read from its tokens. This module holds the state of reading and reads expressions.
Each operator has a level; what stands side by side is joined, at a level of its own. Names get
numbers, and it is noted whether a variable is used as a table.
-/

namespace ScaffoldRunner.Awk

/-- A name that is handed to a function: the variable, in the function that it belongs to, and the
parameter. -/
structure Link where
  holder : Option Nat
  passed : Variable
  function : Nat
  parameter : Nat

/-- A call: the function, the number of its arguments, and where it stands. -/
structure Call where
  function : Nat
  count : Nat
  place : String

structure Reader where
  tokens : List Token
  shared : Array (String × Use) := Script.special.toArray
  functions : Array Function := #[]
  /-- The function that is being read, and the names of its own variables. -/
  current : Option Nat := none
  names : List String := []
  links : List Link := []
  calls : List Call := []
  loops : Nat := 0
  braces : Nat := 0
  parens : Nat := 0
  /-- Whether the arguments of an output are being read, where some signs tell where it goes. -/
  inPrint : Bool := false
  /-- Whether a rule for records is being read. -/
  inRule : Bool := false
  ranges : Nat := 0
  /-- What was found to be wrong without an end to reading. -/
  complaints : List String := []

/-- A step of reading; the error is what is said about it. -/
abbrev Parse := EStateM String Reader

namespace Parse

/-! ## Tokens -/

def head : Parse Token := do
  match (← get).tokens with
  | t :: _ => return t
  | [] => return { lexeme := .finish, shown := "end of file", place := "" }

/-- Go past the token at the front. -/
def skip : Parse Unit := modify fun r => { r with tokens := r.tokens.drop 1 }

/-- Say that the token at the front does not belong there. -/
def unexpected {α : Type} : Parse α := do
  let r ← get
  let t ← head
  let say (text : String) : Parse α := throw (t.place ++ ": " ++ text)
  let isOneOf (signs : List String) : Bool := match t.lexeme with
    | .sign s => signs.contains s
    | .newline => signs.contains "newline"
    | .finish => signs.contains "finish"
    | .word w => signs.contains w
    | _ => false
  match t.lexeme with
  | .wrong complaint => throw complaint
  | _ =>
      if r.braces ≠ 0 && isOneOf ["BEGIN", "END", "function", "finish"] then
        say ("missing \x7d near " ++ t.shown)
      else if r.parens = 0 && isOneOf [")"] then say "extra ')'"
      else if r.braces = 0 && isOneOf ["\x7d"] then do
        modify fun r => { r with complaints := r.complaints ++ [t.place ++ ": extra '\x7d'"] }
        say "syntax error at or near end of line"
      else if r.parens ≠ 0 && isOneOf ["\x7d", ";", "newline"] then
        say ("missing ) near " ++ t.shown)
      else say ("syntax error at or near " ++ t.shown)

/-- How many complaints there may be before reading ends. -/
def patience : Nat := 5

/-- Note that something is wrong, and go on. -/
def complain (text : String) : Parse Unit := do
  let t ← head
  let text := t.place ++ ": " ++ text
  if (← get).complaints.length + 1 < patience then
    modify fun r => { r with complaints := r.complaints ++ [text] }
  else throw text

def isSign (t : Token) (s : String) : Bool := match t.lexeme with
  | .sign other => other = s
  | _ => false

def isWord (t : Token) (w : String) : Bool := match t.lexeme with
  | .word other => other = w
  | _ => false

/-- Go past a sign if it is at the front. -/
def takeSign? (s : String) : Parse Bool := do
  if isSign (← head) s then
    skip
    return true
  else return false

/-- Go past a sign, which must be at the front. -/
def expect (s : String) : Parse Unit := do
  if !(← takeSign? s) then unexpected

/-- Read something between parentheses, of which the first one has been read. -/
def inside {α : Type} (read : Parse α) : Parse α := do
  let r ← get
  set { r with parens := r.parens + 1, inPrint := false }
  let a ← read
  expect ")"
  modify fun after => { after with parens := r.parens, inPrint := r.inPrint }
  return a

/-- Go past line ends. -/
def skipLines : Nat → Parse Unit
  | 0 => return
  | fuel + 1 => do
      match (← head).lexeme with
      | .newline => do
          skip
          skipLines fuel
      | _ => return

/-! ## Names -/

def variableOf (name : String) : Parse Variable := do
  let r ← get
  match r.names.findIdx? (· = name) with
  | some i => return .own i
  | none =>
      match r.shared.findIdx? fun e => e.1 = name with
      | some i => return .shared i
      | none => do
          set { r with shared := r.shared.push (name, .unknown) }
          return .shared r.shared.size

/-- What a variable is used as so far. -/
def use (r : Reader) (holder : Option Nat) : Variable → Use
  | .shared i => (r.shared.getD i ("", .unknown)).2
  | .own i => (holder.bind fun f => (r.functions.getD f default).own[i]?).getD .unknown

/-- Note what a variable is used as. -/
def setUse (r : Reader) (holder : Option Nat) (u : Use) : Variable → Reader
  | .shared i => { r with shared := r.shared.modify i fun e => (e.1, u) }
  | .own i =>
      match holder with
      | some f => { r with functions := r.functions.modify f fun function =>
          { function with own := function.own.setIfInBounds i u } }
      | none => r

/-- The variable of some name that is used in some way. -/
def variableAs (u : Use) (name : String) : Parse Variable := do
  let v ← variableOf name
  let r ← get
  match use r r.current v, u with
  | .table, .scalar => complain ("illegal reference to array " ++ name)
  | .scalar, .table => complain ("illegal reference to variable " ++ name)
  | _, _ => set (setUse r r.current u v)
  return v

def function (name : String) : Parse Nat := do
  let r ← get
  match r.functions.findIdx? fun f => f.name = name with
  | some i => return i
  | none => do
      set { r with functions := r.functions.push { name := name } }
      return r.functions.size

/-- The name at the front, which stands for a table. -/
def tableName : Parse Variable := do
  match (← head).lexeme with
  | .name s => do
      skip
      variableAs .table s
  | _ => unexpected

/-! ## Patterns -/

def patternGrammar : Pattern.Posix.Grammar := { extended := true, controls := true }

/-- What is said about a pattern that cannot be read. -/
def patternFault (text reason : String) : String :=
  let reason :=
    if reason.startsWith "Unmatched [" then "bad class -- [], [^] or ["
    else if reason.startsWith "Unmatched (" then "missing ')'"
    else "missing operand"
  "regular expression compile failed (" ++ reason ++ ")\n" ++ text

/-- Whether there is nothing in some group or alternative of a pattern. -/
def isHollow : Pattern → Bool
  | .seq p q => isHollow p || isHollow q
  | .alt .nothing _ | .alt _ .nothing | .group _ .nothing => true
  | .alt p q => isHollow p || isHollow q
  | .group _ p => isHollow p
  | .repeated p _ _ _ => isHollow p
  | _ => false

/-- Read a pattern. An operator must have something to work on. -/
def pattern (text : String) : Except String Regex :=
  match Pattern.Posix.read patternGrammar text.toList with
  | .ok found =>
      if found.loose.isEmpty && !isHollow found.pattern then .ok ⟨found.pattern, found.groups + 1⟩
      else .error (patternFault text "")
  | .error reason => .error (patternFault text reason)

/-! ## Expressions

The levels of operators, from those that bind least. -/

def choiceLevel : Nat := 0
def eitherLevel : Nat := 1
def bothLevel : Nat := 2
def containsLevel : Nat := 3
def matchLevel : Nat := 4
def compareLevel : Nat := 5
def concatLevel : Nat := 6
def sumLevel : Nat := 7
def productLevel : Nat := 8
def signLevel : Nat := 9
def pipeLevel : Nat := 10
def powerLevel : Nat := 11

def comparison? : String → Option Comparison
  | "<" => some .less
  | "<=" => some .atMost
  | "==" => some .equal
  | "!=" => some .unequal
  | ">=" => some .atLeast
  | ">" => some .more
  | _ => none

/-- The calculation of a sign. -/
def arithmetic? : String → Option (Arithmetic × Nat)
  | "+" => some (.add, sumLevel)
  | "-" => some (.subtract, sumLevel)
  | "*" => some (.multiply, productLevel)
  | "/" => some (.divide, productLevel)
  | "%" => some (.remainder, productLevel)
  | _ => none

/-- The calculation of a sign that gives a place a new value from its old one. -/
def update? : String → Option Arithmetic
  | "+=" => some .add
  | "-=" => some .subtract
  | "*=" => some .multiply
  | "/=" => some .divide
  | "%=" => some .remainder
  | "^=" => some .power
  | _ => none

/-- Whether a token may begin what is joined with the value before it. -/
def beginsOperand (t : Token) : Bool :=
  match t.lexeme with
  | .number _ | .text _ | .regex _ | .name _ | .call _ | .builtin _ => true
  | .word w => w = "getline"
  | .sign s => ["(", "$", "!", "++", "--"].contains s
  | _ => false

/-- How many arguments a function that is there from the start may have: at least and at most. -/
def argumentCount : Builtin → Nat × Nat
  | .length => (0, 1)
  | .index | .atan2 => (2, 2)
  | .substr | .split | .sub | .gsub => (2, 3)
  | .match => (2, 2)
  | .sprintf => (1, 255)
  | .rand | .systime => (0, 0)
  | .srand | .fflush => (0, 1)
  | .strftime => (0, 3)
  | .sin | .cos | .exp | .log | .int | .sqrt | .close | .system | .toupper | .tolower | .mktime =>
      (1, 1)

mutual

def expression : Nat → Parse Expr
  | 0 => unexpected
  | fuel + 1 => do
      let condition ← binary fuel eitherLevel
      if ← takeSign? "?" then
        let yes ← expression fuel
        expect ":"
        return .choice condition yes (← expression fuel)
      else return condition

/-- An expression whose operators have at least some level. -/
def binary : Nat → Nat → Parse Expr
  | 0, _ => unexpected
  | fuel + 1, least => do
      let t ← head
      let signed (make : Expr → Expr) : Parse Expr := do
        skip
        let e ← binary fuel pipeLevel
        binaryRest fuel least (make e)
      if isSign t "!" then signed .negation
      else if isSign t "-" then signed .minus
      else if isSign t "+" then signed .plus
      else
        let e ← operand fuel
        binaryRest fuel least e

/-- What follows the first operand. -/
def binaryRest : Nat → Nat → Expr → Parse Expr
  | 0, _, left => return left
  | fuel + 1, least, left => do
      let t ← head
      let r ← get
      let joined : Parse Expr := do
        if beginsOperand t && least ≤ concatLevel then
          let right ← binary fuel sumLevel
          binaryRest fuel least (.concat left right)
        else return left
      match t.lexeme with
      | .word w =>
          if w = "in" && least ≤ containsLevel then do
            skip
            let table ← tableName
            binaryRest fuel least (.contains [left] table)
          else joined
      | .sign s => do
          let go (level next : Nat) (make : Expr → Expr) : Parse Expr := do
            if level < least then return left
            skip
            let right ← binary fuel next
            binaryRest fuel least (make right)
          if s = "||" then go eitherLevel bothLevel (.either left)
          else if s = "&&" then go bothLevel containsLevel (.both left)
          else if s = "~" then go matchLevel compareLevel (.matched false left)
          else if s = "!~" then go matchLevel compareLevel (.matched true left)
          else if s = "^" then go powerLevel powerLevel (.arithmetic .power left)
          else if s = "|" && !r.inPrint && (r.tokens[1]?).any (isWord · "getline") then
            if pipeLevel < least then return left
            skip
            skip
            let place ← place? fuel
            binaryRest fuel least (.getLine .pipe (some left) place)
          else if s = ">" && r.inPrint then return left
          else
            match comparison? s, arithmetic? s with
            | some c, _ => go compareLevel concatLevel (.compare c left)
            | none, some (op, level) => go level (level + 1) (.arithmetic op left)
            | none, none => joined
      | _ => joined

/-- A value, with what is done to it if it is a place. -/
def operand : Nat → Parse Expr
  | 0 => unexpected
  | fuel + 1 => do
      let t ← head
      if isSign t "++" || isSign t "--" then
        skip
        let e ← bare fuel
        if e.isPlace then return .step (if isSign t "++" then .add else .subtract) true e
        else unexpected
      else
        let e ← bare fuel
        if !e.isPlace then return e
        match (← head).lexeme with
        | .sign "++" => do
            skip
            return .step .add false e
        | .sign "--" => do
            skip
            return .step .subtract false e
        | .sign "=" => do
            skip
            return .assign e (← expression fuel)
        | .sign s =>
            match update? s with
            | some op => do
                skip
                return .update op e (← expression fuel)
            | none => return e
        | _ => return e

def bare : Nat → Parse Expr
  | 0 => unexpected
  | fuel + 1 => do
      let t ← head
      match t.lexeme with
      | .number x => do
          skip
          return .number x
      | .text s => do
          skip
          return .text s
      | .regex s => do
          match pattern s with
          | .error e => throw (t.place ++ ": " ++ e)
          | .ok regex => do
              skip
              return .regex regex
      | .name name => do
          skip
          let r ← get
          let isFunction := r.functions.any fun f => f.name = name && f.body.isSome
          let isCurrent := (r.current.map fun f => (r.functions.getD f default).name) = some name
          if (isFunction || isCurrent) && isSign (← head) "(" then call fuel name
          else if ← takeSign? "[" then
            let table ← variableAs .table name
            let saved := (← get).inPrint
            modify fun r => { r with inPrint := false }
            let keys ← expressions fuel
            expect "]"
            modify fun r => { r with inPrint := saved }
            return .element table keys
          else return .var (← variableAs .scalar name)
      | .call name => do
          skip
          call fuel name
      | .builtin f => do
          skip
          builtin fuel f
      | .word "getline" => do
          skip
          let place ← place? fuel
          if ← takeSign? "<" then
            let name ← binary fuel powerLevel
            return .getLine .file (some name) place
          else return .getLine .records none place
      | .sign "(" => do
          skip
          let es ← inside (expressions fuel)
          match es with
          | [e] => return e
          | es => do
              if isWord (← head) "in" then
                skip
                return .contains es (← tableName)
              else unexpected
      | .sign "$" => do
          skip
          let t ← head
          if isSign t "++" || isSign t "--" then return .field (← operand fuel)
          else if isSign t "-" then
            skip
            return .field (.minus (← bare fuel))
          else return .field (← bare fuel)
      | _ => unexpected

/-- The place behind a reading of a line, if there is one. -/
def place? : Nat → Parse (Option Expr)
  | 0 => return none
  | fuel + 1 => do
      let t ← head
      match t.lexeme with
      | .name _ => some <$> bare fuel
      | .sign "$" => some <$> bare fuel
      | _ => return none

def expressions : Nat → Parse (List Expr)
  | 0 => unexpected
  | fuel + 1 => do
      let e ← expression fuel
      if ← takeSign? "," then return e :: (← expressions fuel)
      else return [e]

/-- The arguments of a call. A name by itself may stand for a table. -/
def arguments : Nat → Nat → Nat → Parse (List Expr)
  | 0, _, _ => unexpected
  | fuel + 1, f, count => do
      let r ← get
      let e ← match r.tokens with
        | { lexeme := .name name, .. } :: t :: _ =>
            if isSign t "," || isSign t ")" then do
              skip
              let v ← variableOf name
              modify fun r => { r with
                links := { holder := r.current, passed := v, function := f, parameter := count }
                  :: r.links }
              pure (.var v)
            else expression fuel
        | _ => expression fuel
      if ← takeSign? "," then return e :: (← arguments fuel f (count + 1))
      else return [e]

/-- A call of a function, behind its name. -/
def call : Nat → String → Parse Expr
  | 0, _ => unexpected
  | fuel + 1, name => do
      let f ← function name
      expect "("
      let args ← inside do
        if isSign (← head) ")" then return [] else arguments fuel f 0
      let t ← head
      modify fun r => { r with
        calls := { function := f, count := args.length, place := t.place } :: r.calls }
      return .call f args

/-- A call of a function that is there from the start, behind its name. -/
def builtin : Nat → Builtin → Parse Expr
  | 0, _ => unexpected
  | fuel + 1, f => do
      let t ← head
      let (least, most) := argumentCount f
      if !isSign t "(" then
        match f with
        | .length => return .builtin f []
        | _ => unexpected
      else
        skip
        let r ← get
        let args ← inside do
          if isSign (← head) ")" then return []
          else
            match f, r.tokens with
            | .length, { lexeme := .name name, .. } :: t :: _ =>
                if isSign t ")" then do
                  skip
                  return [.var (← variableOf name)]
                else expressions fuel
            | .split, _ => do
                let first ← expression fuel
                if ← takeSign? "," then
                  let table ← tableName
                  if ← takeSign? "," then return first :: .var table :: (← expressions fuel)
                  else return [first, .var table]
                else return [first]
            | _, _ => expressions fuel
        if args.length < least || most < args.length then
          let name := ((Token.builtins.find? fun e => e.2 = f).map (·.1)).getD ""
          throw (t.place ++ ": wrong number of arguments in call to " ++ name)
        return .builtin f args

end

end Parse

end ScaffoldRunner.Awk
