import ScaffoldRunner.Utility.Awk.Syntax
import ScaffoldRunner.Utility.Awk.Value

/-!
# Tokens of programs

A program is cut into tokens. Line ends are tokens where they can end a statement; behind tokens
that ask for more they are passed over. A slash begins a pattern where no value stands in front of
it.
-/

namespace ScaffoldRunner.Awk

inductive Lexeme where
  | number (x : Float)
  | text (s : String)
  | regex (s : String)
  | name (s : String)
  /-- A name with a parenthesis right behind it. -/
  | call (s : String)
  | word (s : String)
  | builtin (f : Builtin)
  | sign (s : String)
  | newline
  | finish
  /-- What is no token; the text says why. -/
  | wrong (complaint : String)

/-- A token: how it is shown, and where it stands. -/
structure Token where
  lexeme : Lexeme
  shown : String
  place : String

namespace Token

/-- The words with a meaning of their own. -/
def words : List String :=
  ["BEGIN", "END", "break", "continue", "do", "delete", "else", "exit", "for", "function",
    "getline", "if", "in", "next", "nextfile", "print", "printf", "return", "while"]

/-- The functions that are there from the start, by their names. -/
def builtins : List (String × Builtin) :=
  [("length", .length), ("index", .index), ("substr", .substr), ("split", .split), ("sub", .sub),
    ("gsub", .gsub), ("match", .match), ("sprintf", .sprintf), ("sin", .sin), ("cos", .cos),
    ("atan2", .atan2), ("exp", .exp), ("log", .log), ("int", .int), ("sqrt", .sqrt),
    ("rand", .rand), ("srand", .srand), ("close", .close), ("system", .system),
    ("toupper", .toupper), ("tolower", .tolower), ("fflush", .fflush), ("systime", .systime),
    ("strftime", .strftime), ("mktime", .mktime)]

/-- The signs, where longer ones come before those that they begin with. -/
def signs : List String :=
  ["&&", "||", "++", "--", "+=", "-=", "*=", "/=", "%=", "^=", "==", "!=", "<=", ">=", "!~", ">>",
    "\x7b", "\x7d", "(", ")", "[", "]", ";", ",", "+", "-", "*", "/", "%", "^", "!", "<", ">", "|",
    "?", ":", "~", "$", "="]

/-- Whether line ends behind a token are passed over. -/
def asksForMore : Lexeme → Bool
  | .newline => true
  | .word w => w = "do" || w = "else"
  | .sign s => ["\x7b", "\x7d", "&&", "||", ",", ";"].contains s
  | _ => false

/-- Whether a token may end a value, so that a slash behind it divides. -/
def endsValue : Lexeme → Bool
  | .number _ | .text _ | .regex _ | .name _ => true
  | .word w => w = "getline"
  | .sign s => [")", "]", "++", "--"].contains s
  | _ => false

/-- The size of the longest part of a complaint. -/
def shownSize : Nat := 10

/-- Read up to a closing character, past escaped ones; within brackets it does not close anything.
The answer is what is inside, and what comes after it. -/
def upTo (closing : Char) (brackets : Bool) : Nat → Bool → List Char → List Char →
    Option (List Char × List Char)
  | 0, _, _, _ => none
  | _, _, [], _ => none
  | fuel + 1, inside, c :: cs, done =>
      if c = '\n' then none
      else if c = closing && !inside then some (done.reverse, cs)
      else
        match c, cs with
        | '\\', d :: rest => upTo closing brackets fuel inside rest (d :: c :: done)
        | '[', '^' :: ']' :: rest =>
            if brackets && !inside then
              upTo closing brackets fuel true rest (']' :: '^' :: c :: done)
            else upTo closing brackets fuel inside cs (c :: done)
        | '[', ']' :: rest =>
            if brackets && !inside then upTo closing brackets fuel true rest (']' :: c :: done)
            else upTo closing brackets fuel inside cs (c :: done)
        | '[', _ => upTo closing brackets fuel (inside || brackets) cs (c :: done)
        | ']', _ => upTo closing brackets fuel false cs (c :: done)
        | _, _ => upTo closing brackets fuel inside cs (c :: done)

def patternText : List Char → List Char
  | '\\' :: '/' :: cs => '/' :: patternText cs
  | '\\' :: c :: cs => '\\' :: c :: patternText cs
  | c :: cs => c :: patternText cs
  | [] => []

def readNumber (cs : List Char) : Float × List Char :=
  let whole := cs.takeWhile Char.isDigit
  let rest := cs.drop whole.length
  let (part, rest) : List Char × List Char := match rest with
    | '.' :: more => (more.takeWhile Char.isDigit, more.dropWhile Char.isDigit)
    | rest => ([], rest)
  let (e, rest) := Real.exponent 'e' rest
  let n := (whole ++ part).foldl (fun n c => n * 10 + (c.toNat - 48)) 0
  (Real.ofDecimal n (e - Int.ofNat part.length), rest)

/-- Whether a character may begin a name. -/
def isLetter (c : Char) : Bool := c.isAlpha || c = '_'

/-- Whether a character may be in a name. -/
def isInName (c : Char) : Bool := c.isAlphanum || c = '_'

/-- Cut a text into tokens, where it is given how a line is called. The tokens come in reverse. -/
def cut (called : Nat → String) : Nat → Nat → List Char → List Token → List Token
  | 0, _, _, found => found
  | fuel + 1, line, cs, found =>
      let last := ((found.head?).map (·.lexeme)).getD .newline
      let place := called line
      let add (lexeme : Lexeme) (shown : String) (rest : List Char) : List Token :=
        cut called fuel line rest ({ lexeme := lexeme, shown := shown, place := place } :: found)
      let wrong (complaint : String) : List Token :=
        { lexeme := .wrong complaint, shown := "", place := place } :: found
      let runaway (kind sign : String) (rest : List Char) : List Token :=
        let rest := rest.takeWhile (· ≠ '\n')
        wrong (place ++ ": runaway " ++ kind ++ " " ++ sign ++
          String.ofList (rest.take shownSize) ++ " ...")
      match cs with
      | [] =>
          let found := if asksForMore last then found
            else { lexeme := .newline, shown := "end of line", place := place } :: found
          { lexeme := .finish, shown := "end of file", place := called (line + 1) } :: found
      | '\\' :: '\n' :: rest => cut called fuel (line + 1) rest found
      | '\n' :: rest =>
          let found := if asksForMore last then found
            else { lexeme := .newline, shown := "end of line", place := place } :: found
          cut called fuel (line + 1) rest found
      | '#' :: rest => cut called fuel line (rest.dropWhile (· ≠ '\n')) found
      | '"' :: rest =>
          match upTo '"' false (rest.length + 1) false rest [] with
          | none => runaway "string constant" "\"" rest
          | some (text, rest) =>
              let text := String.ofList (unescaped text)
              add (.text text) text rest
      | c :: rest =>
          if Real.isBlank c then cut called fuel line rest found
          else if c.isDigit || (c = '.' && rest.head?.any Char.isDigit) then
            let (x, rest) := readNumber cs
            add (.number x) (String.ofList (cs.take (cs.length - rest.length))) rest
          else if isLetter c then
            let name := String.ofList (cs.takeWhile isInName)
            let rest := cs.dropWhile isInName
            if words.contains name then add (.word name) name rest
            else
              match builtins.find? fun e => e.1 = name with
              | some (_, f) => add (.builtin f) name rest
              | none => add (if rest.head? = some '(' then .call name else .name name) name rest
          else if c = '/' && !endsValue last then
            match upTo '/' true (rest.length + 1) false rest [] with
            | none => runaway "regular expression" "/" rest
            | some (text, rest) =>
                let text := String.ofList (patternText text)
                add (.regex text) ("/" ++ text ++ "/") rest
          else
            match signs.find? fun s => s.toList.isPrefixOf cs with
            | some s => add (.sign s) s (cs.drop s.length)
            | none =>
                wrong (toString line ++ ": unexpected character '" ++ String.singleton c ++ "'")

/-- The tokens of a text. Its lines are told by the name of the file that it comes from, if there
are several. -/
def ofText (file : Option String) (text : String) : List Token :=
  let called (line : Nat) : String := match file with
    | some file => file ++ ": line " ++ toString line
    | none => "line " ++ toString line
  (cut called (text.length + 2) 1 text.toList []).reverse

end Token

end ScaffoldRunner.Awk
