/-!
# Shell scripts

The syntax of scripts: words, which are made of text and of expansions, and commands, which are
put together from words.
-/

namespace ScaffoldRunner.Shell

/-- What an expansion makes of the value of a parameter. The flag of some asks for a value that is
not empty. -/
inductive Use where
  | value
  | length
  /-- Another word if there is no value. -/
  | orElse (strict : Bool)
  /-- Another word if there is a value. -/
  | instead (strict : Bool)
  /-- An error if there is no value. -/
  | orFail (strict : Bool)
  /-- Another word, which becomes the value, if there is none. -/
  | orAssign (strict : Bool)
  /-- Without what a pattern matches at the front or at the back. -/
  | cut (front longest : Bool)
  /-- There is no such expansion. -/
  | bad
  deriving DecidableEq, Repr

inductive RedirectKind where
  | read
  | write
  /-- Write even to a file that is there already and is to be kept. -/
  | clobber
  | append
  | both
  /-- The target is the number of another descriptor, or a dash. -/
  | copy
  deriving DecidableEq, Repr

mutual

inductive Part where
  /-- Text that is quoted only if it stands between quotes. -/
  | plain (text : String)
  /-- Text that is quoted for itself. -/
  | quoted (text : String)
  /-- Quotes begin or end here. -/
  | mark
  | parameter (name : String) (use : Use) (word : List Part)
  /-- The output of a command. -/
  | output (body : Option Command)
  /-- The value of an arithmetic expression. -/
  | arithmetic (expression : List Part)

inductive Redirect where
  | file (kind : RedirectKind) (descriptor : Nat) (target : List Part)
  /-- Input from the script itself: one of the documents that were read. -/
  | document (descriptor : Nat) (index : Nat) (expands : Bool)

/-- A command. The number of many is that of the line on which it stands. -/
inductive Command where
  | simple (line : Nat) (assignments words : List (List Part)) (redirects : List Redirect)
  | pipeline (commands : List Command) (background : Bool)
  | redirected (line : Nat) (body : Command) (redirects : List Redirect)
  | background (line : Nat) (body : Command) (redirects : List Redirect)
  | subshell (line : Nat) (body : Command) (redirects : List Redirect)
  | both (first second : Command)
  | either (first second : Command)
  | sequence (first second : Command)
  | negated (command : Command)
  | branch (condition body : Command) (otherwise : Option Command)
  | loop (untilTrue : Bool) (condition body : Command)
  | each (line : Nat) (name : String) (words : List (List Part)) (body : Command)
  | select (line : Nat) (subject : List Part) (arms : List (List (List Part) × Option Command))
  | define (line : Nat) (name : String) (body : Command)

end

abbrev Word := List Part

instance : Inhabited Part := ⟨.mark⟩

instance : Inhabited Command := ⟨.simple 0 [] [] []⟩

inductive Token where
  | endOfFile
  | newline
  | semicolon
  | background
  | andThen
  | orElse
  | pipe
  | opening
  | closing
  | endOfArm
  /-- A redirection whose target is still to be read. -/
  | redirection (descriptor : Nat) (kind : Option RedirectKind) (stripsTabs : Bool)
  /-- A word, and whether some of it is quoted. -/
  | word (parts : Word) (quoted : Bool)
  /-- A word with a meaning of its own. -/
  | keyword (name : String)

namespace Token

/-- The words with a meaning of their own. -/
def keywords : List String :=
  ["!", "case", "do", "done", "elif", "else", "esac", "fi", "for", "if", "in", "then", "until",
    "while", "\x7b", "\x7d"]

/-- The keywords that end a list of commands. -/
def closingKeywords : List String :=
  ["do", "done", "elif", "else", "esac", "fi", "then", "\x7d"]

/-- How a token is named in complaints. -/
def name : Token → String
  | endOfFile => "end of file"
  | newline => "newline"
  | semicolon => "\";\""
  | background => "\"&\""
  | andThen => "\"&&\""
  | orElse => "\"||\""
  | pipe => "\"|\""
  | opening => "\"(\""
  | closing => "\")\""
  | endOfArm => "\";;\""
  | redirection _ _ _ => "redirection"
  | word _ _ => "word"
  | keyword name => "\"" ++ name ++ "\""

/-- Whether a token ends a list of commands. -/
def endsList : Token → Bool
  | endOfFile | closing | endOfArm => true
  | keyword name => closingKeywords.contains name
  | _ => false

def isKeyword (token : Token) (name : String) : Bool :=
  match token with
  | keyword other => other = name
  | _ => false

end Token

def isNameStart (c : Char) : Bool := c.isAlpha || c = '_'

/-- Whether a character may stand in a name. -/
def isNameChar (c : Char) : Bool := c.isAlphanum || c = '_'

def isName (text : String) : Bool :=
  text.toList.head?.any isNameStart && text.toList.all isNameChar

/-- The builtin commands whose failures end the shell. -/
def specialBuiltins : List String :=
  [".", ":", "break", "continue", "eval", "exec", "exit", "export", "readonly", "return", "set",
    "shift", "times", "trap", "unset"]

namespace Word

/-- The text of a word that is one unquoted text. -/
def plainText? : Word → Option String
  | [.plain text] => some text
  | _ => none

/-- The text of a word without its quotes. -/
def text (word : Word) : String :=
  String.join (word.map fun
    | .plain text | .quoted text => text
    | _ => "")

/-- The name that a word assigns to, if it is an assignment, and the value. -/
def assignment? : Word → Option (String × Word)
  | .plain text :: rest =>
      let name := text.toList.takeWhile isNameChar
      match text.toList.drop name.length with
      | '=' :: value =>
          if name.head?.any isNameStart then
            some (String.ofList name, .plain (String.ofList value) :: rest)
          else none
      | _ => none
  | _ => none

end Word

end ScaffoldRunner.Shell
