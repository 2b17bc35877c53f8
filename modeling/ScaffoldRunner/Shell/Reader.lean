import ScaffoldRunner.Data.Dict
import ScaffoldRunner.Shell.Syntax

/-!
# Reading scripts

The state of reading: the characters that are left, the line they are on, a token that was looked
at and is to be read again, and the documents that are read where their lines come.
-/

namespace ScaffoldRunner.Shell

/-- A document whose text comes after the line being read. -/
structure AwaitedDocument where
  index : Nat
  /-- The line that ends the document. -/
  ending : String
  stripsTabs : Bool
  /-- Whether the text has expansions. -/
  expands : Bool

/-- The state of reading a script. -/
structure Reader where
  rest : List Char
  line : Nat := 1
  /-- The token that was read last. -/
  last : Token := .newline
  /-- Whether that token is to be read again. -/
  again : Bool := false
  awaited : List AwaitedDocument := []
  documents : Array Word := #[]
  aliases : Dict String := []
  /-- The aliases whose text is being read, with the number of characters left after it. -/
  activeAliases : List (String × Nat) := []
  /-- When fewer characters are left, the next word may be an alias, too. -/
  aliasFrom : List Nat := []

/-- What is wrong with a script, and on which line. -/
structure SyntaxFault where
  line : Nat
  text : String

abbrev Parse := EStateM SyntaxFault Reader

namespace Parse

/-- How often things are repeated that have no bound of their own. -/
def rounds : Nat := 1000000000

/-- End reading with a complaint. -/
def fail {α : Type} (text : String) : Parse α := do
  throw ⟨(← get).line, text⟩

/-- A token that should not be here, and the one that should. -/
def unexpected {α : Type} (wanted : Option Token := none) : Parse α := do
  let found := (← get).last.name
  match wanted with
  | none => fail (found ++ " unexpected")
  | some token => fail (found ++ " unexpected (expecting " ++ token.name ++ ")")

def next : Parse (Option Char) := modifyGet fun r =>
  match r.rest with
  | [] => (none, r)
  | c :: cs => (some c, { r with rest := cs })

/-- Joined lines at the front of a text, and how many there are. -/
def joinedLines : Nat → List Char → Nat × List Char
  | n, '\\' :: '\n' :: cs => joinedLines (n + 1) cs
  | n, cs => (n, cs)

/-- The next character, where lines are joined by a backslash at the end. -/
def nextJoined : Parse (Option Char) := do
  modify fun r =>
    let (n, cs) := joinedLines 0 r.rest
    { r with rest := cs, line := r.line + n }
  next

/-- Put a character back. -/
def back (c : Option Char) : Parse Unit := do
  if let some c := c then modify fun r => { r with rest := c :: r.rest }

def countLine : Parse Unit := modify fun r => { r with line := r.line + 1 }

/-- Read the last token again. -/
def pushBack : Parse Unit := modify fun r => { r with again := true }

end Parse

/-- How far a list of commands goes. -/
inductive ListKind where
  /-- To the end of the line. -/
  | line
  /-- To the token that ends the list, with at least one command. -/
  | filled
  /-- To the token that ends the list. -/
  | any
  deriving DecidableEq

/-- The part of the grammar that words refer to. -/
structure Grammar where
  list : ListKind → Parse (Option Command)
  token : Parse Token

end ScaffoldRunner.Shell
