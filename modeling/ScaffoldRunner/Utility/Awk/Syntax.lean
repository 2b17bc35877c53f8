import ScaffoldRunner.Pattern.PosixSyntax

/-!
# Programs on records

A program goes through records and does something for each that a pattern selects. It has
expressions, statements that are made of them, rules that say when statements are done, and
functions.
-/

namespace ScaffoldRunner.Awk

/-- A pattern of texts with how many groups it has. -/
structure Regex where
  pattern : Pattern
  groups : Nat

/-- A variable, by its number: one of the whole program, or one of the function at work. -/
inductive Variable where
  | shared (index : Nat)
  | own (index : Nat)
  deriving BEq

inductive Arithmetic where
  | add
  | subtract
  | multiply
  | divide
  | remainder
  | power

inductive Comparison where
  | less
  | atMost
  | equal
  | unequal
  | atLeast
  | more

/-- The functions that are there from the start. -/
inductive Builtin where
  | length | index | substr | split | sub | gsub | match | sprintf
  | sin | cos | atan2 | exp | log | int | sqrt | rand | srand
  | close | system | toupper | tolower | fflush | systime | strftime | mktime
  deriving DecidableEq

/-- Where text is written to. -/
inductive Sink where
  | file
  | append
  | pipe

/-- Where a line is read from. -/
inductive Source where
  /-- The records of the program. -/
  | records
  | file
  | pipe

inductive Expr where
  | number (x : Float)
  | text (s : String)
  /-- A pattern; by itself it asks whether the record matches. -/
  | regex (r : Regex)
  | var (v : Variable)
  | field (number : Expr)
  | element (table : Variable) (keys : List Expr)
  | assign (place value : Expr)
  | update (op : Arithmetic) (place value : Expr)
  /-- Add one or take one away; the value is the one before or after that. -/
  | step (op : Arithmetic) (isBefore : Bool) (place : Expr)
  | choice (condition yes no : Expr)
  | both (a b : Expr)
  | either (a b : Expr)
  | negation (a : Expr)
  | contains (keys : List Expr) (table : Variable)
  | matched (negated : Bool) (a pattern : Expr)
  | compare (c : Comparison) (a b : Expr)
  | concat (a b : Expr)
  | arithmetic (op : Arithmetic) (a b : Expr)
  | minus (a : Expr)
  | plus (a : Expr)
  | call (function : Nat) (args : List Expr)
  | builtin (f : Builtin) (args : List Expr)
  | getLine (source : Source) (name place : Option Expr)

instance : Inhabited Expr := ⟨.text ""⟩

/-- Whether an expression is a place that can be given a value. -/
def Expr.isPlace : Expr → Bool
  | var _ | field _ | element _ _ => true
  | _ => false

inductive Statement where
  | nothing
  | block (ss : List Statement)
  | expression (e : Expr)
  | print (args : List Expr) (target : Option (Sink × Expr))
  | printf (args : List Expr) (target : Option (Sink × Expr))
  | branch (condition : Expr) (yes no : Statement)
  /-- Repeat while a condition holds, which may only be looked at after the first time. -/
  | loop (looksFirst : Bool) (condition : Option Expr) (body step : Statement)
  | each (place : Variable) (table : Variable) (body : Statement)
  | next
  | nextFile
  | leave (status : Option Expr)
  | giveBack (value : Option Expr)
  | stop
  | continue
  | delete (table : Variable) (keys : List Expr)
  | clear (table : Variable)

instance : Inhabited Statement := ⟨.nothing⟩

/-- When the statement of a rule is done. -/
inductive Guard where
  | always
  | condition (e : Expr)
  /-- From a record that fulfils the first condition to one that fulfils the other. -/
  | range (index : Nat) (first last : Expr)

structure Rule where
  guard : Guard
  body : Statement

/-- What a variable is used as. -/
inductive Use where
  | unknown
  | scalar
  | table
  deriving BEq

/-- A function: its name, the uses of its own variables, of which the first ones are its
parameters, and its body. -/
structure Function where
  name : String
  own : Array Use := #[]
  body : Option Statement := none

instance : Inhabited Function := ⟨{ name := "" }⟩

/-- A whole program. -/
structure Script where
  begins : Array Statement := #[]
  rules : Array Rule := #[]
  ends : Array Statement := #[]
  functions : Array Function := #[]
  /-- The names of its variables and what they are used as. -/
  shared : Array (String × Use)

instance : Inhabited Script := ⟨{ shared := #[] }⟩

namespace Script

/-- The variables that every program has, in their order. -/
def special : List (String × Use) :=
  [("NR", .scalar), ("FNR", .scalar), ("NF", .scalar), ("FS", .scalar), ("OFS", .scalar),
    ("ORS", .scalar), ("RS", .scalar), ("FILENAME", .scalar), ("SUBSEP", .scalar),
    ("RSTART", .scalar), ("RLENGTH", .scalar), ("CONVFMT", .scalar), ("OFMT", .scalar),
    ("ENVIRON", .table), ("ARGC", .scalar), ("ARGV", .table)]

/-- The number of a variable that every program has. -/
def specialIndex (name : String) : Nat := special.findIdx fun e => e.1 = name

def recordNumber : Nat := specialIndex "NR"
def fileRecordNumber : Nat := specialIndex "FNR"
def fieldCount : Nat := specialIndex "NF"
def fieldSeparator : Nat := specialIndex "FS"
def outputFieldSeparator : Nat := specialIndex "OFS"
def outputRecordSeparator : Nat := specialIndex "ORS"
def recordSeparator : Nat := specialIndex "RS"
def fileName : Nat := specialIndex "FILENAME"
def keySeparator : Nat := specialIndex "SUBSEP"
def matchStart : Nat := specialIndex "RSTART"
def matchLength : Nat := specialIndex "RLENGTH"
def conversionFormat : Nat := specialIndex "CONVFMT"
def outputFormat : Nat := specialIndex "OFMT"
def environment : Nat := specialIndex "ENVIRON"
def argumentCount : Nat := specialIndex "ARGC"
def arguments : Nat := specialIndex "ARGV"

end Script

end ScaffoldRunner.Awk
