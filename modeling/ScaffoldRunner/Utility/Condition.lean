import ScaffoldRunner.System.Program
import ScaffoldRunner.Text.Utf8

/-!
# Conditions

The conditions of `test` and of brackets: on texts, on numbers and on files, put together by
`!`, `-a`, `-o` and parentheses.
-/

namespace ScaffoldRunner

/-- Why a condition has no answer. -/
inductive ConditionError where
  | notANumber (text : String)
  /-- The text stands where an operator should. -/
  | unexpected (text : String)
  | missingArgument (op : String)
  | missingClose

namespace ConditionError

def message : ConditionError → String
  | notANumber text => "Illegal number: " ++ text
  | unexpected text => text ++ ": unexpected operator"
  | missingArgument op => op ++ ": argument expected"
  | missingClose => "closing paren expected"

end ConditionError

namespace Condition

/-- What is known about the files that conditions are on. -/
structure Files where
  tree : FileTree
  /-- A path as seen from the root, in octets. -/
  resolve : String → String
  /-- What the descriptors up to the second lead to. -/
  streams : List StreamKind := []

namespace Files

def node? (f : Files) (path : String) : Option Node :=
  (f.tree.lookup (Octets.decode (f.resolve path))).toOption

def isDevice (f : Files) (path : String) : Bool :=
  match f.tree.locate (Octets.decode (f.resolve path)) with
  | .ok ["dev", name] => ["null", "zero", "full", "random", "urandom", "tty"].contains name
  | _ => false

def descriptor? (f : Files) (path : String) : Option Nat :=
  match f.resolve path with
  | "/dev/stdin" => some 0
  | "/dev/stdout" => some 1
  | "/dev/stderr" => some 2
  | _ => none

def isPipe (f : Files) (path : String) : Bool :=
  match (f.descriptor? path).bind (f.streams[·]?) with
  | some .pipe => true
  | _ => false

/-- Whether a path leads anywhere. -/
def isThere (f : Files) (path : String) : Bool :=
  (f.node? path).isSome || (f.descriptor? path).isSome

end Files

inductive Operator where
  | unary (name : String)
  | binary (name : String)
  | negation
  | both
  | either
  | opening
  | closing

namespace Operator

def ofText? (text : String) : Option Operator :=
  let unaries := ["-r", "-w", "-x", "-e", "-f", "-d", "-c", "-b", "-p", "-u", "-g", "-k", "-s",
    "-t", "-z", "-n", "-h", "-O", "-G", "-L", "-S"]
  let binaries := ["=", "!=", "<", ">", "-eq", "-ne", "-ge", "-gt", "-le", "-lt", "-nt", "-ot",
    "-ef"]
  match text with
  | "!" => some negation
  | "-a" => some both
  | "-o" => some either
  | "(" => some opening
  | ")" => some closing
  | text =>
      if unaries.contains text then some (unary text)
      else if binaries.contains text then some (binary text)
      else none

/-- Whether a text is an operator between two arguments. -/
def isBinary (text : String) : Bool :=
  match ofText? text with
  | some (.binary _) => true
  | _ => false

end Operator

def number (text : String) : Except ConditionError Int :=
  let isBlank (c : Char) : Bool := c = ' ' || ('\t' ≤ c && c ≤ '\r')
  let cs := text.toList.dropWhile isBlank
  let (negative, cs) : Bool × List Char := match cs with
    | '-' :: rest => (true, rest)
    | '+' :: rest => (false, rest)
    | cs => (false, cs)
  let digits := cs.takeWhile Char.isDigit
  let size := digits.foldl (fun n c => n * 10 + (c.toNat - 48)) 0
  let value : Int := if negative then -Int.ofNat size else size
  let isRight := !digits.isEmpty && (cs.drop digits.length).all isBlank &&
    -9223372036854775808 ≤ value && value ≤ 9223372036854775807
  if isRight then .ok value else .error (.notANumber text)

/-- The place that a path leads to, if something is there. -/
def place? (f : Files) (path : String) : Option (List String) :=
  if (f.node? path).isSome then (f.tree.locate (Octets.decode (f.resolve path))).toOption else none

/-- Whether the first of two files was written later. -/
def isNewer (f : Files) (a b : String) : Bool :=
  match place? f a, place? f b with
  | some a, some b =>
      let age (place : List String) : Nat := f.tree.entries.findIdx fun e => e.1 = place
      age a < age b
  | _, _ => false

/-- The answer of an operator between two arguments. -/
def binary (f : Files) (op a b : String) : Except ConditionError Bool := do
  match op with
  | "=" => return a = b
  | "!=" => return a ≠ b
  | "<" => return a < b
  | ">" => return b < a
  | "-eq" => return (← number a) = (← number b)
  | "-ne" => return (← number a) ≠ (← number b)
  | "-lt" => return (← number a) < (← number b)
  | "-le" => return (← number a) ≤ (← number b)
  | "-gt" => return (← number a) > (← number b)
  | "-ge" => return (← number a) ≥ (← number b)
  | "-nt" => return isNewer f a b
  | "-ot" => return isNewer f b a
  | "-ef" => return (place? f a).isSome && place? f a = place? f b
  | _ => return false

/-- The answer of an operator in front of an argument. -/
def unary (f : Files) (op arg : String) : Except ConditionError Bool := do
  let special := f.isDevice arg || (f.descriptor? arg).isSome
  match op with
  | "-n" => return arg ≠ ""
  | "-z" => return arg = ""
  | "-t" => do
      let _ ← number arg
      return false
  | "-f" =>
      match f.node? arg with
      | some (.file _ _) => return !special
      | _ => return false
  | "-d" =>
      match f.node? arg with
      | some .dir => return true
      | _ => return false
  | "-c" => return f.isDevice arg
  | "-p" => return f.isPipe arg
  | "-s" =>
      match f.node? arg with
      | some (.file bytes _) => return bytes.size ≠ 0
      | some .dir => return true
      | none => return false
  | "-x" =>
      match f.node? arg with
      | some node => return Node.mayRun node.mode
      | none => return false
  | "-u" => return (f.node? arg).any fun node => node.mode &&& 0o4000 ≠ 0
  | "-g" => return (f.node? arg).any fun node => node.mode &&& 0o2000 ≠ 0
  | "-k" => return (f.node? arg).any fun node => node.mode &&& 0o1000 ≠ 0
  | "-e" | "-r" | "-w" | "-O" | "-G" => return f.isThere arg
  | _ => return false

/-- The operator at the front of arguments, if it is one there. -/
def operator? (args : List String) : Option Operator :=
  match args with
  | [] => none
  | arg :: rest =>
      match Operator.ofText? arg, rest with
      | some (.unary _), [] => none
      | some (.unary op), b :: _ :: _ =>
          if Operator.isBinary b then none else some (.unary op)
      | some .opening, [] => none
      | op, _ => op

variable (f : Files)

mutual

/-- A condition of alternatives; the answer comes with the arguments from its last one on. The
first argument may be known to be an operand. -/
def readAny : Nat → Bool → List String → Except ConditionError (Bool × List String)
  | 0, _, args => .ok (false, args)
  | fuel + 1, isOperand, args => do
      let (a, args) ← readAll fuel isOperand args
      match operator? (args.drop 1) with
      | some .either =>
          let (b, args) ← readAny fuel false (args.drop 2)
          return (a || b, args)
      | _ => return (a, args)

/-- A condition of parts that must all hold. -/
def readAll : Nat → Bool → List String → Except ConditionError (Bool × List String)
  | 0, _, args => .ok (false, args)
  | fuel + 1, isOperand, args => do
      let (a, args) ← readNot fuel isOperand args
      match operator? (args.drop 1) with
      | some .both =>
          let (b, args) ← readAll fuel false (args.drop 2)
          return (a && b, args)
      | _ => return (a, args)

def readNot : Nat → Bool → List String → Except ConditionError (Bool × List String)
  | 0, _, args => .ok (false, args)
  | fuel + 1, isOperand, args => do
      match if isOperand then none else operator? args with
      | some .negation =>
          if args.length ≤ 1 then return (true, args)
          else
            let (a, args) ← readNot fuel false (args.drop 1)
            return (!a, args)
      | _ => readOne fuel isOperand args

/-- A single condition. Where there is none, it does not hold. -/
def readOne : Nat → Bool → List String → Except ConditionError (Bool × List String)
  | 0, _, args => .ok (false, args)
  | _, _, [] => .ok (false, [])
  | fuel + 1, isOperand, arg :: rest => do
      match if isOperand then none else operator? (arg :: rest) with
      | some .opening =>
          match operator? rest with
          | some .closing => return (false, rest)
          | _ =>
              let (a, args) ← readAny fuel false rest
              match operator? (args.drop 1) with
              | some .closing => return (a, args.drop 1)
              | _ => throw .missingClose
      | some (.unary op) =>
          match rest with
          | [] => throw (.missingArgument op)
          | b :: _ => return (← unary f op b, rest)
      | _ =>
          match operator? rest with
          | some (.binary op) =>
              match rest.drop 1 with
              | [] => throw (.missingArgument op)
              | b :: more => return (← binary f op arg b, b :: more)
          | _ => return (arg ≠ "", arg :: rest)

end

/-- The answer of a whole condition as an exit status would have it: true if it does not hold. -/
def fails : Nat → Bool → List String → Except ConditionError Bool
  | 0, fallback, _ => .ok fallback
  | _, fallback, [] => .ok fallback
  | fuel + 1, fallback, args => do
      let plain (isOperand : Bool) (args : List String) : Except ConditionError Bool := do
        let (answer, left) ← readAny f (4 * args.length + 8) isOperand args
        match left with
        | last :: _ :: _ => throw (.unexpected last)
        | _ => return fallback != answer
      let bracketed := args.head? = some "(" && args.getLast? = some ")"
      let negated := args.head? = some "!"
      if args.length = 3 && Operator.isBinary (args.getD 1 "") then plain true args
      else if args.length = 3 || args.length = 4 then
        if bracketed then plain false ((args.drop 1).dropLast)
        else if negated then fails fuel false (args.drop 1)
        else plain false args
      else plain false args

/-- Whether a condition holds; an empty one does not. -/
def holds (args : List String) : Except ConditionError Bool :=
  (fails f (args.length + 1) true args).map (!·)

end Condition

end ScaffoldRunner
