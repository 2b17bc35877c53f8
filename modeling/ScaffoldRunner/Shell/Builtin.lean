import ScaffoldRunner.Shell.Lookup
import ScaffoldRunner.Shell.Redirection

/-!
# Builtin commands

A builtin command is run by the shell itself. It gets its arguments and answers with its status.
-/

namespace ScaffoldRunner.Shell

structure Builtin where
  name : String
  /-- The arguments may be assignments. -/
  assigns : Bool := false
  run : Evaluator → Care → List String → Sh Nat

namespace Builtin

/-- Options at the front of arguments, with their values, and the arguments after them. The letters
are those of the options, and a colon follows the letter of one that has a value. -/
def optionsFrom (letters : List Char) : Nat → List String →
    Sh (List (Char × String) × List String)
  | 0, args => return ([], args)
  | _, [] => return ([], [])
  | fuel + 1, arg :: args =>
      match arg.toList with
      | ['-', '-'] => return ([], args)
      | '-' :: c :: cs => inWord letters fuel (c :: cs) args
      | _ => return ([], arg :: args)
where
  inWord (letters : List Char) : Nat → List Char → List String →
      Sh (List (Char × String) × List String)
    | 0, _, args => return ([], args)
    | fuel + 1, [], args => optionsFrom letters fuel args
    | fuel + 1, c :: cs, args => do
        let after := letters.dropWhile (· ≠ c)
        if c = ':' || after.isEmpty then Sh.fail ("Illegal option -" ++ String.singleton c)
        else if after.drop 1 |>.head? |>.all (· ≠ ':') then
          let (found, rest) ← inWord letters fuel cs args
          return ((c, "") :: found, rest)
        else
          match cs, args with
          | [], [] => Sh.fail ("No arg for -" ++ String.singleton c ++ " option")
          | [], value :: args => do
              let (found, rest) ← optionsFrom letters fuel args
              return ((c, value) :: found, rest)
          | cs, args => do
              let (found, rest) ← optionsFrom letters fuel args
              return ((c, String.ofList cs) :: found, rest)

def options (letters : String) (args : List String) :
    Sh (List (Char × String) × List String) :=
  optionsFrom letters.toList (args.foldl (fun n arg => n + arg.length + 1) 2) args

/-- A text between single quotes, in the way the shell reads it. -/
def singleQuoted (text : String) : String :=
  let rec go : Nat → List Char → String
    | 0, _ => ""
    | fuel + 1, cs =>
        let front := cs.takeWhile (· ≠ '\'')
        let quotes := (cs.drop front.length).takeWhile (· = '\'')
        let rest := cs.drop (front.length + quotes.length)
        let shown := "'" ++ String.ofList front ++ "'"
        let shown := if quotes.isEmpty then shown else shown ++ "\"" ++ String.ofList quotes ++ "\""
        if rest.isEmpty then shown else shown ++ go fuel rest
  go (text.length + 1) text.toList

end Builtin

end ScaffoldRunner.Shell
