import ScaffoldRunner.Json.Parser

/-!
# Passing over JSON

A reader that knows the members it wants passes over the others without reading them: they have
to be well formed, but numbers may be of any size, nesting of any depth, and escapes may stand for
half of a surrogate pair.
-/

namespace ScaffoldRunner.Json

/-- Pass over the inside of a string up to its closing quote. -/
def skipString : Nat → List Char → Option (List Char)
  | 0, _ => none
  | fuel + 1, cs =>
      match cs with
      | [] => none
      | '"' :: cs => some cs
      | '\\' :: 'u' :: cs =>
          match hexFour? cs with
          | some (_, cs) => skipString fuel cs
          | none => none
      | '\\' :: c :: cs => if (letterEscape? c).isSome then skipString fuel cs else none
      | ['\\'] => none
      | c :: cs => if c.toNat < 32 then none else skipString fuel cs

mutual

def skipValue : Nat → List Char → Option (List Char)
  | 0, _ => none
  | fuel + 1, cs =>
      match skipSpace cs with
      | 'n' :: 'u' :: 'l' :: 'l' :: cs => some cs
      | 't' :: 'r' :: 'u' :: 'e' :: cs => some cs
      | 'f' :: 'a' :: 'l' :: 's' :: 'e' :: cs => some cs
      | '"' :: cs => skipString fuel cs
      | '[' :: cs =>
          match skipSpace cs with
          | ']' :: cs => some cs
          | cs => skipItems fuel cs
      | '{' :: cs =>
          match skipSpace cs with
          | '}' :: cs => some cs
          | cs => skipMembers fuel cs
      | cs => (numberText? cs).map (·.2)

/-- Pass over the items of an array, with the closing bracket. -/
def skipItems : Nat → List Char → Option (List Char)
  | 0, _ => none
  | fuel + 1, cs =>
      match skipValue fuel cs with
      | none => none
      | some cs =>
          match skipSpace cs with
          | ']' :: cs => some cs
          | ',' :: cs => skipItems fuel cs
          | _ => none

/-- Pass over the members of an object, with the closing brace. -/
def skipMembers : Nat → List Char → Option (List Char)
  | 0, _ => none
  | fuel + 1, cs =>
      match skipSpace cs with
      | '"' :: cs =>
          match skipString fuel cs with
          | none => none
          | some cs =>
              match skipSpace cs with
              | ':' :: cs =>
                  match skipValue fuel cs with
                  | none => none
                  | some cs =>
                      match skipSpace cs with
                      | '}' :: cs => some cs
                      | ',' :: cs => skipMembers fuel cs
                      | _ => none
              | _ => none
      | _ => none

end

/-- Read the wanted members of an object, one at least, and pass over the others. A wanted member
may come once only. -/
def wantedMembers (wanted : List String) : Nat → List (String × Json) → List Char →
    Option (List (String × Json) × List Char)
  | 0, _, _ => none
  | fuel + 1, found, cs =>
      match skipSpace cs with
      | '"' :: cs =>
          match stringBody fuel [] cs with
          | none => none
          | some (key, cs) =>
              match skipSpace cs with
              | ':' :: cs =>
                  let next : Option (List (String × Json) × List Char) :=
                    if wanted.contains key then
                      if Dict.has found key then none
                      else
                        (value fuel (maxDepth - 1) cs).map fun (j, cs) => (found ++ [(key, j)], cs)
                    else (skipValue fuel cs).map fun cs => (found, cs)
                  match next with
                  | none => none
                  | some (found, cs) =>
                      match skipSpace cs with
                      | '}' :: cs => some (found, cs)
                      | ',' :: cs => wantedMembers wanted fuel found cs
                      | _ => none
              | _ => none
      | _ => none

/-- Read a text that holds one record: an object of which only the wanted members count, or an
array of their values. -/
def parseRecord? (wanted : List String) (text : String) : Option Json :=
  let cs := text.toList
  match skipSpace cs with
  | '{' :: rest =>
      let body := match skipSpace rest with
        | '}' :: rest => some ([], rest)
        | rest => wantedMembers wanted (2 * cs.length + 2) [] rest
      match body with
      | some (found, rest) => if (skipSpace rest).isEmpty then some (.obj found) else none
      | none => none
  | _ => parse? text

end ScaffoldRunner.Json
