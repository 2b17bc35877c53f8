import ScaffoldRunner.Utility.Sed.Script

/-!
# Substitutions

What a substitution makes of a text: matches are looked for from left to right, those that count
are replaced, and parts of a replacement may be written in another letter case.
-/

namespace ScaffoldRunner.Sed

/-- Letters written in some case: how all of them are, and how the next one is. -/
structure CaseWriter where
  /-- The characters so far, the last one first. -/
  written : List Char
  every : LetterCase := .plain
  once : LetterCase := .plain

namespace CaseWriter

/-- Write a character. -/
def put (w : CaseWriter) (c : Char) : CaseWriter :=
  let every := match w.every with
    | .upper => c.toUpper
    | .lower => c.toLower
    | _ => c
  let shown := match w.once with
    | .nextUpper => c.toUpper
    | .nextLower => c.toLower
    | _ => every
  { w with written := shown :: w.written, once := .plain }

/-- Write letters in another case from now on. -/
def turn (w : CaseWriter) : LetterCase → CaseWriter
  | .nextUpper => { w with once := .nextUpper }
  | .nextLower => { w with once := .nextLower }
  | every => { w with every := every, once := .plain }

end CaseWriter

def writeReplacement (text : Array Char) (found : Pattern.Match) (parts : List Replacement)
    (written : List Char) : List Char :=
  (parts.foldl (fun (w : CaseWriter) part =>
    match part with
    | .text cs => cs.foldl CaseWriter.put w
    | .letters c => w.turn c
    | .group 0 => (text.extract found.start found.stop).toList.foldl CaseWriter.put w
    | .group n =>
        ((Pattern.groupText? text found.place.slots n).getD []).foldl CaseWriter.put w)
    { written := written }).written

namespace Substitution

/-- Replace matches from some place on, where `count` of them have been found and the last one
ended at `last`. What was written so far comes with the last character first. An empty match right
after another one does not count. -/
def work (s : Substitution) (pattern : Pattern) (groups : Nat) (text : Array Char) :
    Nat → Nat → Nat → Option Nat → List Char → Bool → List Char × Bool
  | 0, start, _, _, written, hit =>
      ((text.extract start text.size).toList.reverseAux written, hit)
  | fuel + 1, start, count, last, written, hit =>
      let rest := ((text.extract start text.size).toList.reverseAux written, hit)
      if text.size < start then rest
      else
        match Pattern.matchFrom? text (groups + 1) pattern start with
        | none => rest
        | some found =>
            let written := (text.extract start found.start).toList.reverseAux written
            let isEmpty := found.stop = found.start
            /- After an empty match the next character is taken over as it is. -/
            let pass (written : List Char) : List Char :=
              if isEmpty then (text[found.stop]?).toList ++ written else written
            let next := if isEmpty then found.stop + 1 else found.stop
            if isEmpty && last = some found.start then
              work s pattern groups text fuel next count last (pass written) hit
            else
              let count := count + 1
              if count < s.number then
                let kept := (text.extract found.start found.stop).toList.reverseAux written
                work s pattern groups text fuel next count (some found.stop) (pass kept) hit
              else
                let written := writeReplacement text found s.replacement written
                if s.all then
                  work s pattern groups text fuel next count (some found.stop) (pass written) true
                else
                  ((text.extract found.stop text.size).toList.reverseAux written, true)

/-- The text after the substitution, if anything was replaced. -/
def replaced? (s : Substitution) (pattern : Pattern) (groups : Nat) (text : String) :
    Option String :=
  let cs := text.toList.toArray
  match work s pattern groups cs (cs.size + 2) 0 0 none [] false with
  | (written, true) => some (String.ofList written.reverse)
  | (_, false) => none

end Substitution

end ScaffoldRunner.Sed
