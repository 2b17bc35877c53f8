import ScaffoldRunner.Utility.Awk.Records
import ScaffoldRunner.Utility.Calendar

/-!
# Functions on texts

Formatted output, parts of texts, replacements and times, as programs on records have them.
-/

namespace ScaffoldRunner.Awk

/-! ## Formats -/

/-- Text that was put together under a format, and what was wrong with the format. -/
structure Formatting where
  text : List Char
  fault : Option String := none

namespace Formatting

/-- Put text together under a format, where conversions are counted. The text so far comes with the
last character first. -/
def go (conversion : String) : Nat → List Char → List Value → Nat → List Char → Formatting
  | 0, _, _, _, done => ⟨done.reverse, none⟩
  | _, [], _, _, done => ⟨done.reverse, none⟩
  | fuel + 1, '%' :: '%' :: cs, args, count, done =>
      go conversion fuel cs args (count + 1) ('%' :: done)
  | fuel + 1, '%' :: cs, args, count, done =>
      let count := count + 1
      let few : Formatting := ⟨done.reverse, some "not enough arguments passed to "⟩
      let improper : Formatting :=
        ⟨done.reverse, some ("improper conversion(number " ++ toString count ++ ") in ")⟩
      match Format.readConversion ['h', 'l', 'L'] cs with
      | (.conversion c, rest) =>
          /- A star takes a number from the arguments. -/
          let size (wanted : Option (Option Nat)) (args : List Value) :
              Option (Option Int × List Value) :=
            match wanted, args with
            | none, args => some (none, args)
            | some (some n), args => some (some (Int.ofNat n), args)
            | some none, v :: args => some (some (Value.toInt v.toNumber), args)
            | some none, [] => none
          match size c.width args with
          | none => few
          | some (width, args) =>
              match size c.precision args with
              | none => few
              | some (precision, args) =>
                  match args with
                  | [] => few
                  | v :: args =>
                      let width := width.getD 0
                      let flags := if width < 0 then '-' :: c.flags else c.flags
                      let width := width.natAbs
                      let precision : Option Nat := precision.bind fun p =>
                        if p < 0 then none else some p.toNat
                      let toLeft := flags.contains '-'
                      let next (found : List Char) : Formatting :=
                        go conversion fuel rest args count (found.reverseAux done)
                      let character (n : Int) : List Char := [Char.ofNat (n % 256).toNat]
                      match c.letter with
                      | 's' =>
                          let cs := (v.toText conversion).toList
                          next (Format.pad toLeft width (match precision with
                            | some p => cs.take p
                            | none => cs))
                      | 'c' =>
                          let cs : List Char := match v with
                            | .unset => character 0
                            | .number x => character (Value.toInt x)
                            | .text s => [s.toList.headD (Char.ofNat 0)]
                            | .input s =>
                                match Value.shown? s with
                                | some x => character (Value.toInt x)
                                | none => [s.toList.headD (Char.ofNat 0)]
                          next (Format.pad toLeft width cs)
                      | 'd' | 'i' =>
                          next (Format.whole 'd' flags width precision (Value.toInt v.toNumber))
                      | 'o' | 'x' | 'X' | 'u' =>
                          next (Format.whole c.letter flags width precision
                            (Value.toInt v.toNumber))
                      | 'e' | 'E' | 'f' | 'F' | 'g' | 'G' | 'a' | 'A' =>
                          next (Value.realText c.letter flags width precision v.toNumber)
                      | _ => improper
      | _ => if args.isEmpty then few else improper
  | fuel + 1, c :: cs, args, count, done => go conversion fuel cs args count (c :: done)

/-- Put text together under a format. -/
def make (conversion : String) (format : String) (args : List Value) : Formatting :=
  go conversion (format.length + 1) format.toList args 0 []

end Formatting

/-! ## Parts -/

/-- The part of a text from some place on, of some size, both cut to whole numbers. A start in front
of the text makes the part longer. -/
def part (text : String) (start : Float) (size : Option Float) : String :=
  let whole (x : Float) : Int := if x.isNaN then 0 else Value.toInt x
  let cs := text.toList
  let first := whole start
  let count := (size.map whole).getD cs.length
  let count := if first < 1 then count - first else count
  String.ofList ((cs.drop (first - 1).toNat).take count.toNat)

/-- The place of the first occurrence of a text in another one, counted from one; zero if there is
none. -/
def placeOf (text part : List Char) : Nat :=
  let rec go : List Char → Nat → Nat
    | [], n => if part.isEmpty then n else 0
    | c :: cs, n => if part.isPrefixOf (c :: cs) then n else go cs (n + 1)
  if part.isEmpty then (if text.isEmpty then 0 else 1) else go text 1

/-! ## Replacements -/

/-- What a match is replaced by. Backslashes in front of an ampersand go in pairs for one, and one
that is left makes it stand for itself. The text so far comes with the last character first. -/
def replacement (found : List Char) : Nat → List Char → List Char → List Char
  | 0, _, done => done
  | _, [], done => done
  | fuel + 1, '&' :: cs, done => replacement found fuel cs (found.reverseAux done)
  | fuel + 1, '\\' :: cs, done =>
      let more := cs.takeWhile (· = '\\')
      let count := more.length + 1
      let rest := cs.drop more.length
      match rest with
      | '&' :: after =>
          let done := List.replicate (count / 2) '\\' ++ done
          if count % 2 = 1 then replacement found fuel after ('&' :: done)
          else replacement found fuel rest done
      | rest => replacement found fuel rest (List.replicate count '\\' ++ done)
  | fuel + 1, c :: cs, done => replacement found fuel cs (c :: done)

/-- Replace matches from some place on. An empty match right behind another one does not count. The
answer is the text with its last character first, and the number of replacements. -/
def replaceFrom (text : Array Char) (r : Regex) (new : List Char) (all : Bool) :
    Nat → Nat → Option Nat → List Char → Nat → List Char × Nat
  | 0, start, _, done, count => ((text.extract start text.size).toList.reverseAux done, count)
  | fuel + 1, start, last, done, count =>
      let rest := ((text.extract start text.size).toList.reverseAux done, count)
      if text.size < start || (!all && count ≠ 0) then rest
      else
        match Pattern.matchFrom? text r.groups r.pattern start with
        | none => rest
        | some m =>
            let done := (text.extract start m.start).toList.reverseAux done
            let isEmpty := m.stop = m.start
            let pass (done : List Char) : List Char :=
              if isEmpty then (text[m.stop]?).toList ++ done else done
            let next := if isEmpty then m.stop + 1 else m.stop
            if isEmpty && last = some m.start then
              replaceFrom text r new all fuel next last (pass done) count
            else
              let found := (text.extract m.start m.stop).toList
              let done := replacement found (new.length + 1) new done
              replaceFrom text r new all fuel next (some m.stop) (pass done) (count + 1)

/-- A text with the first match or all matches of a pattern replaced, and how many there were. -/
def replaced (text : String) (r : Regex) (new : String) (all : Bool) : String × Nat :=
  let cs := text.toList
  let (done, count) :=
    replaceFrom cs.toArray r new.toList all (2 * cs.length + 4) 0 none [] 0
  (String.ofList done.reverse, count)

/-! ## Times -/

/-- The seconds of a time that is told by six numbers, or one less than none. -/
def secondsOf (text : String) : Float :=
  let numbers := (Cutting.words text.toList).map fun word => Value.toInt
    (Value.numberOf (String.ofList word))
  match numbers with
  | year :: month :: day :: hour :: minute :: second :: _ =>
      let months := year * 12 + (month - 1)
      let days := Instant.dayNumber (months / 12) ((months % 12).toNat + 1) 1 + day - 1
      let seconds := days * 86400 + hour * 3600 + minute * 60 + second
      let size := Float.ofNat seconds.natAbs
      if seconds < 0 then -size else size
  | _ => -1.0

end ScaffoldRunner.Awk
