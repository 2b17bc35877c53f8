import ScaffoldRunner.Utility.Copying
import ScaffoldRunner.Utility.Listing

/-!
# Writing octets in other forms

`od` writes octets as numbers or characters, and `base64` writes them as letters and digits.
-/

namespace ScaffoldRunner.Utility

namespace Dump

/-- How a group of octets is written. -/
inductive Form where
  | char
  /-- Names of control characters. -/
  | named
  /-- A number of some octets in a base, with a sign if so asked. -/
  | number (size base : Nat) (signed : Bool)

/-- The number of octets in a group. -/
def Form.size : Form → Nat
  | number size _ _ => size
  | _ => 1

/-- The number of digits that are enough for all numbers of some octets. -/
def digitCount (size base : Nat) : Nat := (Nat.toDigits base (twoTo (8 * size) - 1)).length

/-- The width of a group, with the blank in front. -/
def Form.width : Form → Nat
  | number size base signed => digitCount size base + (if signed then 2 else 1)
  | _ => 4

/-- A group of octets, the lowest first. -/
def Form.text (f : Form) (cs : List Char) : String :=
  let n := cs.foldr (fun c n => n * 256 + c.toNat) 0
  match f with
  | .number size base signed =>
      let digits := FileListing.inBase base
      let shown := if base = 10 then
          (if signed && twoTo (8 * size - 1) ≤ n then "-" ++ digits (twoTo (8 * size) - n)
          else digits n)
        else FileListing.padZero (digitCount size base) (digits n)
      FileListing.padLeft f.width shown
  | .char =>
      let shown := match Char.ofNat n with
        | '\x00' => "\\0"
        | '\x07' => "\\a"
        | '\x08' => "\\b"
        | '\x0c' => "\\f"
        | '\n' => "\\n"
        | '\r' => "\\r"
        | '\t' => "\\t"
        | '\x0b' => "\\v"
        | c => if ' ' ≤ c && c ≤ '~' then String.singleton c
            else FileListing.padZero 3 (FileListing.inBase 8 n)
      FileListing.padLeft 4 shown
  | .named =>
      let names := ["nul", "soh", "stx", "etx", "eot", "enq", "ack", "bel", "bs", "ht", "nl", "vt",
        "ff", "cr", "so", "si", "dle", "dc1", "dc2", "dc3", "dc4", "nak", "syn", "etb", "can",
        "em", "sub", "esc", "fs", "gs", "rs", "us", "sp"]
      let n := n % 128
      let shown := if n = 127 then "del" else (names[n]?).getD (String.singleton (Char.ofNat n))
      FileListing.padLeft 4 shown

/-- A form, and whether the octets are written as characters behind it. -/
structure Column where
  form : Form
  shows : Bool := false

/-- The columns that a text of letters and sizes stands for. -/
def columns? : Nat → List Char → Option (List Column)
  | 0, _ => none
  | _, [] => some []
  | fuel + 1, c :: cs =>
      let found (f : Form) (rest : List Char) : Option (List Column) :=
        match rest with
        | 'z' :: rest => (columns? fuel rest).map (⟨f, true⟩ :: ·)
        | rest => (columns? fuel rest).map (⟨f, false⟩ :: ·)
      if c = 'a' then found .named cs
      else if c = 'c' then found .char cs
      else
        let digits := cs.takeWhile Char.isDigit
        let rest := cs.drop digits.length
        let (size, rest) : Nat × List Char := match digits, rest with
          | [], 'C' :: rest => (1, rest)
          | [], 'S' :: rest => (2, rest)
          | [], 'I' :: rest => (4, rest)
          | [], 'L' :: rest => (8, rest)
          | [], rest => (4, rest)
          | digits, rest => (digits.foldl (fun n c => n * 10 + (c.toNat - 48)) 0, rest)
        let form : Option Form := match c with
          | 'd' => some (.number size 10 true)
          | 'u' => some (.number size 10 false)
          | 'o' => some (.number size 8 false)
          | 'x' => some (.number size 16 false)
          | _ => none
        if !([1, 2, 4, 8].contains size) then none
        else form.bind fun f => found f rest

/-- Octets in groups of some size; the last one is filled up with zeros. -/
def groups (size : Nat) : Nat → List Char → List (List Char)
  | 0, _ => []
  | _, [] => []
  | fuel + 1, cs =>
      let group := cs.take size
      (group ++ List.replicate (size - group.length) '\x00') :: groups size fuel (cs.drop size)

/-- A line of octets in one column, where each column has the room that the widest needs. -/
def line (columns : List Column) (perLine : Nat) (c : Column) (cs : List Char) : String :=
  /- The width of eight octets in the widest form. -/
  let room := (columns.map fun g => g.form.width * 8 / g.form.size).foldl max 0
  let width := room * c.form.size / 8
  let text := String.join ((groups c.form.size cs.length cs).map fun group =>
    FileListing.padLeft width (c.form.text group))
  if c.shows then
    let plain := cs.map fun c => if ' ' ≤ c && c ≤ '~' then c else '.'
    FileListing.padRight (width * (perLine / c.form.size)) text ++
      "  >" ++ String.ofList plain ++ "<"
  else text

/-- The lines of a dump. Lines that are the same as the one before are left out, and a star stands
for them. -/
def lines (columns : List Column) (address : Nat → String) (perLine : Nat) (all : Bool) :
    Nat → Nat → Option (List Char) → Bool → List Char → List String → List String
  | 0, _, _, _, _, out => out.reverse
  | _, offset, _, _, [], out =>
      (if address offset = "" then out else (address offset ++ "\n") :: out).reverse
  | fuel + 1, offset, last, starred, cs, out =>
      let now := cs.take perLine
      let rest := cs.drop perLine
      let isSame := !all && last = some now && now.length = perLine && !rest.isEmpty
      if isSame then
        lines columns address perLine all fuel (offset + now.length) last true rest
          (if starred then out else "*\n" :: out)
      else
        let blank := String.ofList (List.replicate (address offset).length ' ')
        let texts := (List.range columns.length).zip columns |>.map fun (i, c) =>
          (if i = 0 then address offset else blank) ++ line columns perLine c now ++ "\n"
        lines columns address perLine all fuel (offset + now.length) (some now) false rest
          (texts.reverse ++ out)

end Dump

open Dump in
/-- Write octets as numbers or characters. -/
def od : Utility Nat := do
  let o ← options
    { letters := "A:abcdfhij:lN:ost:vw::x"
      names := [("address-radix", 'A'), ("format", 't'), ("skip-bytes", 'j'),
        ("read-bytes", 'N'), ("output-duplicates", 'v'), ("width", 'w')] }
  let one (f : Form) : List Column := [⟨f, false⟩]
  let columns ← o.given.mapM fun (letter, value) => do
    match letter with
    | 't' =>
        match columns? (value.length + 1) value.toList with
        | some found => return found
        | none => do
            complain ("invalid type string " ++ quoted value)
            leave 1
    | 'a' => return one (Form.named)
    | 'b' => return one (Form.number 1 8 false)
    | 'c' => return one (Form.char)
    | 'd' => return one (Form.number 2 10 false)
    | 'i' => return one (Form.number 4 10 true)
    | 'l' => return one (Form.number 8 10 true)
    | 'o' => return one (Form.number 2 8 false)
    | 's' => return one (Form.number 2 10 true)
    | 'x' | 'h' => return one (Form.number 2 16 false)
    | _ => return []
  let columns := if columns.flatten.isEmpty then one (Form.number 2 8 false) else columns.flatten
  let address (n : Nat) : String := match o.value? 'A' with
    | some "n" => ""
    | some "d" => FileListing.padZero 7 (toString n)
    | some "x" => FileListing.padZero 6 (FileListing.inBase 16 n)
    | _ => FileListing.padZero 7 (FileListing.inBase 8 n)
  let texts ← o.inputs.mapM contentsOrComplain
  if texts.all Option.isNone then return 1
  let cs := (String.join (texts.filterMap id)).toList
  let skipped := ((o.value? 'j').bind sizeOf?).getD 0
  let cs := cs.drop skipped
  let cs := match (o.value? 'N').bind sizeOf? with
    | some n => cs.take n
    | none => cs
  let perLine := match o.value? 'w' with
    | some text => (text.toNat?).getD 32
    | none => 16
  put (String.join
    (lines columns address perLine (o.has 'v') (cs.length + 2) skipped none false cs []))
  return statusOf (texts.all Option.isSome)

/-! ## Letters and digits -/

/-- The digits of a number in the base 64. -/
def base64Alphabet : List Char :=
  "ABCDEFGHIJKLMNOPQRSTUVWXYZabcdefghijklmnopqrstuvwxyz0123456789+/".toList

/-- Octets in the base 64, the last digits first. -/
def encode64 : List Char → List Char → List Char
  | a :: b :: c :: cs, out =>
      let n := a.toNat * 65536 + b.toNat * 256 + c.toNat
      let digit (k : Nat) : Char := base64Alphabet.getD (n / k % 64) '='
      encode64 cs (digit 1 :: digit 64 :: digit 4096 :: digit 262144 :: out)
  | [a, b], out =>
      let n := a.toNat * 1024 + b.toNat * 4
      let digit (k : Nat) : Char := base64Alphabet.getD (n / k % 64) '='
      '=' :: digit 1 :: digit 64 :: digit 4096 :: out
  | [a], out =>
      let n := a.toNat * 16
      let digit (k : Nat) : Char := base64Alphabet.getD (n / k % 64) '='
      '=' :: '=' :: digit 1 :: digit 64 :: out
  | [], out => out

/-- The octets of digits in the base 64, the last octets first, and whether the digits are right. -/
def decode64 : List Char → List Char → List Char × Bool
  | [], out => (out, true)
  | a :: b :: c :: d :: cs, out =>
      let value (c : Char) : Option Nat := base64Alphabet.findIdx? (· = c)
      let octet (n : Nat) : Char := Char.ofNat (n % 256)
      match value a, value b, value c, value d with
      | some a, some b, some c, some d =>
          let n := a * 262144 + b * 4096 + c * 64 + d
          decode64 cs (octet n :: octet (n / 256) :: octet (n / 65536) :: out)
      | some a, some b, some c, none =>
          let n := a * 4096 + b * 64 + c
          (octet (n / 4) :: octet (n / 1024) :: out, d = '=' && cs.isEmpty)
      | some a, some b, none, none =>
          (octet ((a * 64 + b) / 16) :: out, c = '=' && d = '=' && cs.isEmpty)
      | _, _, _, _ => (out, false)
  | _, out => (out, false)

/-- A text in lines of some length; zero stands for no limit. -/
def wrapped (width : Nat) : Nat → List Char → List Char → List Char
  | 0, _, out => out.reverse
  | _, [], out => out.reverse
  | fuel + 1, cs, out =>
      if width = 0 then cs
      else wrapped width fuel (cs.drop width) ('\n' :: (cs.take width).reverseAux out)

/-- Write the input in the base 64, or back. -/
def base64 : Utility Nat := do
  let o ← options
    { letters := "diw:", names := [("decode", 'd'), ("ignore-garbage", 'i'), ("wrap", 'w')] }
  match ← contentsOrComplain (o.operands.headD "-") with
  | none => return 1
  | some text =>
      if o.has 'd' then do
        let cs := text.toList.filter fun c =>
          c ≠ '\n' && (!o.has 'i' || c = '=' || base64Alphabet.contains c)
        let (out, isRight) := decode64 cs []
        put (String.ofList out.reverse)
        if !isRight then complain "invalid input"
        return statusOf isRight
      else do
        let cs := (encode64 text.toList []).reverse
        let width := ((o.value? 'w').bind String.toNat?).getD 76
        put (String.ofList (wrapped width (cs.length + 1) cs []))
        return 0

end ScaffoldRunner.Utility
