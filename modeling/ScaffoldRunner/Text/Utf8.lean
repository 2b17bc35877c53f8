/-!
# Texts as bytes

The length of a text in UTF-8 bytes, the longest prefix that fits a number of bytes, and the
reading of bytes as text: strict, or with a replacement character for each maximal part that is
not the start of a character.

Programs pass bytes to each other. Such bytes are written as a text of octets, whose characters are
the bytes, each below 256; a length counts bytes, and nothing is lost when the bytes are no UTF-8.
-/

namespace ScaffoldRunner.Text

/-- The number of bytes of a list of characters in UTF-8. -/
def utf8Length : List Char → Nat
  | [] => 0
  | c :: cs => c.utf8Size + utf8Length cs

/-- The longest prefix of at most `room` bytes. -/
def takeBytes : Nat → List Char → List Char
  | _, [] => []
  | room, c :: cs =>
      if c.utf8Size ≤ room then c :: takeBytes (room - c.utf8Size) cs else []

theorem utf8Length_append (xs ys : List Char) :
    utf8Length (xs ++ ys) = utf8Length xs + utf8Length ys := by
  induction xs with
  | nil => simp [utf8Length]
  | cons c xs ih => simp [utf8Length, ih, Nat.add_assoc]

theorem utf8Length_takeBytes_le (room : Nat) (cs : List Char) :
    utf8Length (takeBytes room cs) ≤ room := by
  induction cs generalizing room with
  | nil => simp [takeBytes, utf8Length]
  | cons c cs ih =>
      rw [takeBytes]
      split
      · have := ih (room - c.utf8Size)
        simp only [utf8Length]
        omega
      · simp [utf8Length]

theorem takeBytes_prefix (room : Nat) (cs : List Char) : takeBytes room cs <+: cs := by
  induction cs generalizing room with
  | nil => simp [takeBytes]
  | cons c cs ih =>
      rw [takeBytes]
      split
      · exact (List.prefix_cons_inj c).mpr (ih _)
      · exact List.nil_prefix

/-- What follows the first byte of a multi-byte character: the first continuation byte lies
between the two bounds, and `more` others follow it. -/
def leadByte (b : UInt8) : Option (UInt8 × UInt8 × Nat) :=
  if 0xC2 ≤ b && b ≤ 0xDF then some (0x80, 0xBF, 0)
  else if b == 0xE0 then some (0xA0, 0xBF, 1)
  else if b == 0xED then some (0x80, 0x9F, 1)
  else if 0xE1 ≤ b && b ≤ 0xEF then some (0x80, 0xBF, 1)
  else if b == 0xF0 then some (0x90, 0xBF, 2)
  else if 0xF1 ≤ b && b ≤ 0xF3 then some (0x80, 0xBF, 2)
  else if b == 0xF4 then some (0x80, 0x8F, 2)
  else none

/-- Read up to `more` plain continuation bytes; `none` when one is missing. The second part is
what was left unread. -/
def readTail : Nat → Nat → List UInt8 → Option Nat × List UInt8
  | 0, acc, bs => (some acc, bs)
  | more + 1, acc, b :: bs =>
      if 0x80 ≤ b && b ≤ 0xBF then readTail more (acc * 64 + (b.toNat - 0x80)) bs
      else (none, b :: bs)
  | _ + 1, _, [] => (none, [])

/-- Read one character; `none` stands for a maximal part that starts no character. -/
def readChar (b : UInt8) (bs : List UInt8) : Option Char × List UInt8 :=
  if b < 0x80 then (some (Char.ofNat b.toNat), bs)
  else
    match leadByte b, bs with
    | some (lo, hi, more), c :: rest =>
        if lo ≤ c && c ≤ hi then
          let lead := if more = 0 then b.toNat - 0xC0 else if more = 1 then b.toNat - 0xE0
            else b.toNat - 0xF0
          let (code, rest) := readTail more (lead * 64 + (c.toNat - 0x80)) rest
          (code.map Char.ofNat, rest)
        else (none, bs)
    | _, _ => (none, bs)

theorem readTail_length_le (more acc : Nat) (bs : List UInt8) :
    (readTail more acc bs).2.length ≤ bs.length := by
  induction more generalizing acc bs with
  | zero => simp [readTail]
  | succ more ih =>
      cases bs with
      | nil => simp [readTail]
      | cons b bs =>
          rw [readTail]
          split
          · exact Nat.le_succ_of_le (ih _ _)
          · simp

theorem readChar_length_le (b : UInt8) (bs : List UInt8) :
    (readChar b bs).2.length ≤ bs.length := by
  unfold readChar
  split
  · exact Nat.le_refl _
  · split
    · split
      · exact Nat.le_succ_of_le (readTail_length_le _ _ _)
      · exact Nat.le_refl _
    · exact Nat.le_refl _

/-- Read bytes as text; each maximal part that starts no character becomes U+FFFD. -/
def decodeLossy : List UInt8 → List Char
  | [] => []
  | b :: bs =>
      let r := readChar b bs
      r.1.getD '\uFFFD' :: decodeLossy r.2
termination_by bs => bs.length
decreasing_by
  simp only [List.length_cons]
  exact Nat.lt_succ_of_le (readChar_length_le b bs)

/-- The text of the bytes, with U+FFFD for what is not UTF-8. -/
def ofBytesLossy (bytes : ByteArray) : String :=
  match String.fromUTF8? bytes with
  | some s => s
  | none => String.ofList (decodeLossy bytes.toList)

end ScaffoldRunner.Text

namespace ScaffoldRunner.Octets

def ofBytes (bytes : ByteArray) : String :=
  bytes.foldl (fun text b => text.push (Char.ofNat b.toNat)) ""

def toBytes (octets : String) : ByteArray :=
  octets.foldl (fun bytes c => bytes.push c.toNat.toUInt8) .empty

/-- Whether all characters of a text are ASCII, so that the text and its octets are the same. -/
def isPlain (text : String) : Bool := text.toList.all fun c => c.toNat < 128

def encode (text : String) : String := if isPlain text then text else ofBytes text.toUTF8

/-- The text that octets are in UTF-8; what is no UTF-8 is replaced. -/
def decode (octets : String) : String :=
  if isPlain octets then octets else Text.ofBytesLossy (toBytes octets)

end ScaffoldRunner.Octets
