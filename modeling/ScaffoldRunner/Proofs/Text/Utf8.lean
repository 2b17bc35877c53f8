import Mathlib.Data.List.Infix
import ScaffoldRunner.Text.Utf8

/-!
# Texts cut between characters

A text is cut to a number of bytes behind the last character that fits.  In its bytes
this is the edge of a character, and it is found by stepping back byte by byte.  No
character has more than four bytes, so three steps are enough, and the start of the
text is an edge, so the search never has to step back from it.
-/

namespace ScaffoldRunner.Text

variable {cs front : List Char} {text : String} {room cut n : Nat}

theorem utf8ByteSize_ofList (cs : List Char) :
    (String.ofList cs).utf8ByteSize = utf8Length cs := by
  induction cs with
  | nil => rfl
  | cons c cs ih => simp [String.ofList_cons, utf8Length, ih]

/-! ## The longest front that fits -/

theorem utf8Length_le_of_prefix (h : front <+: cs) : utf8Length front ≤ utf8Length cs := by
  obtain ⟨rest, rfl⟩ := h
  rw [utf8Length_append]
  exact Nat.le_add_right _ _

/-- Every front that fits is part of what is taken. -/
theorem prefix_takeBytes (h : front <+: cs) (hroom : utf8Length front ≤ room) :
    front <+: takeBytes room cs := by
  induction cs generalizing front room with
  | nil => exact h
  | cons c cs ih =>
      cases front with
      | nil => exact List.nil_prefix
      | cons d front =>
          obtain ⟨rfl, hrest⟩ := List.cons_prefix_cons.mp h
          rw [utf8Length] at hroom
          rw [takeBytes, if_pos (Nat.le_of_add_right_le hroom)]
          exact List.cons_prefix_cons.mpr ⟨rfl, ih hrest (by omega)⟩

/-- The room that is left is smaller than the character that does not fit any more. -/
theorem le_utf8Length_takeBytes (h : room ≤ utf8Length cs) :
    room ≤ utf8Length (takeBytes room cs) + 3 := by
  induction cs generalizing room with
  | nil => exact h.trans (Nat.zero_le _)
  | cons c cs ih =>
      rw [utf8Length] at h
      rw [takeBytes]
      split
      · have hrest : room - c.utf8Size ≤ utf8Length (takeBytes (room - c.utf8Size) cs) + 3 :=
          ih (by omega)
        rw [utf8Length]
        omega
      · have hsize := c.utf8Size_le_four
        omega

/-- The longest front of a text that has at most some number of bytes. -/
structure IsLongestFront (room : Nat) (kept whole : String) : Prop where
  front : kept.toList <+: whole.toList
  fits : kept.utf8ByteSize ≤ room
  longest : ∀ other : String, other.toList <+: whole.toList → other.utf8ByteSize ≤ room →
    other.toList <+: kept.toList

theorem isLongestFront_takeBytes (room : Nat) (cs : List Char) :
    IsLongestFront room (String.ofList (takeBytes room cs)) (String.ofList cs) where
  front := by
    rw [String.toList_ofList, String.toList_ofList]
    exact takeBytes_prefix room cs
  fits := by
    rw [utf8ByteSize_ofList]
    exact utf8Length_takeBytes_le room cs
  longest := by
    intro other hfront hfits
    rw [← other.ofList_toList, utf8ByteSize_ofList] at hfits
    rw [String.toList_ofList] at hfront ⊢
    exact prefix_takeBytes hfront hfits

/-! ## The search for an edge -/

/-- The first edge of a character that is met from a byte position on backwards, byte by
byte.  There is none when the search would have to step back from the start. -/
def edgeFrom? (text : String) : Nat → Option Nat
  | 0 => if String.Pos.Raw.isValid text 0 then some 0 else none
  | n + 1 => if String.Pos.Raw.isValid text ⟨n + 1⟩ then some (n + 1) else edgeFrom? text n

theorem edgeFrom?_of_isValid (h : String.Pos.Raw.IsValid text ⟨n⟩) :
    edgeFrom? text n = some n := by
  have hvalid := String.Pos.Raw.isValid_eq_true_iff.mpr h
  cases n with
  | zero => exact if_pos hvalid
  | succ n => exact if_pos hvalid

theorem edgeFrom?_of_not_isValid (h : ¬String.Pos.Raw.IsValid text ⟨n + 1⟩) :
    edgeFrom? text (n + 1) = edgeFrom? text n :=
  if_neg (mt String.Pos.Raw.isValid_eq_true_iff.mp h)

/-- The search ends at the last edge that does not lie behind its start. -/
theorem edgeFrom?_eq_some (hcut : String.Pos.Raw.IsValid text ⟨cut⟩) (hle : cut ≤ n)
    (hlast : ∀ m, m ≤ n → String.Pos.Raw.IsValid text ⟨m⟩ → m ≤ cut) :
    edgeFrom? text n = some cut := by
  induction n, hle using Nat.le_induction with
  | base => exact edgeFrom?_of_isValid hcut
  | succ n hle ih =>
      have hnot : ¬String.Pos.Raw.IsValid text ⟨n + 1⟩ := by
        intro hedge
        have := hlast (n + 1) (Nat.le_refl _) hedge
        omega
      rw [edgeFrom?_of_not_isValid hnot]
      exact ih fun m hm => hlast m (Nat.le_succ_of_le hm)

theorem isValid_ofList_iff :
    String.Pos.Raw.IsValid (String.ofList cs) ⟨n⟩ ↔
      ∃ front, front <+: cs ∧ utf8Length front = n := by
  rw [String.Pos.Raw.isValid_ofList]
  constructor
  · rintro ⟨i, hi⟩
    rw [utf8ByteSize_ofList] at hi
    exact ⟨cs.take i, List.take_prefix i cs, hi.symm⟩
  · rintro ⟨front, hfront, hlength⟩
    refine ⟨front.length, ?_⟩
    rw [← List.prefix_iff_eq_take.mp hfront, utf8ByteSize_ofList]
    exact hlength.symm

/-- What is taken ends where the search from the last byte that fits ends. -/
theorem edgeFrom?_ofList (room : Nat) (cs : List Char) :
    edgeFrom? (String.ofList cs) room = some (utf8Length (takeBytes room cs)) := by
  refine edgeFrom?_eq_some ?_ (utf8Length_takeBytes_le room cs) fun m hm hedge => ?_
  · exact isValid_ofList_iff.mpr ⟨_, takeBytes_prefix room cs, rfl⟩
  · obtain ⟨front, hfront, rfl⟩ := isValid_ofList_iff.mp hedge
    exact utf8Length_le_of_prefix (prefix_takeBytes hfront hm)

example : edgeFrom? "a😀" 4 = some 1 := by decide

/-- What is taken is the text up to there, byte by byte. -/
theorem toByteArray_takeBytes (room : Nat) (cs : List Char) :
    (String.ofList (takeBytes room cs)).toByteArray =
      (String.ofList cs).toByteArray.extract 0 (utf8Length (takeBytes room cs)) := by
  obtain ⟨rest, hrest⟩ := takeBytes_prefix room cs
  have hsize : utf8Length (takeBytes room cs) =
      (String.ofList (takeBytes room cs)).toByteArray.size :=
    (utf8ByteSize_ofList _).symm
  have hwhole : (String.ofList cs).toByteArray =
      (String.ofList (takeBytes room cs)).toByteArray ++ (String.ofList rest).toByteArray := by
    rw [← String.toByteArray_append, ← String.ofList_append, hrest]
  rw [hwhole, hsize, ByteArray.extract_append, Nat.zero_sub, Nat.sub_self]
  simp

end ScaffoldRunner.Text
