import ScaffoldRunner.Utility.Copying
import ScaffoldRunner.Utility.Listing

/-!
# Digests

Short numbers that are worked out from all octets of an input, and utilities that write and check
them.
-/

namespace ScaffoldRunner.Utility

namespace Digest

/-- Turn the bits of a word to the left. -/
def turn (x : UInt32) (n : Nat) : UInt32 :=
  (x <<< n.toUInt32) ||| (x >>> (32 - n).toUInt32)

/-- The octets of a number, the lowest first. -/
def octets (count n : Nat) : List Nat := (List.range count).map fun i => n / twoTo (8 * i) % 256

/-- Octets in blocks of 64 after a closing mark and the number of their bits. -/
def blocks (bigEndian : Bool) (text : String) : List (Array Nat) :=
  let cs := text.toList.map Char.toNat
  let size := cs.length
  let zeros := (119 - size % 64) % 64
  let bits := octets 8 (8 * size)
  let all := (cs ++ 128 :: List.replicate zeros 0 ++
    (if bigEndian then bits.reverse else bits)).toArray
  (List.range (all.size / 64)).map fun i => all.extract (64 * i) (64 * i + 64)

def words (bigEndian : Bool) (block : Array Nat) : Array UInt32 :=
  ((List.range 16).map fun i =>
    let part := (List.range 4).map fun j => block.getD (4 * i + j) 0
    let part := if bigEndian then part.reverse else part
    (part.foldr (fun b n => n * 256 + b) 0).toUInt32).toArray

/-- Words as hexadecimal digits. -/
def hex (bigEndian : Bool) (state : Array UInt32) : String :=
  String.join (state.toList.flatMap fun w =>
    let part := octets 4 w.toNat
    (if bigEndian then part.reverse else part).map fun b =>
      FileListing.padZero 2 (FileListing.inBase 16 b))

/-- The digest of 128 bits whose constants come from sines. -/
def md5 (text : String) : String :=
  let turns := #[7, 12, 17, 22, 5, 9, 14, 20, 4, 11, 16, 23, 6, 10, 15, 21]
  let constant (i : Nat) : UInt32 :=
    ((Float.abs (Float.sin (Float.ofNat (i + 1))) * 4294967296.0).toUInt64).toUInt32
  let constants := ((List.range 64).map constant).toArray
  let start : Array UInt32 := #[0x67452301, 0xefcdab89, 0x98badcfe, 0x10325476]
  let state := (blocks false text).foldl (fun state block =>
    let m := words false block
    let (a, b, c, d) := (List.range 64).foldl
      (fun ((a, b, c, d) : UInt32 × UInt32 × UInt32 × UInt32) i =>
        let (f, g) : UInt32 × Nat :=
          if i < 16 then ((b &&& c) ||| (~~~b &&& d), i)
          else if i < 32 then ((d &&& b) ||| (~~~d &&& c), (5 * i + 1) % 16)
          else if i < 48 then (b ^^^ c ^^^ d, (3 * i + 5) % 16)
          else (c ^^^ (b ||| ~~~d), 7 * i % 16)
        let sum := a + f + constants.getD i 0 + m.getD g 0
        (d, b + turn sum (turns.getD (i / 16 * 4 + i % 4) 0), b, c))
      (state.getD 0 0, state.getD 1 0, state.getD 2 0, state.getD 3 0)
    (state.zip #[a, b, c, d]).map fun (x, y) => x + y) start
  hex false state

def sha1 (text : String) : String :=
  let start : Array UInt32 := #[0x67452301, 0xefcdab89, 0x98badcfe, 0x10325476, 0xc3d2e1f0]
  let state := (blocks true text).foldl (fun state block =>
    let w := (List.range 64).foldl (fun (w : Array UInt32) i =>
      w.push (turn (w.getD (i + 13) 0 ^^^ w.getD (i + 8) 0 ^^^ w.getD (i + 2) 0 ^^^ w.getD i 0) 1))
      (words true block)
    let (a, b, c, d, e) := (List.range 80).foldl
      (fun ((a, b, c, d, e) : UInt32 × UInt32 × UInt32 × UInt32 × UInt32) i =>
        let (f, k) : UInt32 × UInt32 :=
          if i < 20 then ((b &&& c) ||| (~~~b &&& d), 0x5a827999)
          else if i < 40 then (b ^^^ c ^^^ d, 0x6ed9eba1)
          else if i < 60 then ((b &&& c) ||| (b &&& d) ||| (c &&& d), 0x8f1bbcdc)
          else (b ^^^ c ^^^ d, 0xca62c1d6)
        (turn a 5 + f + e + k + w.getD i 0, a, turn b 30, c, d))
      (state.getD 0 0, state.getD 1 0, state.getD 2 0, state.getD 3 0, state.getD 4 0)
    (state.zip #[a, b, c, d, e]).map fun (x, y) => x + y) start
  hex true state

/-- The prime numbers below 312, of which there are 64. -/
def primes : List Nat :=
  (List.range 312).filter fun n => 2 ≤ n && (List.range n).all fun d => d < 2 || n % d ≠ 0

/-- The largest number whose power is not larger than another one, found bit by bit from the
highest on. -/
def root (power : Nat) (n : Nat) : Nat → Nat → Nat
  | 0, found => found
  | bits + 1, found =>
      let tried := found + twoTo bits
      root power n bits (if Nat.pow tried power ≤ n then tried else found)

/-- The bits behind the point of a root. -/
def rootBits (power p : Nat) : UInt32 :=
  (root power (p * twoTo (32 * power)) 40 0 % twoTo 32).toUInt32

/-- The digest of 256 bits whose constants come from roots of prime numbers. -/
def sha256 (text : String) : String :=
  let constants := (primes.map (rootBits 3)).toArray
  let start := ((primes.take 8).map (rootBits 2)).toArray
  let right (x : UInt32) (n : Nat) : UInt32 := turn x (32 - n)
  let state := (blocks true text).foldl (fun (state : Array UInt32) block =>
    let w := (List.range 48).foldl (fun (w : Array UInt32) i =>
      let x := w.getD (i + 1) 0
      let y := w.getD (i + 14) 0
      let low := right x 7 ^^^ right x 18 ^^^ (x >>> 3)
      let high := right y 17 ^^^ right y 19 ^^^ (y >>> 10)
      w.push (w.getD i 0 + low + w.getD (i + 9) 0 + high)) (words true block)
    let after := (List.range 64).foldl (fun (s : Array UInt32) i =>
      let word (k : Nat) : UInt32 := s.getD k 0
      let e := word 4
      let a := word 0
      let sum := right e 6 ^^^ right e 11 ^^^ right e 25
      let choice := (e &&& word 5) ^^^ (~~~e &&& word 6)
      let first := word 7 + sum + choice + constants.getD i 0 + w.getD i 0
      let other := right a 2 ^^^ right a 13 ^^^ right a 22
      let most := (a &&& word 1) ^^^ (a &&& word 2) ^^^ (word 1 &&& word 2)
      #[first + other + most, a, word 1, word 2, word 3 + first, e, word 5, word 6]) state
    (state.zip after).map fun (x, y) => x + y) start
  hex true state

/-- The remainder of octets, taken as a polynomial, with their number after them. -/
def cyclic (text : String) : Nat :=
  let step (r : UInt32) (b : Nat) : UInt32 :=
    (List.range 8).foldl (fun r _ =>
      if r &&& 0x80000000 ≠ 0 then (r <<< 1) ^^^ 0x04c11db7 else r <<< 1)
      (r ^^^ (b.toUInt32 <<< 24))
  let size := text.length
  let digits := (octets 8 size).reverse.dropWhile (· = 0) |>.reverse
  let r := (text.toList.map Char.toNat ++ digits).foldl step 0
  (~~~r).toNat

end Digest

/-- Write the digests of inputs, or check those that are listed in them. -/
def digestSum (digest : String → String) : Utility Nat := do
  let o ← options
    { letters := "bctqswz\x01"
      names := [("check", 'c'), ("binary", 'b'), ("text", 't'), ("quiet", 'q'), ("status", 's'),
        ("tag", '\x01')] }
  if o.has 'c' then
    return statusOf (← forAll o.inputs fun path => do
      match ← contentsOrComplain path with
      | none => return false
      | some text => do
          let checked ← (linesOf text).1.mapM fun line => do
            let sum := line.toList.takeWhile (· ≠ ' ')
            let name := String.ofList (line.toList.drop (sum.length + 2))
            match ← contents name with
            | .error e => do
                complain (name ++ ": " ++ e.reason)
                if !o.has 's' then put (name ++ ": FAILED open or read\n")
                return (false, true)
            | .ok text => do
                let isRight := digest text = String.ofList sum
                if !o.has 's' && !(isRight && o.has 'q') then
                  put (name ++ (if isRight then ": OK\n" else ": FAILED\n"))
                return (isRight, false)
          let wrong := (checked.filter fun e => !e.1 && !e.2).length
          let unread := (checked.filter (·.2)).length
          let number (n : Nat) (one many : String) : String :=
            toString n ++ " " ++ (if n = 1 then one else many)
          if unread ≠ 0 && !o.has 's' then
            complain ("WARNING: " ++ number unread "listed file" "listed files" ++
              " could not be read")
          if wrong ≠ 0 && !o.has 's' then
            complain ("WARNING: " ++ number wrong "computed checksum" "computed checksums" ++
              " did NOT match")
          return checked.all (·.1))
  else
    return statusOf (← forAll o.inputs fun path => do
      match ← contentsOrComplain path with
      | none => return false
      | some text => do
          put (digest text ++ (if o.has 'b' then " *" else "  ") ++ path ++ "\n")
          return true)

/-- Write the checksums of inputs with their sizes. -/
def cksum : Utility Nat := do
  let o ← options { letters := "" }
  return statusOf (← forAll o.inputs fun path => do
    match ← contentsOrComplain path with
    | none => return false
    | some text => do
        put (toString (Digest.cyclic text) ++ " " ++ toString text.length ++
          (if o.operands.isEmpty then "" else " " ++ path) ++ "\n")
        return true)

end ScaffoldRunner.Utility
