/-!
# Changes of permission bits

The permission bits of a file are changed by an octal number, or by clauses that say for whom which
permissions are added, taken away or set.
-/

namespace ScaffoldRunner.FileMode

/-- The part of the bits that belongs to someone: the permissions, and the special bit. -/
def share (who : Char) : Nat × Nat :=
  match who with
  | 'u' => (0o700, 0o4000)
  | 'g' => (0o070, 0o2000)
  | 'o' => (0o007, 0)
  | _ => (0o777, 0o6000)

/-- The permissions of someone, given to all. -/
def spread (bits : Nat) : Nat := bits * 0o111

/-- The bits that a letter stands for, in the share of someone. -/
def letterBits? (mode : Nat) (isDir : Bool) (mask special : Nat) (letter : Char) : Option Nat :=
  match letter with
  | 'r' => some (0o444 &&& mask)
  | 'w' => some (0o222 &&& mask)
  | 'x' => some (0o111 &&& mask)
  | 'X' => some (if isDir || mode &&& 0o111 ≠ 0 then 0o111 &&& mask else 0)
  | 's' => some special
  | 't' => some 0o1000
  | 'u' => some (spread (mode / 64 % 8) &&& mask)
  | 'g' => some (spread (mode / 8 % 8) &&& mask)
  | 'o' => some (spread (mode % 8) &&& mask)
  | _ => none

def without (mode bits : Nat) : Nat := mode - (mode &&& bits)

/-- The actions of a clause, for those it is about. Without anybody named, the bits that new files
do not get are left alone. -/
def actions? (who : List Char) (hidden : Nat) (isDir : Bool) : Nat → List Char → Nat → Option Nat
  | 0, _, _ => none
  | _, [], mode => some mode
  | fuel + 1, op :: cs, mode =>
      if !"+-=".toList.contains op then none
      else
        let letters := cs.takeWhile fun c => !"+-=".toList.contains c
        let named := if who.isEmpty then ['a'] else who
        let mask := named.foldl (fun bits c => bits ||| (share c).1) 0
        let special := named.foldl (fun bits c => bits ||| (share c).2) 0
        let added : Option Nat := letters.foldlM (fun bits letter =>
          (letterBits? mode isDir mask special letter).map (bits ||| ·)) 0
        added.bind fun bits =>
          let bits := if who.isEmpty then without bits hidden else bits
          let changed := match op with
            | '+' => mode ||| bits
            | '-' => without mode bits
            | _ =>
                let cleared := if isDir then mask else mask ||| special
                without mode (if who.isEmpty then without cleared hidden else cleared) ||| bits
          actions? who hidden isDir fuel (cs.drop letters.length) changed

/-- The permission bits after a change of others, which is an octal number or a list of
clauses. -/
def change? (text : String) (mode hidden : Nat) (isDir : Bool) : Option Nat :=
  let cs := text.toList
  if !cs.isEmpty && cs.all fun c => '0' ≤ c && c ≤ '7' then
    let n := cs.foldl (fun n c => n * 8 + (c.toNat - 48)) 0
    if n < 0o10000 then some n else none
  else
    let rec clauses : Nat → List Char → Nat → Option Nat
      | 0, _, _ => none
      | fuel + 1, cs, mode =>
          let clause := cs.takeWhile (· ≠ ',')
          let who := clause.takeWhile "ugoa".toList.contains
          let acts := clause.drop who.length
          if acts.isEmpty then none
          else
            (actions? who hidden isDir (clause.length + 1) acts mode).bind fun mode =>
              match cs.drop clause.length with
              | [] => some mode
              | _ :: rest => clauses fuel rest mode
    clauses (cs.length + 1) cs mode

end ScaffoldRunner.FileMode
