import ScaffoldRunner.Utility.Awk.Value

/-!
# Tables

A table has values under keys, which are texts; whole numbers are keys, too, and stand for their
texts. Keys lie in buckets, which is how the order comes about in which they are gone through: by
the bucket, and in a bucket the key that was used last comes first. A key that was only used as a
number gets its place among the texts when it is first needed there.
-/

namespace ScaffoldRunner.Awk

inductive Key where
  | text (s : String)
  | number (n : Int)

namespace Key

def toText : Key → String
  | text s => s
  | number n => toString n

end Key

/-- A value with the forms in which its key is known. -/
structure Entry where
  key : String
  value : Value

structure Table where
  /-- How many keys there are. -/
  size : Nat := 0
  /-- Whether every key has its place among the texts. -/
  sorted : Bool := false
  /-- The values, by the buckets of the texts of their keys. -/
  entries : Array (List Entry) := Array.replicate 64 []
  /-- The texts of the keys in their order, by buckets. -/
  texts : Array (List String) := Array.replicate 64 []
  /-- The keys that were used as numbers in their order, by buckets. -/
  numbers : Array (List Int) := Array.replicate 64 []
  /-- Whether the keys are the numbers up to the size, and nothing but a split has set them. -/
  isList : Bool := false

instance : Inhabited Table := ⟨{}⟩

namespace Table

/-- The mark of a text by which it gets its bucket. -/
def mark (s : String) : Nat :=
  s.foldl (fun h c => (h.xor c.toNat) * 16777619 % 4294967296) 2166136261

/-- How many keys there may be for each bucket. -/
def roomPerBucket : Nat := 12

def bucket (t : Table) (s : String) : Nat := mark s % t.texts.size

def numberBucket (t : Table) (n : Int) : Nat := (n % Int.ofNat t.numbers.size).toNat

/-- A list with an element brought to its front. -/
def toFront {α : Type} [BEq α] (a : α) (as : List α) : List α :=
  match as with
  | first :: _ => if first == a then as else a :: as.erase a
  | [] => [a]

/-- Bring a text to the front of its bucket. -/
def raiseText (t : Table) (s : String) : Table :=
  { t with texts := t.texts.modify (t.bucket s) (toFront s) }

/-- Bring a number to the front of its bucket. -/
def raiseNumber (t : Table) (n : Int) : Table :=
  { t with numbers := t.numbers.modify (t.numberBucket n) (toFront n) }

/-- The value under a text, if the key is there. -/
def find? (t : Table) (s : String) : Option Value :=
  ((t.entries.getD (mark s % t.entries.size) []).find? fun e => e.key = s).map (·.value)

/-- Give the numbers of a list their places. -/
def spread (t : Table) : Table :=
  if t.isList then
    (List.range t.size).foldl (fun t i => t.raiseNumber (Int.ofNat i + 1))
      { t with isList := false }
  else t

/-- Give every key its place among the texts. -/
def sort (t : Table) : Table :=
  let t := t.spread
  if t.sorted then t
  else
    t.numbers.foldl (fun t numbers => numbers.foldl (fun t n => t.raiseText (toString n)) t)
      { t with sorted := true }

/-- Twice as many buckets, where each bucket is split in two. -/
def double {α : Type} (place : α → Nat → Nat) (buckets : Array (List α)) : Array (List α) :=
  let size := 2 * buckets.size
  let half (first : Nat) : Array (List α) :=
    buckets.mapIdx fun i as => as.filter fun a => place a size = first + i
  half 0 ++ half buckets.size

/-- Make room for one more key. -/
def grow (t : Table) : Table :=
  let t := { t with size := t.size + 1 }
  if t.size ≤ roomPerBucket * t.texts.size then t
  else
    { t with
      entries := double (fun e size => mark e.key % size) t.entries
      texts := double (fun s size => mark s % size) t.texts
      numbers := double (fun n size => (n % Int.ofNat size).toNat) t.numbers }

/-- Set a value under a key that has its place. -/
def put (t : Table) (s : String) (value : Value) : Table :=
  { t with entries := t.entries.modify (mark s % t.entries.size) fun es =>
      if es.any fun e => e.key = s then
        es.map fun e => if e.key = s then { e with value := value } else e
      else { key := s, value := value } :: es }

/-- Look for a key. One that is there comes to the front of its bucket; one that is not is added
with no value, if so asked. -/
def touch (t : Table) (creates : Bool) : Key → Table
  | .text s =>
      let t := t.sort
      match t.find? s with
      | some _ => t.raiseText s
      | none => if creates then t.grow.put s .unset |>.raiseText s else t
  | .number n =>
      let s := toString n
      if t.isList && 1 ≤ n && n ≤ Int.ofNat t.size then t
      else
        let t := t.spread
        let isKnown := (t.numbers.getD (t.numberBucket n) []).contains n
        if isKnown then t.raiseNumber n
        else
          match t.find? s with
          | some _ => (t.raiseText s).raiseNumber n
          | none =>
              if !creates then t
              else
                let t := t.grow.put s .unset
                let t := if t.sorted then t.raiseText s else t
                t.raiseNumber n

def has (t : Table) (key : Key) : Bool := (t.find? key.toText).isSome

def get (t : Table) (key : Key) : Value := (t.find? key.toText).getD .unset

def set (t : Table) (key : Key) (value : Value) : Table := (t.touch true key).put key.toText value

def erase (t : Table) (key : Key) : Table :=
  if !t.has key then t.touch false key
  else if t.size = 1 then {}
  else
    let t := match key with
      | .text _ => t.sort
      | .number _ => t.spread
    let s := key.toText
    let isSame (n : Int) : Bool := toString n = s
    { t with
      size := t.size - 1
      entries := t.entries.modify (mark s % t.entries.size) (·.filter fun e => e.key ≠ s)
      texts := t.texts.modify (t.bucket s) (·.erase s)
      numbers := match s.toInt? with
        | some n => t.numbers.modify (t.numberBucket n) (·.filter fun n => !isSame n)
        | none => t.numbers }

/-- The table of some values under the numbers from one on. -/
def ofList (values : List Value) : Table :=
  let filled := (values.zip (List.range values.length)).foldl
    (fun (t : Table) (value, i) => t.grow.put (toString (i + 1)) value) ({} : Table)
  { filled with isList := !values.isEmpty }

def keys (t : Table) : List String := t.sort.texts.toList.flatten

end Table

end ScaffoldRunner.Awk
