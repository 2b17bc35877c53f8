import ScaffoldRunner.Json.Basic

/-!
# Tables of a TOML document

While a document is read, a table remembers how it came to be: by a header of its own, as a table
on the way to another one, or by keys with points. This decides what may still be added to it: a
header opens a table once, keys with points do not reach into a table with a header, and a value
is never replaced.
-/

namespace ScaffoldRunner.Toml

inductive Origin where
  | header
  | implied
  | dotted
  deriving DecidableEq, Repr

/-- What lies under a key: a finished value, a table, or a list of tables of which the last one is
still open. -/
inductive Item where
  | value (j : Json)
  | table (origin : Origin) (members : List (String × Item))
  | tables (closed : List Json) (last : List (String × Item))

/-- The members of an open table. -/
abbrev Table := Dict Item

mutual

def Item.toJson : Item → Json
  | .value j => j
  | .table _ members => .obj (tableMembers members)
  | .tables closed last => .arr (closed ++ [.obj (tableMembers last)])

/-- The values of the members of a table. -/
def tableMembers : List (String × Item) → List (String × Json)
  | [] => []
  | (key, item) :: rest => (key, item.toJson) :: tableMembers rest

end

namespace Table

/-- Change the table at the end of a path. Tables on the way that are missing are made; on a path
of keys with points, no table with a header may lie. -/
def change (byDots : Bool) (f : Origin → Table → Option Table) :
    List String → Origin → Table → Option Table
  | [], origin, table => f origin table
  | key :: path, _, table =>
      match table.get? key with
      | none => do
          let made := if byDots then .dotted else .implied
          let sub ← change byDots f path made []
          return table.insert key (.table made sub)
      | some (.value _) => none
      | some (.tables closed last) => do
          let last ← change byDots f path .header last
          return table.insert key (.tables closed last)
      | some (.table origin sub) =>
          if byDots ∧ origin = .header then none
          else do
            let sub ← change byDots f path origin sub
            return table.insert key (.table origin sub)

def addNew (key : String) (value : Json) (table : Table) : Option Table :=
  if table.has key then none else some (table.insert key (.value value))

/-- Enter a value under a path of keys, counted from the table. -/
def addValue (path : List String) (key : String) (value : Json) (table : Table) : Option Table :=
  if path = [] then addNew key value table
  else
    change true (fun origin t => if origin = .dotted then addNew key value t else none) path
      .header table

def openTable (path : List String) (key : String) (root : Table) : Option Table :=
  change false
    (fun _ t =>
      match t.get? key with
      | none => some (t.insert key (.table .header []))
      | some (.table .implied members) => some (t.insert key (.table .header members))
      | some _ => none)
    path .header root

/-- Open the next table of a list of tables. -/
def openNext (path : List String) (key : String) (root : Table) : Option Table :=
  change false
    (fun _ t =>
      match t.get? key with
      | none => some (t.insert key (.tables [] []))
      | some (.tables closed last) =>
          some (t.insert key (.tables (closed ++ [.obj (tableMembers last)]) []))
      | some _ => none)
    path .header root

/-- Enter a value into the table that was opened last. -/
def addCurrent (current path : List String) (key : String) (value : Json) (root : Table) :
    Option Table :=
  change false (fun _ t => addValue path key value t) current .header root

end Table

end ScaffoldRunner.Toml
