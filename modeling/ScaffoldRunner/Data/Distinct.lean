/-!
# Lists without duplicates
-/

namespace ScaffoldRunner

/-- The items of a list in the order in which they first occur, appended to those already kept. -/
def distinctOnto (kept : List String) : List String → List String
  | [] => kept
  | x :: xs => distinctOnto (if kept.contains x then kept else kept ++ [x]) xs

/-- The items of a list in the order in which they first occur. -/
def distinct (items : List String) : List String := distinctOnto [] items

/-- Insert a text into a strictly ascending list, unless it is there. -/
def insertAscending (x : String) : List String → List String
  | [] => [x]
  | y :: ys =>
      if x < y then x :: y :: ys
      else if x = y then y :: ys
      else y :: insertAscending x ys

/-- The items of a list in strictly ascending order. -/
def ascending (items : List String) : List String :=
  items.foldl (fun sorted x => insertAscending x sorted) []

end ScaffoldRunner
