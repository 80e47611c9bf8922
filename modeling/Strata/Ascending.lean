/-!
# Ascending lists

Lists in ascending order, and lists in which every element stands once besides.  The order is given
as a test `before`.
-/

namespace Strata.Ascending

variable {α : Type}

/-- Puts an element into a sorted list, before the first one that does not come before it. -/
def place (before : α → α → Bool) (a : α) : List α → List α
  | [] => [a]
  | b :: rest => if before b a then b :: place before a rest else a :: b :: rest

/-- The elements of a list in ascending order. -/
def sort (before : α → α → Bool) (items : List α) : List α :=
  items.foldr (place before) []

/-- Puts an element into an ascending list at its place; one that is there already stays alone. -/
def insert (before : α → α → Bool) (a : α) : List α → List α
  | [] => [a]
  | b :: rest =>
    if before a b then a :: b :: rest
    else if before b a then b :: insert before a rest
    else b :: rest

/-- The elements of a list in ascending order, each once. -/
def ofList (before : α → α → Bool) (items : List α) : List α :=
  items.foldl (fun sorted a => insert before a sorted) []

/-- The order of strings by their characters. -/
def stringBefore (a b : String) : Bool := a < b

/-- Strings in ascending order, each once. -/
def strings (items : List String) : List String :=
  ofList stringBefore items

end Strata.Ascending
