/-!
# Ordered entries

A list of pairs read as a table from keys to values that remembers the order in which its keys
first came in. Setting a key that is present keeps its place.
-/

namespace ControlProps.Entries

variable {α : Type}

/-- The keys in order. -/
def keys (entries : List (String × α)) : List String := entries.map Prod.fst

/-- Whether a key is present. -/
def hasKey (key : String) (entries : List (String × α)) : Bool := (keys entries).contains key

/-- Sets a key: in place if it is present, else as the last entry. -/
def set (entries : List (String × α)) (key : String) (value : α) : List (String × α) :=
  match entries with
  | [] => [(key, value)]
  | entry :: rest => if entry.1 = key then (key, value) :: rest else entry :: set rest key value

/-- The entries set one after the other: of a repeated key, the first place and the last value. -/
def ofList (entries : List (String × α)) : List (String × α) :=
  entries.foldl (fun table entry => set table entry.1 entry.2) []

/-- Adds a name to a list without repetition. -/
def insertName (names : List String) (name : String) : List String :=
  if names.contains name then names else names ++ [name]

/-- The names in order of their first occurrence. -/
def distinct (names : List String) : List String := names.foldl insertName []

end ControlProps.Entries
