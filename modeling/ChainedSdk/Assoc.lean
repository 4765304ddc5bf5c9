/-
# Ordered dictionaries

A dictionary is the list of its entries in the order in which their keys came
first. Putting a value under a key that is there replaces the value in place;
adding one leaves the dictionary as it is.

Key definitions: `Assoc.get?`, `Assoc.put`, `Assoc.add`.
-/
namespace ChainedSdk
namespace Assoc

variable {κ α : Type} [DecidableEq κ]

/-- The value under a key. -/
def get? (key : κ) : List (κ × α) → Option α
  | [] => none
  | (k, a) :: rest => if k = key then some a else get? key rest

/-- The key has a value. -/
def has (key : κ) (d : List (κ × α)) : Bool :=
  (get? key d).isSome

/-- Puts a value under a key, in the place of the value that was there. -/
def put (key : κ) (value : α) : List (κ × α) → List (κ × α)
  | [] => [(key, value)]
  | (k, a) :: rest => if k = key then (k, value) :: rest else (k, a) :: put key value rest

/-- Adds a value under a key that has none. -/
def add (key : κ) (value : α) (d : List (κ × α)) : List (κ × α) :=
  if has key d then d else d ++ [(key, value)]

/-- The dictionary of a list of entries, the later of two with one key
replacing the earlier one. -/
def ofList (entries : List (κ × α)) : List (κ × α) :=
  entries.foldl (fun d e => put e.1 e.2 d) []

end Assoc
end ChainedSdk
