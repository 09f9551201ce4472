import BindingIndex.Text.Utf16

/-!
# Index tables

A table numbers a set of names from 1 in the order of their sort keys. Where the keys of different
names differ it depends on the set alone: a name that is met again is already at its place.

* `IndexTable.insert`: a name put at its place in an ascending list.
* `IndexTable.assign`: the table of a list of names, for any kind of name that has a sort key.
* `IndexTable.ofNames`, `IndexTable.ofUnits`: the tables of texts and of bare unit sequences.
-/

namespace BindingIndex

structure Entry (α : Type) (ι : Type := Int) where
  name : α
  index : ι
  deriving DecidableEq, Repr

namespace IndexTable

variable {α : Type} [DecidableEq α]

/-- Put a name at its place in a list that ascends by `key`; a name that is there stays single. -/
def insert (key : α → List UInt8) (name : α) : List α → List α
  | [] => [name]
  | other :: rest =>
    if key name < key other then name :: other :: rest
    else if name = other then other :: rest
    else other :: insert key name rest

/-- The names in ascending order of their keys, each once. -/
def ordered (key : α → List UInt8) (names : List α) : List α :=
  names.foldr (insert key) []

/-- Number a list from `start` on. -/
def number (start : Int) : List α → List (Entry α)
  | [] => []
  | name :: rest => ⟨name, start⟩ :: number (start + 1) rest

def assign (key : α → List UInt8) (names : List α) : List (Entry α) :=
  number 1 (ordered key names)

def ofNames (names : List Text) : List (Entry Text) := assign Text.sortKey names

/-- The index table of names given as sequences of code units, paired or not. -/
def ofUnits (names : List (List UInt16)) : List (Entry (List UInt16)) :=
  assign Text.unitsKey names

omit [DecidableEq α]

@[simp] theorem map_name_number (start : Int) (names : List α) :
    (number start names).map Entry.name = names := by
  induction names generalizing start with
  | nil => rfl
  | cons n ns ih => simp [number, ih]

@[simp] theorem length_number (start : Int) (names : List α) :
    (number start names).length = names.length := by
  induction names generalizing start with
  | nil => rfl
  | cons n ns ih => simp [number, ih]

end IndexTable

end BindingIndex
