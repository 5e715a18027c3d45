/-!
# Insertion-ordered tables

A table is a list of key–value pairs that remembers the order in which keys first appeared.
Writing a key again replaces its value and keeps its position (`put`); `putNew` keeps the value
as well, so that the first entry of a key wins.
-/

namespace TrackedEntity

/-- Keys with their values, in the order in which the keys were first written. -/
abbrev Table (κ : Type u) (α : Type v) := List (κ × α)

namespace Table

variable {κ : Type u} {α : Type v} [BEq κ]

/-- The value stored for a key, if any. -/
def get? (t : Table κ α) (k : κ) : Option α := List.lookup k t

/-- Whether the key has an entry. -/
def has (t : Table κ α) (k : κ) : Bool := t.any (·.1 == k)

/-- Writes a key: a new key goes to the end, a known one keeps its place. -/
def put : Table κ α → κ → α → Table κ α
  | [], k, v => [(k, v)]
  | (k', v') :: rest, k, v => if k' == k then (k', v) :: rest else (k', v') :: put rest k v

/-- Writes a key only if it has no entry yet. -/
def putNew (t : Table κ α) (k : κ) (v : α) : Table κ α :=
  if has t k then t else t ++ [(k, v)]

/-- The table without a key. -/
def erase (t : Table κ α) (k : κ) : Table κ α := t.filter fun e => !(e.1 == k)

/-- Writes a key, or erases it when there is no value. -/
def assign (t : Table κ α) (k : κ) : Option α → Table κ α
  | some v => put t k v
  | none => erase t k

/-- The table that results from writing the pairs one after another. -/
def ofPairs (pairs : List (κ × α)) : Table κ α :=
  pairs.foldl (fun t p => put t p.1 p.2) []

/-- The keys in order of first appearance. -/
def keys (t : Table κ α) : List κ := t.map (·.1)

end Table

end TrackedEntity
