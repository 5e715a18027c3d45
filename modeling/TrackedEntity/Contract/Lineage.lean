/-!
# Lines of descent

A class reads a member from the first class of its *lineage* that has it: itself, then its ancestors
in an order that keeps every class before its bases and the bases of each class in the order in
which they were written. `Lineage.merge` finds that order from the lineages of the bases: again and
again it takes the first head that stands nowhere behind another head.
-/

namespace TrackedEntity.Lineage

variable {α : Type u} [BEq α]

/-- Whether an element may come next: it stands behind no head. -/
def eligible (lineages : List (List α)) (x : α) : Bool :=
  lineages.all fun line => !(line.drop 1).contains x

/-- The first head that may come next. -/
def next? (lineages : List (List α)) : Option α :=
  (lineages.filterMap List.head?).find? (eligible lineages)

/-- A line without its head, if that is the given element. -/
def advance (x : α) : List α → List α
  | [] => []
  | head :: rest => if head == x then rest else head :: rest

/-- The common order of lines, as far as there is one; the fuel bounds its length. -/
def mergeWithin : (fuel : Nat) → List (List α) → List α
  | 0, _ => []
  | fuel + 1, lines =>
    match next? lines with
    | none => []
    | some x => x :: mergeWithin fuel (lines.map (advance x))

/-- The common order of lines, as far as there is one. -/
def merge (lines : List (List α)) : List α := mergeWithin lines.flatten.length lines

/-- The lineage of a class with the given bases, when the lineages of the bases are known. -/
def ofBases (node : α) (bases : List α) (lineage : α → List α) : List α :=
  node :: merge (bases.map lineage ++ [bases])

/-- Everything in a line that was advanced stood in it before. -/
theorem mem_of_mem_advance {x y : α} {line : List α} (h : y ∈ advance x line) : y ∈ line := by
  cases line with
  | nil => exact h
  | cons head rest =>
    simp only [advance] at h
    split at h
    · exact List.mem_cons_of_mem _ h
    · exact h

end TrackedEntity.Lineage
