/-!
# Breadth-first walks

`walkWithin next hidden fuel queue seen` visits the nodes of a graph breadth-first: it takes the
first node of the queue, passes over it if it is hidden or was seen before, and otherwise visits it
and puts its neighbours at the end of the queue. Nodes are marked when they are taken, not when
they are queued, so the queue may hold a node more than once.

The fuel is the number of nodes that may be taken. Every node is expanded at most once, so the walk
takes the start and at most one node per edge of the graph: `walk` needs no more than that.
-/

namespace TrackedEntity.Walk

variable {α : Type u} [BEq α]

/-- The nodes visited from a queue on, when the given ones were seen before. -/
def walkWithin (next : α → List α) (hidden : α → Bool) :
    (fuel : Nat) → (queue seen : List α) → List α
  | 0, _, _ => []
  | _, [], _ => []
  | fuel + 1, node :: queue, seen =>
    if seen.contains node || hidden node then walkWithin next hidden fuel queue seen
    else node :: walkWithin next hidden fuel (queue ++ next node) (node :: seen)

/-- The nodes visited from a start, in a graph with a known number of edges. -/
def walk (next : α → List α) (hidden : α → Bool) (edges : Nat) (start : α) : List α :=
  walkWithin next hidden (edges + 1) [start] []

end TrackedEntity.Walk
