import Mathlib.Algebra.Order.BigOperators.Group.Finset
import Mathlib.Logic.Relation
import TrackedEntity.Contract.ClassGraph

/-!
# What a walk visits

A walk visits exactly the nodes that a path of nodes that are not hidden leads to
(`Walk.mem_walk_iff`), each of them once (`Walk.nodup_walk`).  Its fuel is enough because every node
is expanded at most once: the nodes in the queue and the edges that leave nodes not seen so far are
together no more than the fuel, and they get fewer as the fuel does (`Walk.pending_cons`).

For classes: a walk over a contract visits what `ClassGraph.Visits` says, and the ancestors of a
class are what `ClassGraph.DerivesFrom` says.  Whether the bases go round in circles does not
matter.
-/

namespace TrackedEntity

namespace Walk

variable {α : Type u} [DecidableEq α] {next : α → List α} {hidden : α → Bool}

/-- Whether a walk that visits one node goes on to another. -/
def Follows (next : α → List α) (hidden : α → Bool) (a b : α) : Prop :=
  b ∈ next a ∧ hidden b = false

/-! ### Soundness -/

/-- What holds of the nodes in the queue, and of whatever follows a node, holds of all nodes that
are visited. -/
theorem of_mem_walkWithin {P : α → Prop} (hnext : ∀ a b, P a → Follows next hidden a b → P b)
    {fuel : ℕ} {queue seen : List α} (hqueue : ∀ a ∈ queue, hidden a = false → P a) {x : α}
    (hx : x ∈ walkWithin next hidden fuel queue seen) : P x := by
  fun_induction walkWithin next hidden fuel queue seen with
  | case1 => cases hx
  | case2 => cases hx
  | case3 fuel node queue seen hskip ih =>
    exact ih (fun a ha => hqueue a (List.mem_cons_of_mem _ ha)) hx
  | case4 fuel node queue seen hvisit ih =>
    have hnode : P node := by
      simp only [Bool.or_eq_true, not_or, Bool.not_eq_true] at hvisit
      exact hqueue node List.mem_cons_self hvisit.2
    rcases List.mem_cons.1 hx with rfl | hx
    · exact hnode
    · refine ih (fun a ha hshown => ?_) hx
      rcases List.mem_append.1 ha with ha | ha
      · exact hqueue a (List.mem_cons_of_mem _ ha) hshown
      · exact hnext node a hnode ⟨ha, hshown⟩

/-- No node is visited twice, nor when it was seen before. -/
theorem nodup_walkWithin (fuel : ℕ) (queue seen : List α) :
    (walkWithin next hidden fuel queue seen).Nodup ∧
      ∀ a ∈ walkWithin next hidden fuel queue seen, a ∉ seen := by
  fun_induction walkWithin next hidden fuel queue seen with
  | case1 => exact ⟨List.nodup_nil, fun a ha => by cases ha⟩
  | case2 => exact ⟨List.nodup_nil, fun a ha => by cases ha⟩
  | case3 fuel node queue seen hskip ih => exact ih
  | case4 fuel node queue seen hvisit ih =>
    obtain ⟨hnodup, hunseen⟩ := ih
    have hnode : node ∉ seen := fun hmem => hvisit (by simp [hmem])
    refine ⟨List.nodup_cons.2 ⟨fun hmem => hunseen node hmem List.mem_cons_self, hnodup⟩, ?_⟩
    intro a ha
    rcases List.mem_cons.1 ha with rfl | ha
    · exact hnode
    · exact fun hmem => hunseen a ha (List.mem_cons_of_mem _ hmem)

/-! ### Completeness -/

/-- The number of edges that leave nodes which were not seen. -/
def pending (next : α → List α) (nodes : Finset α) (seen : List α) : ℕ :=
  ∑ a ∈ nodes with a ∉ seen, (next a).length

/-- Expanding a node moves its edges from the pending ones to the queue. -/
theorem pending_cons {nodes : Finset α} (hnodes : ∀ a, next a ≠ [] → a ∈ nodes) {node : α}
    {seen : List α} (hnode : node ∉ seen) :
    (next node).length + pending next nodes (node :: seen) = pending next nodes seen := by
  have herase : {a ∈ nodes | a ∉ node :: seen} = {a ∈ nodes | a ∉ seen}.erase node := by
    ext a
    simp only [Finset.mem_filter, Finset.mem_erase, List.mem_cons, not_or]
    exact and_left_comm
  rw [pending, herase]
  by_cases hmem : node ∈ nodes
  · have hmem' : node ∈ {a ∈ nodes | a ∉ seen} := Finset.mem_filter.2 ⟨hmem, hnode⟩
    exact Finset.add_sum_erase _ (fun a => (next a).length) hmem'
  · -- a node without edges
    have hnil : next node = [] := by
      by_contra hne
      exact hmem (hnodes node hne)
    rw [Finset.erase_eq_of_notMem (fun h => hmem (Finset.mem_filter.1 h).1), hnil,
      List.length_nil, Nat.zero_add, pending]

/-- With enough fuel, all of the queue is visited, and all that follows a visited node. -/
theorem closed_walkWithin (hidden : α → Bool) {nodes : Finset α}
    (hnodes : ∀ a, next a ≠ [] → a ∈ nodes) (fuel : ℕ) (queue seen : List α)
    (hfuel : queue.length + pending next nodes seen ≤ fuel) :
    (∀ a ∈ queue, hidden a = false →
      a ∈ seen ∨ a ∈ walkWithin next hidden fuel queue seen) ∧
    ∀ a ∈ walkWithin next hidden fuel queue seen, ∀ b, Follows next hidden a b →
      b ∈ seen ∨ b ∈ walkWithin next hidden fuel queue seen := by
  fun_induction walkWithin next hidden fuel queue seen with
  | case1 queue seen =>
    obtain rfl : queue = [] := List.eq_nil_of_length_eq_zero (by omega)
    exact ⟨fun a ha => absurd ha List.not_mem_nil, fun a ha => absurd ha List.not_mem_nil⟩
  | case2 => exact ⟨fun a ha => absurd ha List.not_mem_nil, fun a ha => absurd ha List.not_mem_nil⟩
  | case3 fuel node queue seen hskip ih =>
    obtain ⟨hqueue, hclosed⟩ := ih (by rw [List.length_cons] at hfuel; omega)
    refine ⟨fun a ha hshown => ?_, hclosed⟩
    rcases List.mem_cons.1 ha with rfl | ha
    · left
      simpa [hshown] using hskip
    · exact hqueue a ha hshown
  | case4 fuel node queue seen hvisit ih =>
    have hnode : node ∉ seen := fun hmem => hvisit (by simp [hmem])
    have hpending := pending_cons hnodes hnode
    obtain ⟨hqueue, hclosed⟩ := ih (by
      rw [List.length_cons] at hfuel
      rw [List.length_append]
      omega)
    -- seen when the node was, or visited after it
    have hmove : ∀ {b}, b ∈ node :: seen ∨
        b ∈ walkWithin next hidden fuel (queue ++ next node) (node :: seen) →
        b ∈ seen ∨ b ∈ node :: walkWithin next hidden fuel (queue ++ next node) (node :: seen) := by
      intro b hb
      simp only [List.mem_cons] at hb ⊢
      tauto
    constructor
    · intro a ha hshown
      rcases List.mem_cons.1 ha with rfl | ha
      · exact .inr List.mem_cons_self
      · exact hmove (hqueue a (List.mem_append_left _ ha) hshown)
    · intro a ha b hfollows
      rcases List.mem_cons.1 ha with rfl | ha
      · exact hmove (hqueue b (List.mem_append_right _ hfollows.1) hfollows.2)
      · exact hmove (hclosed a ha b hfollows)

/-- **A walk visits what a path leads to**, if it has fuel for all edges. -/
theorem mem_walk_iff {nodes : Finset α} (hnodes : ∀ a, next a ≠ [] → a ∈ nodes) {edges : ℕ}
    (hedges : ∑ a ∈ nodes, (next a).length ≤ edges) {start x : α} :
    x ∈ walk next hidden edges start ↔
      hidden start = false ∧ Relation.ReflTransGen (Follows next hidden) start x := by
  constructor
  · intro hx
    refine of_mem_walkWithin
      (P := fun a => hidden start = false ∧ Relation.ReflTransGen (Follows next hidden) start a)
      (fun a b ha hab => ⟨ha.1, ha.2.tail hab⟩) (fun a ha hshown => ?_) hx
    obtain rfl := List.mem_singleton.1 ha
    exact ⟨hshown, .refl⟩
  · rintro ⟨hshown, hpath⟩
    have hfuel : [start].length + pending next nodes [] ≤ edges + 1 := by
      simp only [pending, List.not_mem_nil, not_false_eq_true, Finset.filter_true,
        List.length_singleton]
      omega
    obtain ⟨hqueue, hclosed⟩ :=
      closed_walkWithin hidden hnodes (edges + 1) [start] [] hfuel
    have hmem : ∀ {a}, a ∈ [] ∨ a ∈ walk next hidden edges start →
        a ∈ walk next hidden edges start :=
      fun h => h.resolve_left List.not_mem_nil
    induction hpath with
    | refl => exact hmem (hqueue start List.mem_cons_self hshown)
    | tail _ hfollows ih => exact hmem (hclosed _ ih _ hfollows)

theorem nodup_walk (edges : ℕ) (start : α) : (walk next hidden edges start).Nodup :=
  (nodup_walkWithin _ _ _).1

end Walk

/-! ### Classes -/

namespace ClassGraph

variable (g : ClassGraph) {contract c : ClassRef}

theorem nodup_refs : g.refs.Nodup := by
  rw [refs, List.nodup_append]
  refine ⟨by decide, List.nodup_range.map fun i j h => ClassRef.declared.inj h, ?_⟩
  rintro a ha b hb rfl
  obtain ⟨i, -, rfl⟩ := List.mem_map.1 hb
  simp [known] at ha

/-- A class with bases is one of the classes of the graph. -/
theorem mem_refs_of_bases (h : g.bases c ≠ []) : c ∈ g.refs := by
  cases c with
  | declared i =>
    refine List.mem_append_right _ (List.mem_map_of_mem (List.mem_range.2 ?_))
    by_contra hge
    refine h ?_
    rw [bases, definition, List.getD_eq_getElem?_getD,
      List.getElem?_eq_none (Nat.le_of_not_lt hge)]
    rfl
  | object | protocol | generic | abstract | notifyPropertyChanged | dataEntity | entityBase =>
    exact List.mem_append_left _ (by simp [known])

theorem sum_length_bases : ∑ c ∈ g.refs.toFinset, (g.bases c).length = g.edges := by
  rw [List.sum_toFinset _ g.nodup_refs, edges, List.length_flatMap]

/-- Whether a class is another, or derives from it. -/
def DerivesFrom : ClassRef → ClassRef → Prop := Relation.ReflTransGen fun c b => b ∈ g.bases c

/-- Whether a walk over a contract comes to a class: over bases, neither through the classes that
stand at the top of every hierarchy nor beyond the notification marker. -/
def Visits (contract c : ClassRef) : Prop :=
  isHidden contract = false ∧
    Relation.ReflTransGen (Walk.Follows g.contractBases isHidden) contract c

theorem mem_ancestors_iff {a : ClassRef} : a ∈ g.ancestors c ↔ g.DerivesFrom c a := by
  have hfollows : Walk.Follows g.bases (fun _ => false) = fun c b => b ∈ g.bases c := by
    funext c b
    simp [Walk.Follows]
  rw [ancestors, Walk.mem_walk_iff (fun a ha => List.mem_toFinset.2 (g.mem_refs_of_bases ha))
    g.sum_length_bases.le, hfollows]
  simp [DerivesFrom]

theorem derivesFromCompiled_eq_false_iff :
    g.derivesFromCompiled c = false ↔
      ∀ a, g.DerivesFrom c a → (g.definition a).isCompiled = false := by
  simp only [derivesFromCompiled, List.any_eq_false, mem_ancestors_iff, Bool.not_eq_true]

theorem sum_length_contractBases_le :
    ∑ c ∈ g.refs.toFinset, (g.contractBases c).length ≤ g.edges := by
  refine Nat.le_trans (Finset.sum_le_sum fun a _ => ?_) g.sum_length_bases.le
  rw [contractBases]
  split
  · exact Nat.zero_le _
  · exact Nat.le_refl _

theorem mem_refs_of_contractBases (h : g.contractBases c ≠ []) : c ∈ g.refs := by
  refine g.mem_refs_of_bases fun hnil => h ?_
  rw [contractBases, hnil, ite_self]

theorem mem_contracts_iff : c ∈ g.contracts contract ↔ g.Visits contract c :=
  Walk.mem_walk_iff (fun _ ha => List.mem_toFinset.2 (g.mem_refs_of_contractBases ha))
    g.sum_length_contractBases_le

theorem nodup_contracts (contract : ClassRef) : (g.contracts contract).Nodup :=
  Walk.nodup_walk _ _

end ClassGraph

end TrackedEntity
