import TrackedEntity.Proofs.Contract.Reachability

/-!
# Walks go breadth-first

A walk visits nodes in the order of their distance from the start (`Walk.pairwise_walk`): whatever
number of edges leads to a node, no more than that lead to any node visited before it.

A queue that a walk can come to has two layers (`Walk.Layered`).  In front are nodes that some
number of edges leads to, behind them nodes that one edge more leads to; and all nodes that fewer
edges lead to have been seen.  So a node that is visited now, and was not seen before, is as far
from the start as the front layer is.  Once the front layer is used up, the other one takes its
place (`Layered.next_layer`).
-/

namespace TrackedEntity.Walk

variable {α : Type u} {next : α → List α} {hidden : α → Bool}

/-- Whether a path of so many edges leads from a node to another, over nodes that are not hidden. -/
inductive LeadsIn (next : α → List α) (hidden : α → Bool) (start : α) : ℕ → α → Prop
  | start : LeadsIn next hidden start 0 start
  | step {n : ℕ} {a b : α} (h : LeadsIn next hidden start n a) (hab : Follows next hidden a b) :
      LeadsIn next hidden start (n + 1) b

theorem LeadsIn.of_reflTransGen {start a b : α} {n : ℕ} (h : LeadsIn next hidden start n a)
    (hab : Relation.ReflTransGen (Follows next hidden) a b) :
    ∃ k, LeadsIn next hidden start (n + k) b := by
  induction hab with
  | refl => exact ⟨0, h⟩
  | tail _ hbc ih =>
    obtain ⟨k, hk⟩ := ih
    exact ⟨k + 1, hk.step hbc⟩

theorem LeadsIn.hidden_eq_false {start a : α} {n : ℕ} (h : LeadsIn next hidden start n a)
    (hstart : hidden start = false) : hidden a = false := by
  cases h with
  | start => exact hstart
  | step _ hab => exact hab.2

/-- Whether a queue has a layer of nodes that `n` edges lead to and then one of nodes that `n + 1`
edges lead to, while all that is nearer was seen. -/
structure Layered (next : α → List α) (hidden : α → Bool) (start : α) (n : ℕ)
    (front back seen : List α) : Prop where
  front_leads : ∀ a ∈ front, hidden a = false → LeadsIn next hidden start n a
  back_leads : ∀ a ∈ back, hidden a = false → LeadsIn next hidden start (n + 1) a
  nearer_seen : ∀ m a, LeadsIn next hidden start m a → m < n → a ∈ seen
  here_found : ∀ a, LeadsIn next hidden start n a → a ∈ seen ∨ a ∈ front
  closed : ∀ a ∈ seen, ∀ b, Follows next hidden a b → b ∈ seen ∨ b ∈ front ∨ b ∈ back

namespace Layered

variable {start node : α} {n : ℕ} {front back seen : List α}

theorem init (hidden : α → Bool) (start : α) : Layered next hidden start 0 [start] [] [] where
  front_leads a ha _ := by
    obtain rfl := List.mem_singleton.1 ha
    exact .start
  back_leads a ha := absurd ha List.not_mem_nil
  nearer_seen m a _ hm := absurd hm (Nat.not_lt_zero m)
  here_found a ha := by
    cases ha
    exact .inr List.mem_cons_self
  closed a ha := absurd ha List.not_mem_nil

/-- When the front layer is used up, the walk is one edge further from the start. -/
theorem next_layer (h : Layered next hidden start n [] back seen) :
    Layered next hidden start (n + 1) back [] seen where
  front_leads := h.back_leads
  back_leads a ha := absurd ha List.not_mem_nil
  nearer_seen m a ha hm := by
    rcases Nat.lt_succ_iff_lt_or_eq.1 hm with hlt | rfl
    · exact h.nearer_seen m a ha hlt
    · exact (h.here_found a ha).resolve_right List.not_mem_nil
  here_found b hb := by
    cases hb with
    | step ha hab =>
      have hseen := (h.here_found _ ha).resolve_right List.not_mem_nil
      exact (h.closed _ hseen b hab).imp_right fun hb => hb.resolve_left List.not_mem_nil
  closed a ha b hab := by
    rcases h.closed a ha b hab with hb | hb | hb
    · exact .inl hb
    · exact absurd hb List.not_mem_nil
    · exact .inr (.inl hb)

/-- A node that is passed over was seen, or nothing leads to it. -/
theorem skip (h : Layered next hidden start n (node :: front) back seen)
    (hstart : hidden start = false) (hskip : node ∈ seen ∨ hidden node = true) :
    Layered next hidden start n front back seen := by
  -- what stood in front and is shown is in the rest of the front, or was seen
  have hrest : ∀ {a}, a ∈ node :: front → hidden a = false → a ∈ seen ∨ a ∈ front := by
    intro a ha hshown
    rcases List.mem_cons.1 ha with rfl | ha
    · rcases hskip with hseen | hhidden
      · exact .inl hseen
      · rw [hshown] at hhidden
        cases hhidden
    · exact .inr ha
  exact {
    front_leads := fun a ha => h.front_leads a (List.mem_cons_of_mem _ ha)
    back_leads := h.back_leads
    nearer_seen := h.nearer_seen
    here_found := fun a ha =>
      (h.here_found a ha).elim .inl fun hfront => hrest hfront (ha.hidden_eq_false hstart)
    closed := fun a ha b hab => by
      rcases h.closed a ha b hab with hb | hb | hb
      · exact .inl hb
      · exact (hrest hb hab.2).imp_right .inl
      · exact .inr (.inr hb) }

/-- The neighbours of a node that is visited join the back layer. -/
theorem visit (h : Layered next hidden start n (node :: front) back seen)
    (hshown : hidden node = false) :
    Layered next hidden start n front (back ++ next node) (node :: seen) where
  front_leads a ha := h.front_leads a (List.mem_cons_of_mem _ ha)
  back_leads a ha ha' := by
    rcases List.mem_append.1 ha with ha | ha
    · exact h.back_leads a ha ha'
    · exact (h.front_leads node List.mem_cons_self hshown).step ⟨ha, ha'⟩
  nearer_seen m a ha hm := List.mem_cons_of_mem _ (h.nearer_seen m a ha hm)
  here_found a ha := by
    rcases h.here_found a ha with hseen | hfront
    · exact .inl (List.mem_cons_of_mem _ hseen)
    · rcases List.mem_cons.1 hfront with rfl | hfront
      · exact .inl List.mem_cons_self
      · exact .inr hfront
  closed a ha b hab := by
    rcases List.mem_cons.1 ha with rfl | ha
    · exact .inr (.inr (List.mem_append_right _ hab.1))
    · rcases h.closed a ha b hab with hb | hb | hb
      · exact .inl (List.mem_cons_of_mem _ hb)
      · rcases List.mem_cons.1 hb with rfl | hb
        · exact .inl List.mem_cons_self
        · exact .inr (.inl hb)
      · exact .inr (.inr (List.mem_append_left _ hb))

end Layered

variable [DecidableEq α]

/-- From a layered queue on, nodes are visited in the order of their distance, and none of them is
nearer than the front layer. -/
theorem pairwise_walkWithin {start : α} (hstart : hidden start = false) (fuel : ℕ)
    (queue seen : List α) {n : ℕ} {front back : List α} (hqueue : queue = front ++ back)
    (h : Layered next hidden start n front back seen) :
    (walkWithin next hidden fuel queue seen).Pairwise (fun a b =>
        ∀ k, LeadsIn next hidden start k b → ∃ m ≤ k, LeadsIn next hidden start m a) ∧
      ∀ a ∈ walkWithin next hidden fuel queue seen, ∀ k, LeadsIn next hidden start k a → n ≤ k := by
  fun_induction walkWithin next hidden fuel queue seen generalizing n front back with
  | case1 => exact ⟨List.Pairwise.nil, fun a ha => absurd ha List.not_mem_nil⟩
  | case2 => exact ⟨List.Pairwise.nil, fun a ha => absurd ha List.not_mem_nil⟩
  | case3 fuel node queue seen hskip ih =>
    have hskip' : node ∈ seen ∨ hidden node = true := by simpa using hskip
    cases front with
    | cons node' front =>
      obtain ⟨rfl, rfl⟩ := List.cons.inj hqueue
      exact ih rfl (h.skip hstart hskip')
    | nil =>
      obtain rfl : node :: queue = back := hqueue
      obtain ⟨hpairwise, hfar⟩ := ih (List.append_nil _).symm (h.next_layer.skip hstart hskip')
      exact ⟨hpairwise, fun a ha k hk => Nat.le_of_succ_le (hfar a ha k hk)⟩
  | case4 fuel node queue seen hvisit ih =>
    simp only [Bool.or_eq_true, not_or, Bool.not_eq_true, List.contains_eq_mem,
      decide_eq_false_iff_not] at hvisit
    obtain ⟨hnode, hshown⟩ := hvisit
    -- the layer that the node is in, which is the back one if the front one is used up
    obtain ⟨n', front', back', hle, hqueue', h'⟩ : ∃ n' front' back', n ≤ n' ∧
        queue = front' ++ back' ∧ Layered next hidden start n' (node :: front') back' seen := by
      cases front with
      | cons node' front =>
        obtain ⟨rfl, rfl⟩ := List.cons.inj hqueue
        exact ⟨n, front, back, Nat.le_refl n, rfl, h⟩
      | nil =>
        obtain rfl : node :: queue = back := hqueue
        exact ⟨n + 1, queue, [], Nat.le_succ n, (List.append_nil _).symm, h.next_layer⟩
    obtain ⟨hpairwise, hfar⟩ :=
      ih (by rw [hqueue', List.append_assoc]) (h'.visit hshown)
    have hleads := h'.front_leads node List.mem_cons_self hshown
    refine ⟨List.pairwise_cons.2 ⟨fun b hb k hk => ⟨n', hfar b hb k hk, hleads⟩, hpairwise⟩, ?_⟩
    intro a ha k hk
    rcases List.mem_cons.1 ha with rfl | ha
    · -- what is nearer than the layer was seen
      by_contra hlt
      exact hnode (h'.nearer_seen k a hk (by omega))
    · exact Nat.le_trans hle (hfar a ha k hk)

/-- **A walk visits nodes in the order of their distance from the start.** -/
theorem pairwise_walk (next : α → List α) (hidden : α → Bool) (edges : ℕ) (start : α) :
    (walk next hidden edges start).Pairwise fun a b =>
      ∀ n, LeadsIn next hidden start n b → ∃ m ≤ n, LeadsIn next hidden start m a := by
  cases hstart : hidden start with
  | true =>
    have hnil : walk next hidden edges start = [] := by
      rw [walk, walkWithin, if_pos (by simp [hstart])]
      cases edges <;> rfl
    rw [hnil]
    exact List.Pairwise.nil
  | false =>
    exact (pairwise_walkWithin hstart (edges + 1) [start] [] rfl (Layered.init hidden start)).1

end TrackedEntity.Walk
