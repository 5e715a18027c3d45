import Mathlib.Order.Lattice.Nat
import TrackedEntity.Proofs.Contract.Overriding

/-!
# Walks and the order of discovery

`Walk.Runs` is the loop of a walk without fuel: it relates a queue and the nodes seen so far to the
nodes that are visited from there on, and to the number of nodes that are taken from the queue.  A
run takes a node for every node in the queue and for every edge that leaves a visited node
(`Runs.taken_eq`), there is at most one (`Runs.unique`), and with enough fuel `walkWithin` computes
it (`exists_runs_walkWithin`).

A breadth-first search as it is usually written marks nodes when it finds them, not when it takes
them (`Walk.found`).  Both orders are the same (`Runs.found_eq`): what a search has found, when it
has scanned the neighbours of the nodes visited so far, are these nodes and then the nodes in the
queue, at their first places.

Where some nodes are of no interest and no others are found from them, they may be left out of a run
(`Runs.filter`).  So a walk over contracts shows what a search over all bases discovers, without the
classes that stand at the top of every hierarchy (`ClassGraph.contracts_enumerates`).
-/

namespace TrackedEntity

namespace Walk

variable {α : Type u} {next : α → List α} {hidden : α → Bool}

/-! ### Runs -/

/-- Whether a walk goes on from a queue by visiting some nodes and taking so many. -/
inductive Runs (next : α → List α) (hidden : α → Bool) :
    (queue seen visited : List α) → (taken : ℕ) → Prop
  | done {seen : List α} : Runs next hidden [] seen [] 0
  | skip {node : α} {queue seen visited : List α} {taken : ℕ}
      (hskip : node ∈ seen ∨ hidden node = true) (h : Runs next hidden queue seen visited taken) :
      Runs next hidden (node :: queue) seen visited (taken + 1)
  | visit {node : α} {queue seen visited : List α} {taken : ℕ} (hnode : node ∉ seen)
      (hshown : hidden node = false)
      (h : Runs next hidden (queue ++ next node) (node :: seen) visited taken) :
      Runs next hidden (node :: queue) seen (node :: visited) (taken + 1)

/-- Whether of the nodes that a queue leads to those that are left out have no others for
neighbours. -/
def LeavesOut (next : α → List α) (hidden keep : α → Bool) (queue : List α) : Prop :=
  ∀ a ∈ queue, ∀ b, Relation.ReflTransGen (fun a b => b ∈ next a) a b →
    hidden b = false → keep b = false → (next b).filter keep = []

namespace LeavesOut

variable {keep : α → Bool} {node : α} {queue : List α}

theorem tail (h : LeavesOut next hidden keep (node :: queue)) :
    LeavesOut next hidden keep queue :=
  fun a ha => h a (List.mem_cons_of_mem _ ha)

theorem expand (h : LeavesOut next hidden keep (node :: queue)) :
    LeavesOut next hidden keep (queue ++ next node) := by
  intro a ha b hab
  rcases List.mem_append.1 ha with ha | ha
  · exact h a (List.mem_cons_of_mem _ ha) b hab
  · exact h node List.mem_cons_self b (.head ha hab)

end LeavesOut

namespace Runs

variable {queue seen visited visited' : List α} {taken taken' : ℕ}

theorem unique (h : Runs next hidden queue seen visited taken)
    (h' : Runs next hidden queue seen visited' taken') : visited = visited' ∧ taken = taken' := by
  induction h generalizing visited' taken' with
  | done =>
    cases h'
    exact ⟨rfl, rfl⟩
  | skip hskip _ ih =>
    cases h' with
    | skip _ h' =>
      obtain ⟨rfl, rfl⟩ := ih h'
      exact ⟨rfl, rfl⟩
    | visit hnode hshown => simp [hnode, hshown] at hskip
  | visit hnode hshown _ ih =>
    cases h' with
    | skip hskip => simp [hnode, hshown] at hskip
    | visit _ _ h' =>
      obtain ⟨rfl, rfl⟩ := ih h'
      exact ⟨rfl, rfl⟩

/-- Every node that is taken stood in the queue, or an edge from a visited node leads to it. -/
theorem taken_eq (h : Runs next hidden queue seen visited taken) :
    taken = queue.length + (visited.flatMap next).length := by
  induction h with
  | done => rfl
  | skip _ _ ih =>
    rw [ih, List.length_cons]
    omega
  | visit _ _ _ ih =>
    rw [ih, List.length_append, List.length_cons, List.flatMap_cons, List.length_append]
    omega

/-- The start is visited first. -/
theorem head?_eq {start : α} (h : Runs next hidden [start] [] visited taken)
    (hshown : hidden start = false) : visited.head? = some start := by
  cases h with
  | skip hskip => simp [hshown] at hskip
  | visit => rfl

/-- From a hidden start nothing is visited. -/
theorem eq_nil {start : α} (h : Runs next hidden [start] [] visited taken)
    (hhidden : hidden start = true) : visited = [] := by
  cases h with
  | skip _ h =>
    cases h
    rfl
  | visit _ hshown =>
    rw [hhidden] at hshown
    cases hshown

theorem length_visited_le (h : Runs next hidden queue seen visited taken) :
    visited.length ≤ taken := by
  induction h with
  | done => exact Nat.le_refl 0
  | skip _ _ ih => exact Nat.le_succ_of_le ih
  | visit _ _ _ ih => exact Nat.succ_le_succ ih

/-- **Nodes may be left out of a run**, if they lead to no others. -/
theorem filter {next' : α → List α} {hidden' keep : α → Bool}
    (h : Runs next hidden queue seen visited taken) (hleaves : LeavesOut next hidden keep queue)
    (hnext : ∀ a, keep a = true → (next a).filter keep = next' a)
    (hhidden : ∀ a, keep a = true → hidden a = hidden' a) :
    ∃ n, Runs next' hidden' (queue.filter keep) (seen.filter keep) (visited.filter keep) n := by
  induction h with
  | done => exact ⟨0, .done⟩
  | @skip node queue seen visited taken hskip _ ih =>
    obtain ⟨n, hn⟩ := ih hleaves.tail
    cases hkeep : keep node with
    | false => exact ⟨n, by rwa [List.filter_cons_of_neg (by simp [hkeep])]⟩
    | true =>
      rw [List.filter_cons_of_pos hkeep]
      rw [hhidden node hkeep] at hskip
      exact ⟨n + 1, .skip (hskip.imp_left fun hmem => List.mem_filter.2 ⟨hmem, hkeep⟩) hn⟩
  | @visit node queue seen visited taken hnode hshown _ ih =>
    obtain ⟨n, hn⟩ := ih hleaves.expand
    rw [List.filter_append] at hn
    cases hkeep : keep node with
    | false =>
      have hnot : ¬ keep node = true := by simp [hkeep]
      have hnil := hleaves node List.mem_cons_self node .refl hshown hkeep
      rw [hnil, List.append_nil, List.filter_cons_of_neg hnot] at hn
      exact ⟨n, by rwa [List.filter_cons_of_neg hnot, List.filter_cons_of_neg hnot]⟩
    | true =>
      rw [hnext node hkeep, List.filter_cons_of_pos hkeep] at hn
      rw [hhidden node hkeep] at hshown
      rw [List.filter_cons_of_pos hkeep, List.filter_cons_of_pos hkeep]
      exact ⟨n + 1, .visit (fun hmem => hnode (List.mem_filter.1 hmem).1) hshown hn⟩

/-- Two runs agree about the nodes of interest, if their queues, the nodes seen and the neighbours
of nodes of interest do. -/
theorem filter_eq {next' : α → List α} {hidden' keep : α → Bool} {queue' seen' : List α}
    (h : Runs next hidden queue seen visited taken)
    (h' : Runs next' hidden' queue' seen' visited' taken')
    (hleaves : LeavesOut next hidden keep queue) (hleaves' : LeavesOut next' hidden' keep queue')
    (hnext : ∀ a, keep a = true → (next a).filter keep = (next' a).filter keep)
    (hhidden : ∀ a, keep a = true → hidden a = hidden' a)
    (hqueue : queue.filter keep = queue'.filter keep)
    (hseen : seen.filter keep = seen'.filter keep) :
    visited.filter keep = visited'.filter keep := by
  obtain ⟨n, hn⟩ := h.filter hleaves hnext hhidden
  obtain ⟨m, hm⟩ := h'.filter hleaves' (fun _ _ => rfl) fun _ _ => rfl
  rw [← hqueue, ← hseen] at hm
  exact (hn.unique hm).1

end Runs

variable [DecidableEq α]

/-- **A walk that has fuel for all edges is a run.** -/
theorem exists_runs_walkWithin (hidden : α → Bool) {nodes : Finset α}
    (hnodes : ∀ a, next a ≠ [] → a ∈ nodes) (fuel : ℕ) (queue seen : List α)
    (hfuel : queue.length + pending next nodes seen ≤ fuel) :
    ∃ taken ≤ fuel, Runs next hidden queue seen (walkWithin next hidden fuel queue seen) taken := by
  fun_induction walkWithin next hidden fuel queue seen with
  | case1 queue seen =>
    obtain rfl : queue = [] := List.eq_nil_of_length_eq_zero (by omega)
    exact ⟨0, Nat.le_refl 0, .done⟩
  | case2 => exact ⟨0, Nat.zero_le _, .done⟩
  | case3 fuel node queue seen hskip ih =>
    obtain ⟨taken, hle, h⟩ := ih (by rw [List.length_cons] at hfuel; omega)
    exact ⟨taken + 1, Nat.succ_le_succ hle, .skip (by simpa using hskip) h⟩
  | case4 fuel node queue seen hvisit ih =>
    simp only [Bool.or_eq_true, not_or, Bool.not_eq_true, List.contains_eq_mem,
      decide_eq_false_iff_not] at hvisit
    have hpending := pending_cons hnodes hvisit.1
    obtain ⟨taken, hle, h⟩ := ih (by
      rw [List.length_cons] at hfuel
      rw [List.length_append]
      omega)
    exact ⟨taken + 1, Nat.succ_le_succ hle, .visit hvisit.1 hvisit.2 h⟩

theorem exists_runs_walk (hidden : α → Bool) {nodes : Finset α}
    (hnodes : ∀ a, next a ≠ [] → a ∈ nodes) {edges : ℕ}
    (hedges : ∑ a ∈ nodes, (next a).length ≤ edges) (start : α) :
    ∃ taken ≤ edges + 1, Runs next hidden [start] [] (walk next hidden edges start) taken := by
  refine exists_runs_walkWithin hidden hnodes (edges + 1) [start] [] ?_
  simp only [pending, List.not_mem_nil, not_false_eq_true, Finset.filter_true,
    List.length_singleton]
  omega

/-! ### Discovery -/

/-- What has been found when some neighbours were scanned, from left to right. -/
def scan (found neighbours : List α) : List α :=
  neighbours.foldl (fun found a => if a ∈ found then found else found ++ [a]) found

/-- What a breadth-first search has found, in order of discovery, when it has scanned the neighbours
of so many of the nodes found first. -/
def found (next : α → List α) (start : α) : ℕ → List α
  | 0 => [start]
  | n + 1 =>
    match (found next start n)[n]? with
    | none => found next start n
    | some a => scan (found next start n) (next a)

theorem scan_append (found neighbours neighbours' : List α) :
    scan found (neighbours ++ neighbours') = scan (scan found neighbours) neighbours' :=
  List.foldl_append

theorem scan_cons_of_mem {found : List α} {a : α} (ha : a ∈ found) (neighbours : List α) :
    scan found (a :: neighbours) = scan found neighbours := by
  rw [scan, List.foldl_cons, if_pos ha, scan]

theorem scan_cons_of_notMem {found : List α} {a : α} (ha : a ∉ found) (neighbours : List α) :
    scan found (a :: neighbours) = scan (found ++ [a]) neighbours := by
  rw [scan, List.foldl_cons, if_neg ha, scan]

theorem prefix_scan (found neighbours : List α) : found <+: scan found neighbours := by
  induction neighbours generalizing found with
  | nil => exact List.prefix_rfl
  | cons a neighbours ih =>
    by_cases ha : a ∈ found
    · rw [scan_cons_of_mem ha]
      exact ih found
    · rw [scan_cons_of_notMem ha]
      exact (List.prefix_append found [a]).trans (ih _)

/-- Nothing more is found once the neighbours of all that was found were scanned. -/
theorem found_of_length_le {start : α} {n m : ℕ} (h : (found next start n).length ≤ n)
    (hle : n ≤ m) : found next start m = found next start n := by
  induction m, hle using Nat.le_induction with
  | base => rfl
  | succ m hle ih => rw [found, ih, List.getElem?_eq_none (h.trans hle)]

/-- **A walk visits nodes in the order in which a search finds them.** -/
theorem Runs.found_eq {start : α} {queue seen visited : List α} {taken : ℕ}
    (h : Runs next (fun _ => false) queue seen visited taken)
    (hfound : found next start seen.length = scan seen.reverse queue) :
    found next start (seen.length + visited.length) = seen.reverse ++ visited := by
  induction h with
  | done => simpa [scan] using hfound
  | skip hskip _ ih =>
    have hmem := hskip.resolve_right Bool.false_ne_true
    exact ih (by rw [hfound, scan_cons_of_mem (List.mem_reverse.2 hmem)])
  | @visit node queue seen visited taken hnode _ _ ih =>
    rw [scan_cons_of_notMem (by rwa [List.mem_reverse])] at hfound
    -- the node is the next one that was found
    have hget : (found next start seen.length)[seen.length]? = some node := by
      obtain ⟨rest, hrest⟩ := prefix_scan (seen.reverse ++ [node]) queue
      rw [hfound, ← hrest]
      simp
    have hstep : found next start (node :: seen).length =
        scan (node :: seen).reverse (queue ++ next node) := by
      rw [List.length_cons, found, hget, List.reverse_cons, scan_append, ← hfound]
    have hvisited := ih hstep
    rw [List.reverse_cons, List.append_assoc, List.singleton_append] at hvisited
    rw [← hvisited, List.length_cons, List.length_cons, Nat.succ_add_eq_add_succ]

theorem Runs.found_of_length_le {start : α} {visited : List α} {taken n : ℕ}
    (h : Runs next (fun _ => false) [start] [] visited taken) (hle : visited.length ≤ n) :
    found next start n = visited := by
  have hfound := h.found_eq rfl
  rw [List.length_nil, Nat.zero_add, List.reverse_nil, List.nil_append] at hfound
  rw [Walk.found_of_length_le (by rw [hfound]) hle, hfound]

end Walk

namespace ClassGraph

variable (g : ClassGraph)

/-- How many bases lead from a class to another at least; zero if none do. -/
noncomputable def distance (start c : ClassRef) : ℕ :=
  sInf {n | Walk.LeadsIn g.bases (fun _ => false) start n c}

theorem exists_runs_contracts (start : ClassRef) :
    ∃ taken ≤ g.edges + 1,
      Walk.Runs g.contractBases isHidden [start] [] (g.contracts start) taken :=
  Walk.exists_runs_walk isHidden
    (fun _ ha => List.mem_toFinset.2 (g.mem_refs_of_contractBases ha))
    g.sum_length_contractBases_le start

theorem exists_runs_ancestors (start : ClassRef) :
    ∃ taken ≤ g.edges + 1,
      Walk.Runs g.bases (fun _ => false) [start] [] (g.ancestors start) taken :=
  Walk.exists_runs_walk _ (fun _ ha => List.mem_toFinset.2 (g.mem_refs_of_bases ha))
    g.sum_length_bases.le start

/-- The classes at the top of every hierarchy derive from their like only. -/
theorem isHidden_of_mem_bases {c b : ClassRef} (hc : isHidden c = true) (hb : b ∈ g.bases c) :
    isHidden b = true :=
  isHidden_of_derivesFrom hc (.single hb)

theorem isHidden_of_mem_contracts {start c : ClassRef} (hc : c ∈ g.contracts start) :
    isHidden c = false := by
  have hvisits := g.mem_contracts_iff.1 hc
  obtain ⟨k, hk⟩ := exists_reachedIn hvisits
  exact hk.hidden_eq_false hvisits.1

/-- The contracts of a class are its ancestors, without those at the top of every hierarchy. -/
theorem filter_ancestors (start : ClassRef) :
    (g.ancestors start).filter (!isHidden ·) = g.contracts start := by
  obtain ⟨n, -, hancestors⟩ := g.exists_runs_ancestors start
  obtain ⟨m, -, hcontracts⟩ := g.exists_runs_contracts start
  have hshown : (g.contracts start).filter (!isHidden ·) = g.contracts start :=
    List.filter_eq_self.2 fun c hc => by rw [g.isHidden_of_mem_contracts hc, Bool.not_false]
  rw [← hshown]
  refine hancestors.filter_eq hcontracts ?_ ?_ ?_ ?_ rfl rfl
  · intro _ _ a _ _ hkeep
    refine List.filter_eq_nil_iff.2 fun b hb => ?_
    simpa using g.isHidden_of_mem_bases (by simpa using hkeep) hb
  · intro _ _ a _ hshown hkeep
    simp [hshown] at hkeep
  · intro a _
    rw [contractBases]
    split
    · -- the notification marker has no base of interest
      next hnotify =>
      subst hnotify
      rfl
    · rfl
  · intro a hkeep
    simpa using hkeep.symm

/-- Classes come by their distance from the start. -/
theorem pairwise_distance (start : ClassRef) :
    (g.contracts start).Pairwise fun a b => g.distance start a ≤ g.distance start b := by
  have hpairwise := Walk.pairwise_walk g.bases (fun _ => false) g.edges start
  rw [← g.filter_ancestors start]
  refine (hpairwise.imp_of_mem fun {a b} _ hb hab => ?_).filter _
  obtain ⟨n, hn⟩ : ∃ n, Walk.LeadsIn g.bases (fun _ => false) start n b := by
    have hpath : Relation.ReflTransGen (Walk.Follows g.bases fun _ => false) start b :=
      Relation.ReflTransGen.mono (fun _ _ h => ⟨h, rfl⟩) _ _ (g.mem_ancestors_iff.1 hb)
    obtain ⟨k, hk⟩ := Walk.LeadsIn.start.of_reflTransGen hpath
    exact ⟨_, hk⟩
  have hnearest : Walk.LeadsIn g.bases (fun _ => false) start (g.distance start b) b :=
    Nat.sInf_mem (s := {n | Walk.LeadsIn g.bases (fun _ => false) start n b}) ⟨n, hn⟩
  obtain ⟨m, hm, hleads⟩ := hab _ hnearest
  exact (Nat.sInf_le hleads).trans hm

/-- A class comes if it does not stand at the top of every hierarchy, and bases lead to it not only
through the notification marker. -/
theorem mem_contracts_iff_reflTransGen {start c : ClassRef} :
    c ∈ g.contracts start ↔ isHidden c = false ∧
      Relation.ReflTransGen (fun a b => a ≠ .notifyPropertyChanged ∧ b ∈ g.bases a) start c := by
  rw [mem_contracts_iff]
  constructor
  · intro hvisits
    refine ⟨g.isHidden_of_mem_contracts (g.mem_contracts_iff.2 hvisits),
      Relation.ReflTransGen.mono (fun a b hab => ?_) _ _ hvisits.2⟩
    have hmem := hab.1
    rw [contractBases] at hmem
    split at hmem
    · cases hmem
    · next hne => exact ⟨hne, hmem⟩
  · rintro ⟨hshown, hpath⟩
    have hderives : g.DerivesFrom start c :=
      Relation.ReflTransGen.mono (fun _ _ hab => hab.2) _ _ hpath
    refine ⟨?_, follows_of_derivesFrom hshown hderives⟩
    by_contra hhidden
    rw [isHidden_of_derivesFrom (by simpa using hhidden) hderives] at hshown
    cases hshown

/-- **The walk over contracts is a breadth-first enumeration, and it ends.**  The loop has one run,
which takes the start and one class for every base of a class it visits.  The start comes first,
unless it stands at the top of every hierarchy, when there is nothing to visit.  Every class comes
once that bases lead to, except those at the top and what lies only beyond the notification marker.
Classes come by their distance from the start, and all in all in the order in which a search over
the base lists from left to right discovers them. -/
theorem contracts_enumerates (start : ClassRef) :
    (∃ taken ≤ g.edges + 1,
      taken = 1 + ((g.contracts start).flatMap g.contractBases).length ∧
      ∀ visited n, Walk.Runs g.contractBases isHidden [start] [] visited n ↔
        visited = g.contracts start ∧ n = taken) ∧
    (isHidden start = false → (g.contracts start).head? = some start) ∧
    (isHidden start = true → g.contracts start = []) ∧
    (g.contracts start).Nodup ∧
    (∀ c, c ∈ g.contracts start ↔ isHidden c = false ∧
      Relation.ReflTransGen (fun a b => a ≠ .notifyPropertyChanged ∧ b ∈ g.bases a) start c) ∧
    (g.contracts start).Pairwise (fun a b => g.distance start a ≤ g.distance start b) ∧
    ∀ n, g.edges < n →
      (Walk.found g.bases start n).filter (!isHidden ·) = g.contracts start := by
  obtain ⟨taken, hle, hruns⟩ := g.exists_runs_contracts start
  refine ⟨⟨taken, hle, hruns.taken_eq, fun visited n => ⟨fun h => h.unique hruns, ?_⟩⟩,
    hruns.head?_eq, hruns.eq_nil, g.nodup_contracts start,
    fun _ => g.mem_contracts_iff_reflTransGen, g.pairwise_distance start, fun n hn => ?_⟩
  · rintro ⟨rfl, rfl⟩
    exact hruns
  · obtain ⟨m, hm, hancestors⟩ := g.exists_runs_ancestors start
    -- every node that is visited was taken
    have hvisited : (g.ancestors start).length ≤ m := hancestors.length_visited_le
    rw [hancestors.found_of_length_le (by omega), g.filter_ancestors]

end ClassGraph

end TrackedEntity
