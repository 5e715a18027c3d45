import Mathlib.Data.List.Nodup
import TrackedEntity.Proofs.Channel.Concurrency

/-!
# Linearization of concurrent changes

`World.Explained` gives an order in which the changes took effect, each with the time of its effect.
A change that publishes takes effect at its exchange.  A removal that finds nothing takes effect
when the snapshot was read in which it finds nothing; by the time that it returns this may be long
past, so it has to be inserted among the others (`insertAt`), where it is without effect.  What a
thread holds was current at some time since its change started, and that is all that these
insertions need.

Four lemmas say what a step does to the order: a step that publishes nothing (`leaveAt`), one that
publishes (`publish`), and the return from a change that was published (`leave_published`) or that
found nothing (`leave_missed`).  Hence every reachable world is explained.
-/

namespace TrackedEntity

variable {ι : Type u} {α : Type v}

/-! ### Orders of effects -/

/-- Changes, each with the time of its effect. -/
abbrev Effects (ι : Type u) (α : Type v) := List (Operation ι α × ℕ)

namespace Effects

/-- What the effects come to. -/
def outcome (order : Effects ι α) : List α := Edit.outcome (order.map fun a => a.1.edit)

/-- The handlers after the effects up to a time. -/
def handlersAt (order : Effects ι α) (time : ℕ) : List α :=
  outcome (order.filter fun a => decide (a.2 ≤ time))

/-- The order with one more effect, after the others up to its time. -/
def insertAt (order : Effects ι α) (op : Operation ι α) (time : ℕ) : Effects ι α :=
  (order.filter fun a => decide (a.2 ≤ time)) ++
    (op, time) :: order.filter fun a => decide (time < a.2)

variable {order : Effects ι α} {op : Operation ι α} {time : ℕ}

theorem handlersAt_of_past (h : ∀ a ∈ order, a.2 ≤ time) :
    order.handlersAt time = order.outcome := by
  have hall : (order.filter fun a => decide (a.2 ≤ time)) = order :=
    List.filter_eq_self.2 fun a ha => decide_eq_true (h a ha)
  rw [handlersAt, hall]

theorem outcome_concat (order : Effects ι α) (op : Operation ι α) (time : ℕ) :
    outcome (order ++ [(op, time)]) = op.edit.onList order.outcome := by
  rw [outcome, List.map_append, List.map_singleton, Edit.outcome_concat]
  rfl

/-- A later effect does not matter. -/
theorem handlersAt_concat {later : ℕ} (h : time < later) :
    handlersAt (order ++ [(op, later)]) time = order.handlersAt time := by
  have hlater : ([(op, later)].filter fun a => decide (a.2 ≤ time)) = [] := by
    simp [Nat.not_le.2 h]
  rw [handlersAt, List.filter_append, hlater, List.append_nil, handlersAt]

/-- An effect that changes nothing where it is inserted can be left out. -/
theorem outcome_insert {before after : Effects ι α}
    (h : op.edit.onList before.outcome = before.outcome) :
    outcome (before ++ (op, time) :: after) = outcome (before ++ after) := by
  unfold outcome at h ⊢
  rw [List.map_append, List.map_append, List.map_cons]
  exact Edit.outcome_insert h _

theorem filter_append_filter (h : order.Pairwise fun a b => a.2 ≤ b.2) (time : ℕ) :
    ((order.filter fun a => decide (a.2 ≤ time)) ++ order.filter fun a => decide (time < a.2)) =
      order := by
  induction order with
  | nil => rfl
  | cons a order ih =>
    rw [List.pairwise_cons] at h
    by_cases ha : a.2 ≤ time
    · simp only [List.filter_cons, decide_eq_true ha, ↓reduceIte, List.cons_append,
        decide_eq_false (Nat.not_lt.2 ha), Bool.false_eq_true]
      rw [ih h.2]
    · -- everything from here on is later
      have hlater : ∀ b ∈ a :: order, time < b.2 := by
        intro b hb
        rcases List.mem_cons.1 hb with rfl | hb
        · omega
        · have := h.1 b hb
          omega
      rw [List.filter_eq_nil_iff.2 fun b hb => by simp [hlater b hb],
        List.filter_eq_self.2 fun b hb => decide_eq_true (hlater b hb), List.nil_append]

variable (hsorted : order.Pairwise fun a b => a.2 ≤ b.2)
  (hnone : op.edit.onList (order.handlersAt time) = order.handlersAt time)
include hsorted

theorem pairwise_insertAt : (order.insertAt op time).Pairwise fun a b => a.2 ≤ b.2 := by
  rw [insertAt, List.pairwise_append, List.pairwise_cons]
  refine ⟨hsorted.filter _, ⟨?_, hsorted.filter _⟩, ?_⟩
  · intro b hb
    have := of_decide_eq_true (List.mem_filter.1 hb).2
    omega
  · intro a ha b hb
    have hat := of_decide_eq_true (List.mem_filter.1 ha).2
    rcases List.mem_cons.1 hb with rfl | hb
    · exact hat
    · have := of_decide_eq_true (List.mem_filter.1 hb).2
      omega

theorem perm_insertAt : (order.insertAt op time).Perm ((op, time) :: order) := by
  have hsplit := filter_append_filter hsorted time
  rw [insertAt]
  refine List.perm_middle.trans (List.Perm.cons _ ?_)
  rw [hsplit]

include hnone

theorem outcome_insertAt : (order.insertAt op time).outcome = order.outcome := by
  rw [insertAt, outcome_insert hnone, filter_append_filter hsorted]

/-- **An effect that changes nothing where it is inserted** changes nothing at any time. -/
theorem handlersAt_insertAt (at' : ℕ) :
    (order.insertAt op time).handlersAt at' = order.handlersAt at' := by
  have hsplit : (order.filter fun a => decide (a.2 ≤ at')) =
      ((order.filter fun a => decide (a.2 ≤ time)).filter fun a => decide (a.2 ≤ at')) ++
        (order.filter fun a => decide (time < a.2)).filter fun a => decide (a.2 ≤ at') := by
    rw [← List.filter_append, filter_append_filter hsorted]
  rw [handlersAt, handlersAt, insertAt, List.filter_append, List.filter_cons, hsplit]
  by_cases hle : time ≤ at'
  · have hbefore : ((order.filter fun a => decide (a.2 ≤ time)).filter
        fun a => decide (a.2 ≤ at')) = order.filter fun a => decide (a.2 ≤ time) :=
      List.filter_eq_self.2 fun a ha => by
        have := of_decide_eq_true (List.mem_filter.1 ha).2
        exact decide_eq_true (by omega)
    rw [if_pos (decide_eq_true hle), hbefore, outcome_insert hnone]
  · rw [if_neg (by simpa using hle)]

end Effects

/-! ### Explaining worlds -/

namespace World

/-- Whether a change has been published by a thread that has not returned from it yet. -/
def HasPublished (w : World ι α) (op : Operation ι α) : Prop :=
  w.running op.thread = some ⟨op.edit, op.start, .finished true⟩

/-- Whether some effects in order, of the changes that have returned and the `pending` ones that
have been published, explain a world. -/
structure Explained (w : World ι α) (pending : List (Operation ι α)) (order : Effects ι α) :
    Prop where
  /-- The effects in order come to the current handlers. -/
  outcome : order.outcome = w.channel.handlers
  sorted : order.Pairwise fun a b => a.2 ≤ b.2
  perm : (order.map Prod.fst).Perm (w.returned.map Prod.fst ++ pending)
  distinct : (w.returned.map Prod.fst ++ pending).Nodup
  mem_pending : ∀ {op : Operation ι α}, op ∈ pending ↔ w.HasPublished op
  /-- Changes take effect after they start. -/
  past : ∀ {op : Operation ι α} {time : ℕ}, (op, time) ∈ order →
    op.start ≤ time ∧ time < w.clock
  /-- Changes take effect before they return. -/
  inTime : ∀ {op : Operation ι α} {time finish : ℕ}, (op, time) ∈ order →
    (op, finish) ∈ w.returned → time ≤ finish
  returned_lt : ∀ {op : Operation ι α} {finish : ℕ}, (op, finish) ∈ w.returned →
    op.start ≤ finish ∧ finish < w.clock
  /-- A thread has returned from its earlier changes when it starts another one. -/
  started : ∀ {i : ι} {r : Running α}, w.running i = some r → r.start < w.clock ∧
    ∀ {op : Operation ι α} {finish : ℕ}, (op, finish) ∈ w.returned → op.thread = i →
      finish < r.start
  /-- What a thread holds was current at some time since its change started. -/
  seen : ∀ {i : ι} {r : Running α} {s : Snapshot α}, w.running i = some r →
    r.writer.held? = some s →
    ∃ time, r.start ≤ time ∧ time < w.clock ∧ order.handlersAt time = s.handlers
  /-- A removal that found nothing would have been without effect at some time since it started. -/
  missed : ∀ {i : ι} {r : Running α}, w.running i = some r → r.writer = .finished false →
    ∃ time, r.start ≤ time ∧ time < w.clock ∧
      r.edit.onList (order.handlersAt time) = order.handlersAt time

namespace Explained

variable {w : World ι α} {pending : List (Operation ι α)} {order : Effects ι α}
  (h : w.Explained pending order)
include h

/-- So far, the effects have come to what is current. -/
theorem handlersAt_clock : order.handlersAt w.clock = w.channel.handlers := by
  rw [Effects.handlersAt_of_past fun a ha => Nat.le_of_lt (h.past ha).2, h.outcome]

/-- A change under way has not returned. -/
theorem not_returned {i : ι} {r : Running α} (hi : w.running i = some r) (finish : ℕ) :
    ((⟨i, r.edit, r.start⟩, finish) : Operation ι α × ℕ) ∉ w.returned := by
  intro hmem
  have hlt : finish < r.start := (h.started hi).2 hmem rfl
  have hle : r.start ≤ finish := (h.returned_lt hmem).1
  omega

theorem not_mem_returned {i : ι} {r : Running α} (hi : w.running i = some r) :
    (⟨i, r.edit, r.start⟩ : Operation ι α) ∉ w.returned.map Prod.fst := by
  intro hmem
  obtain ⟨⟨op, finish⟩, hmem, rfl⟩ := List.mem_map.1 hmem
  exact h.not_returned hi finish hmem

variable [DecidableEq ι]

/-- **A step that publishes nothing** and from which no thread returns leaves the order as it is. -/
theorem leaveAt {c : Channel α} (hc : c.handlers = w.channel.handlers) {i : ι} {r : Running α}
    (hbefore : ∀ op : Operation ι α, op.thread = i → ¬ w.HasPublished op)
    (hafter : r.writer ≠ .finished true) (hstart : r.start ≤ w.clock)
    (hreturned : ∀ (op : Operation ι α) (finish : ℕ), (op, finish) ∈ w.returned →
      op.thread = i → finish < r.start)
    (hseen : ∀ s, r.writer.held? = some s →
      ∃ time, r.start ≤ time ∧ time ≤ w.clock ∧ order.handlersAt time = s.handlers)
    (hmissed : r.writer = .finished false → ∃ time, r.start ≤ time ∧ time ≤ w.clock ∧
      r.edit.onList (order.handlersAt time) = order.handlersAt time) :
    (w.leaveAt c i r).Explained pending order := by
  have hclock : (w.leaveAt c i r).clock = w.clock + 1 := rfl
  refine ⟨h.outcome.trans hc.symm, h.sorted, h.perm, h.distinct, ?_, ?_, h.inTime, ?_, ?_, ?_, ?_⟩
  · -- what is pending
    intro op
    rw [h.mem_pending, HasPublished, HasPublished, running_leaveAt]
    constructor
    · intro hop
      have hne : op.thread ≠ i := fun heq => hbefore op heq hop
      exact Or.inr ⟨hne, hop⟩
    · rintro (⟨-, heq⟩ | ⟨-, hop⟩)
      · exact absurd (congrArg Running.writer heq).symm hafter
      · exact hop
  · -- times, which are past all the more
    intro op time hmem
    have := h.past hmem
    omega
  · intro op finish hmem
    have := h.returned_lt hmem
    omega
  · intro j r' hj
    rcases running_leaveAt.1 hj with ⟨rfl, rfl⟩ | ⟨-, hj⟩
    · exact ⟨by omega, fun hmem hthread => hreturned _ _ hmem hthread⟩
    · exact ⟨by have := (h.started hj).1; omega, (h.started hj).2⟩
  · -- snapshots held
    intro j r' s hj hs
    rcases running_leaveAt.1 hj with ⟨rfl, rfl⟩ | ⟨-, hj⟩
    · obtain ⟨time, hstart', hle, hat⟩ := hseen s hs
      exact ⟨time, hstart', by omega, hat⟩
    · obtain ⟨time, hstart', hlt, hat⟩ := h.seen hj hs
      exact ⟨time, hstart', by omega, hat⟩
  · -- removals that found nothing
    intro j r' hj hr
    rcases running_leaveAt.1 hj with ⟨rfl, rfl⟩ | ⟨-, hj⟩
    · obtain ⟨time, hstart', hle, hat⟩ := hmissed hr
      exact ⟨time, hstart', by omega, hat⟩
    · obtain ⟨time, hstart', hlt, hat⟩ := h.missed hj hr
      exact ⟨time, hstart', by omega, hat⟩

/-- **A step that publishes** is the effect of its change, after all the others. -/
theorem publish {c : Channel α} {i : ι} {r : Running α} (hi : w.running i = some r)
    (hr : r.writer ≠ .finished true) (hc : c.handlers = r.edit.onList w.channel.handlers) :
    (w.leaveAt c i { r with writer := .finished true }).Explained
      (pending ++ [⟨i, r.edit, r.start⟩]) (order ++ [(⟨i, r.edit, r.start⟩, w.clock)]) := by
  have hclock : (w.leaveAt c i { r with writer := .finished true }).clock = w.clock + 1 := rfl
  have hstarted := h.started hi
  have hbefore : ∀ op : Operation ι α, op.thread = i → ¬ w.HasPublished op := by
    rintro op rfl hop
    rw [HasPublished, hi] at hop
    exact hr (congrArg Running.writer (Option.some.inj hop))
  refine ⟨?_, ?_, ?_, ?_, ?_, ?_, ?_, ?_, ?_, ?_, ?_⟩
  · rw [Effects.outcome_concat, h.outcome]
    exact hc.symm
  · -- the new effect is the last one
    rw [List.pairwise_append]
    refine ⟨h.sorted, List.pairwise_singleton _ _, fun a ha b hb => ?_⟩
    rw [List.mem_singleton.1 hb]
    exact Nat.le_of_lt (h.past ha).2
  · rw [List.map_append, List.map_singleton]
    show (_ ++ [_]).Perm (w.returned.map Prod.fst ++ _)
    rw [← List.append_assoc]
    exact h.perm.append_right _
  · -- it is the effect of a change that had none
    show (w.returned.map Prod.fst ++ _).Nodup
    rw [← List.append_assoc, List.nodup_append]
    refine ⟨h.distinct, List.nodup_singleton _, ?_⟩
    rintro op hop op' hop' rfl
    rw [List.mem_singleton.1 hop'] at hop
    rcases List.mem_append.1 hop with hop | hop
    · exact h.not_mem_returned hi hop
    · exact hbefore _ rfl (h.mem_pending.1 hop)
  · -- what is pending
    intro op
    rw [List.mem_append, List.mem_singleton, h.mem_pending, HasPublished, HasPublished,
      running_leaveAt]
    constructor
    · rintro (hop | rfl)
      · have hne : op.thread ≠ i := fun heq => hbefore op heq hop
        exact Or.inr ⟨hne, hop⟩
      · exact Or.inl ⟨rfl, rfl⟩
    · rintro (⟨rfl, heq⟩ | ⟨-, hop⟩)
      · obtain ⟨hedit, hstart, -⟩ := Running.mk.inj heq
        exact Or.inr (by rw [← hedit, ← hstart])
      · exact Or.inl hop
  · -- the times of effects
    intro op time hmem
    rcases List.mem_append.1 hmem with hmem | hmem
    · have := h.past hmem
      omega
    · obtain ⟨rfl, rfl⟩ := Prod.mk.inj (List.mem_singleton.1 hmem)
      exact ⟨Nat.le_of_lt hstarted.1, by omega⟩
  · intro op time finish hmem hreturned
    rcases List.mem_append.1 hmem with hmem | hmem
    · exact h.inTime hmem hreturned
    · obtain ⟨rfl, rfl⟩ := Prod.mk.inj (List.mem_singleton.1 hmem)
      exact absurd hreturned (h.not_returned hi finish)
  · intro op finish hmem
    have := h.returned_lt hmem
    omega
  · intro j r' hj
    rcases running_leaveAt.1 hj with ⟨rfl, rfl⟩ | ⟨-, hj⟩
    · exact ⟨by have := hstarted.1; dsimp only; omega, hstarted.2⟩
    · exact ⟨by have := (h.started hj).1; omega, (h.started hj).2⟩
  · -- what was current up to now stays what it was
    intro j r' s hj hs
    rcases running_leaveAt.1 hj with ⟨rfl, rfl⟩ | ⟨-, hj⟩
    · cases hs
    · obtain ⟨time, hstart, hlt, hat⟩ := h.seen hj hs
      exact ⟨time, hstart, by omega, by rw [Effects.handlersAt_concat hlt, hat]⟩
  · intro j r' hj hr'
    rcases running_leaveAt.1 hj with ⟨rfl, rfl⟩ | ⟨-, hj⟩
    · cases hr'
    · obtain ⟨time, hstart, hlt, hat⟩ := h.missed hj hr'
      exact ⟨time, hstart, by omega, by rw [Effects.handlersAt_concat hlt, hat]⟩

/-- What a return leaves of the times. -/
theorem times_leave {i : ι} {r : Running α} (hi : w.running i = some r) :
    (∀ {op : Operation ι α} {finish : ℕ}, (op, finish) ∈ (w.leave i r).returned →
      op.start ≤ finish ∧ finish < (w.leave i r).clock) ∧
    (∀ {j : ι} {r' : Running α}, (w.leave i r).running j = some r' →
      r'.start < (w.leave i r).clock ∧
      ∀ {op : Operation ι α} {finish : ℕ}, (op, finish) ∈ (w.leave i r).returned →
        op.thread = j → finish < r'.start) := by
  have hclock : (w.leave i r).clock = w.clock + 1 := rfl
  constructor
  · intro op finish hmem
    rcases List.mem_append.1 hmem with hmem | hmem
    · have := h.returned_lt hmem
      omega
    · obtain ⟨rfl, rfl⟩ := Prod.mk.inj (List.mem_singleton.1 hmem)
      exact ⟨Nat.le_of_lt (h.started hi).1, by omega⟩
  · intro j r' hj
    obtain ⟨hne, hj⟩ := running_leave.1 hj
    refine ⟨by have := (h.started hj).1; omega, fun {op finish} hmem hthread => ?_⟩
    rcases List.mem_append.1 hmem with hmem | hmem
    · exact (h.started hj).2 hmem hthread
    · obtain ⟨rfl, -⟩ := Prod.mk.inj (List.mem_singleton.1 hmem)
      exact absurd hthread.symm hne

/-- **A return from a change that was published.** -/
theorem leave_published {i : ι} {r : Running α} (hi : w.running i = some r)
    (hr : r.writer = .finished true) :
    ∃ pending', (w.leave i r).Explained pending' order := by
  have hclock : (w.leave i r).clock = w.clock + 1 := rfl
  have hpublished : w.HasPublished ⟨i, r.edit, r.start⟩ := by
    rw [HasPublished, hi, ← hr]
  obtain ⟨xs, ys, hsplit⟩ := List.append_of_mem (h.mem_pending.2 hpublished)
  have hnodup := (List.nodup_append.1 h.distinct).2.1
  rw [hsplit, List.nodup_middle, List.nodup_cons] at hnodup
  have hmove : (w.returned.map Prod.fst ++ pending).Perm
      ((w.leave i r).returned.map Prod.fst ++ (xs ++ ys)) := by
    show List.Perm _ ((w.returned ++ [_]).map Prod.fst ++ (xs ++ ys))
    rw [hsplit, List.map_append, List.append_assoc]
    exact List.perm_middle.append_left _
  refine ⟨xs ++ ys, h.outcome, h.sorted, h.perm.trans hmove, hmove.nodup_iff.1 h.distinct, ?_, ?_,
    ?_, (h.times_leave hi).1, (h.times_leave hi).2, ?_, ?_⟩
  · -- the change is pending no longer, the others still are
    intro op
    rw [HasPublished, running_leave]
    constructor
    · intro hmem
      have hop : w.HasPublished op := by
        rw [← h.mem_pending, hsplit]
        rcases List.mem_append.1 hmem with hmem | hmem
        · exact List.mem_append_left _ hmem
        · exact List.mem_append_right _ (List.mem_cons_of_mem _ hmem)
      refine ⟨?_, hop⟩
      rintro rfl
      rw [HasPublished, hi] at hop
      obtain rfl := Option.some.inj hop
      exact hnodup.1 hmem
    · rintro ⟨hne, hop⟩
      have hmem : op ∈ pending := h.mem_pending.2 hop
      rw [hsplit] at hmem
      rcases List.mem_append.1 hmem with hmem | hmem
      · exact List.mem_append_left _ hmem
      · rcases List.mem_cons.1 hmem with rfl | hmem
        · exact absurd rfl hne
        · exact List.mem_append_right _ hmem
  · intro op time hmem
    have := h.past hmem
    omega
  · -- it returns after its effect
    intro op time finish hmem hreturned
    rcases List.mem_append.1 hreturned with hreturned | hreturned
    · exact h.inTime hmem hreturned
    · obtain ⟨-, rfl⟩ := Prod.mk.inj (List.mem_singleton.1 hreturned)
      exact Nat.le_of_lt (h.past hmem).2
  · intro j r' s hj hs
    obtain ⟨time, hstart, hlt, hat⟩ := h.seen (running_leave.1 hj).2 hs
    exact ⟨time, hstart, by omega, hat⟩
  · intro j r' hj hr'
    obtain ⟨time, hstart, hlt, hat⟩ := h.missed (running_leave.1 hj).2 hr'
    exact ⟨time, hstart, by omega, hat⟩

/-- **A return from a removal that found nothing** inserts its effect where it would have been
without effect. -/
theorem leave_missed {i : ι} {r : Running α} (hi : w.running i = some r)
    (hr : r.writer = .finished false) :
    ∃ order', (w.leave i r).Explained pending order' := by
  have hclock : (w.leave i r).clock = w.clock + 1 := rfl
  obtain ⟨at', hstart, hlt, hnone⟩ := h.missed hi hr
  let op : Operation ι α := ⟨i, r.edit, r.start⟩
  have hperm : (order.insertAt op at').Perm ((op, at') :: order) :=
    Effects.perm_insertAt h.sorted
  have hat' : ∀ time, (order.insertAt op at').handlersAt time = order.handlersAt time :=
    Effects.handlersAt_insertAt h.sorted hnone
  have hmore : (op :: (w.returned.map Prod.fst ++ pending)).Perm
      ((w.leave i r).returned.map Prod.fst ++ pending) := by
    show List.Perm _ ((w.returned ++ [_]).map Prod.fst ++ pending)
    rw [List.map_append, List.append_assoc]
    exact List.perm_middle.symm
  refine ⟨order.insertAt op at', ?_, Effects.pairwise_insertAt h.sorted,
    (hperm.map _).trans ((h.perm.cons _).trans hmore), ?_, ?_, ?_, ?_,
    (h.times_leave hi).1, (h.times_leave hi).2, ?_, ?_⟩
  · rw [Effects.outcome_insertAt h.sorted hnone]
    exact h.outcome
  · -- the change had no effect before
    refine hmore.nodup_iff.1 (List.nodup_cons.2 ⟨fun hmem => ?_, h.distinct⟩)
    rcases List.mem_append.1 hmem with hmem | hmem
    · exact h.not_mem_returned hi hmem
    · have hpublished := h.mem_pending.1 hmem
      rw [HasPublished, hi] at hpublished
      have hwriter := congrArg Running.writer (Option.some.inj hpublished)
      rw [hr] at hwriter
      cases hwriter
  · -- nor was it pending
    intro op'
    rw [h.mem_pending, HasPublished, HasPublished, running_leave]
    constructor
    · intro hop'
      refine ⟨?_, hop'⟩
      intro heq
      rw [heq, hi] at hop'
      have hwriter := congrArg Running.writer (Option.some.inj hop')
      rw [hr] at hwriter
      cases hwriter
    · exact And.right
  · intro op' time hmem
    rcases List.mem_cons.1 (hperm.mem_iff.1 hmem) with heq | hmem
    · obtain ⟨rfl, rfl⟩ := Prod.mk.inj heq
      exact ⟨hstart, by omega⟩
    · have := h.past hmem
      omega
  · -- its effect lies before its return
    intro op' time finish hmem hreturned
    rcases List.mem_append.1 hreturned with hreturned | hreturned
    · rcases List.mem_cons.1 (hperm.mem_iff.1 hmem) with heq | hmem
      · obtain ⟨rfl, rfl⟩ := Prod.mk.inj heq
        exact absurd hreturned (h.not_returned hi finish)
      · exact h.inTime hmem hreturned
    · obtain ⟨rfl, rfl⟩ := Prod.mk.inj (List.mem_singleton.1 hreturned)
      rcases List.mem_cons.1 (hperm.mem_iff.1 hmem) with heq | hmem
      · obtain ⟨-, rfl⟩ := Prod.mk.inj heq
        exact Nat.le_of_lt hlt
      · exact Nat.le_of_lt (h.past hmem).2
  · -- what was current at any time is what it was
    intro j r' s hj hs
    obtain ⟨time, hstart, hlt, hat⟩ := h.seen (running_leave.1 hj).2 hs
    exact ⟨time, hstart, by omega, by rw [hat', hat]⟩
  · intro j r' hj hr'
    obtain ⟨time, hstart, hlt, hat⟩ := h.missed (running_leave.1 hj).2 hr'
    exact ⟨time, hstart, by omega, by rw [hat', hat]⟩

/-- **Every step of a consistent world** leaves it explained. -/
theorem step {tells : ℕ → List α} (hw : w.Consistent tells) {w' : World ι α} (hs : Step w w') :
    ∃ pending' order', w'.Explained pending' order' := by
  cases hs with
  | @start i hi e =>
    refine ⟨pending, order, h.leaveAt rfl ?_ (by rintro ⟨⟩) (Nat.le_refl _) ?_ (by rintro s ⟨⟩)
      (by rintro ⟨⟩)⟩
    · rintro op rfl hop
      rw [HasPublished, hi] at hop
      cases hop
    · intro op finish hmem _
      exact (h.returned_lt hmem).2
  | @advance i r hi hr =>
    obtain ⟨hstart, hreturned⟩ := h.started hi
    have hbefore : ∀ op : Operation ι α, op.thread = i → ¬ w.HasPublished op := by
      rintro op rfl hop
      rw [HasPublished, hi] at hop
      exact hr true (congrArg Running.writer (Option.some.inj hop))
    have hreturned' : ∀ (op : Operation ι α) (finish : ℕ), (op, finish) ∈ w.returned →
        op.thread = i → finish < r.start := fun _ _ hmem hthread => hreturned hmem hthread
    have hcurrent : ∃ time, r.start ≤ time ∧ time ≤ w.clock ∧
        order.handlersAt time = w.channel.current.handlers :=
      ⟨w.clock, Nat.le_of_lt hstart, Nat.le_refl _, h.handlersAt_clock⟩
    cases hwriter : r.writer with
    | reading =>
      refine ⟨pending, order, h.leaveAt rfl hbefore (by rintro ⟨⟩) (Nat.le_of_lt hstart) hreturned'
        ?_ (by rintro ⟨⟩)⟩
      rintro s ⟨⟩
      exact hcurrent
    | holding held =>
      obtain ⟨time, hfrom, hlt, hat⟩ := h.seen hi (s := held) (by rw [hwriter]; rfl)
      simp only [Writer.advance]
      cases hchange : r.edit.change? held.handlers with
      | none =>
        refine ⟨pending, order, h.leaveAt rfl hbefore (by rintro ⟨⟩) (Nat.le_of_lt hstart)
          hreturned' (by rintro s ⟨⟩) fun _ => ⟨time, hfrom, Nat.le_of_lt hlt, ?_⟩⟩
        rw [hat]
        exact Edit.change?_eq_none hchange
      | some handlers =>
        have hhandlers : (w.channel.prepare handlers).2.handlers = w.channel.handlers :=
          congrArg Snapshot.handlers Channel.current_prepare
        refine ⟨pending, order, h.leaveAt hhandlers hbefore (by rintro ⟨⟩) (Nat.le_of_lt hstart)
          hreturned' ?_ (by rintro ⟨⟩)⟩
        rintro s ⟨⟩
        exact ⟨time, hfrom, Nat.le_of_lt hlt, hat⟩
    | prepared held candidate =>
      obtain ⟨-, hchange⟩ := hw.candidate hi hwriter
      by_cases hserial : w.channel.current.serial = held.serial
      · -- the snapshot held may have been replaced meanwhile, but not by other handlers
        have hheld : held.Genuine tells w.channel := hw.held hi (by rw [hwriter]; rfl)
        have hsame : w.channel.handlers = held.handlers := by
          rw [Channel.handlers, hw.current.handlers_eq, hserial, hheld.handlers_eq]
        simp only [Writer.advance, Channel.exchange, if_pos hserial]
        refine ⟨_, _, h.publish hi (hr true) ?_⟩
        rw [hsame]
        exact (Edit.change?_eq_some hchange).symm
      · simp only [Writer.advance, Channel.exchange, if_neg hserial]
        refine ⟨pending, order, h.leaveAt rfl hbefore (by rintro ⟨⟩) (Nat.le_of_lt hstart)
          hreturned' ?_ (by rintro ⟨⟩)⟩
        rintro s ⟨⟩
        exact hcurrent
    | finished published => exact absurd hwriter (hr published)
  | @finish i r published hi hr =>
    cases published with
    | true =>
      obtain ⟨pending', h'⟩ := h.leave_published hi hr
      exact ⟨pending', order, h'⟩
    | false =>
      obtain ⟨order', h'⟩ := h.leave_missed hi hr
      exact ⟨pending, order', h'⟩

end Explained

variable [DecidableEq ι] {w : World ι α}

theorem Reachable.explained (h : w.Reachable) : ∃ pending order, w.Explained pending order := by
  induction h with
  | init =>
    have hnone : ∀ op : Operation ι α, ¬ (World.init : World ι α).HasPublished op := nofun
    exact ⟨[], [], rfl, List.Pairwise.nil, List.Perm.refl _, List.nodup_nil,
      fun {op} => ⟨nofun, fun hop => absurd hop (hnone op)⟩, nofun, nofun, nofun, nofun, nofun,
      nofun⟩
  | step h hs ih =>
    obtain ⟨pending, order, hexplained⟩ := ih
    obtain ⟨tells, htells⟩ := h.consistent
    exact hexplained.step htells hs

/-- **Concurrent changes are linearizable and lose no update.**  Whatever the threads do and in
whatever order they take their steps, the changes that have returned, together with the pending ones
that have been published, can be put in an order, each once and each with the time of its effect,
such that

* the times agree with the order, and each lies between the start of the change and its return;
* the current handlers are what the changes come to in that order, as plain operations on lists;
* the handlers that were added are the current ones and those that were dropped, at most one by each
  removal, whose test it passes. -/
theorem Reachable.linearizable (h : w.Reachable) :
    ∃ (pending : List (Operation ι α)) (order : List (Operation ι α × ℕ)),
      (∀ op, op ∈ pending ↔ w.HasPublished op) ∧
      (w.returned.map Prod.fst ++ pending).Nodup ∧
      (order.map Prod.fst).Perm (w.returned.map Prod.fst ++ pending) ∧
      (order.Pairwise fun a b => a.2 ≤ b.2) ∧
      (∀ op time, (op, time) ∈ order → op.start ≤ time ∧ time < w.clock ∧
        ∀ finish, (op, finish) ∈ w.returned → time ≤ finish) ∧
      (order.map fun a => a.1.edit).foldl (fun xs e => e.onList xs) [] = w.channel.handlers ∧
      ∃ dropped : List (Operation ι α × α),
        (dropped.map Prod.fst).Sublist (order.map Prod.fst) ∧
        (∀ d ∈ dropped, ∃ passes, d.1.edit = .remove passes ∧ passes d.2 = true) ∧
        ((order.map Prod.fst).filterMap fun op => op.edit.added?).Perm
          (w.channel.handlers ++ dropped.map Prod.snd) := by
  obtain ⟨pending, order, hexplained⟩ := h.explained
  obtain ⟨dropped, hsub, hpasses, hperm⟩ :=
    Edit.outcome_accounts Operation.edit (order.map Prod.fst)
  have houtcome : Edit.outcome ((order.map Prod.fst).map Operation.edit) = w.channel.handlers := by
    rw [List.map_map]
    exact hexplained.outcome
  rw [houtcome] at hperm
  exact ⟨pending, order, fun op => hexplained.mem_pending, hexplained.distinct, hexplained.perm,
    hexplained.sorted,
    fun op time hmem => ⟨(hexplained.past hmem).1, (hexplained.past hmem).2,
      fun finish hreturned => hexplained.inTime hmem hreturned⟩,
    hexplained.outcome, dropped, hsub, hpasses, hperm⟩

/-- Two threads.  The second one reads before the first one has published, so its exchange fails.
Then the first one reads in order to remove what the second one adds meanwhile, finds nothing in the
snapshot that it holds, and returns after that addition was published. -/
theorem Reachable.linearizable_race :
    ∃ (w : World Bool ℕ) (order : List (Operation Bool ℕ × ℕ)), w.Reachable ∧
      w.returned = [(⟨true, .add 7, 0⟩, 8), (⟨true, .removeEqual 8, 9⟩, 14),
        (⟨false, .add 8, 1⟩, 15)] ∧
      w.channel.handlers = [7, 8] ∧
      (order.map Prod.fst).Perm
        [⟨true, .add 7, 0⟩, ⟨true, .removeEqual 8, 9⟩, ⟨false, .add 8, 1⟩] ∧
      (order.map fun a => a.1.edit).foldl (fun xs e => e.onList xs) [] = [7, 8] ∧
      (∀ time, (⟨true, .removeEqual 8, 9⟩, time) ∈ order → 9 ≤ time ∧ time ≤ 14) ∧
      ∀ time, (⟨false, .add 8, 1⟩, time) ∈ order → 1 ≤ time ∧ time ≤ 15 := by
  have hinit : Reachable (World.init : World Bool ℕ) := .init
  -- both threads start, read and prepare
  have h₁ := hinit.step (.start (i := true) rfl (.add 7))
  have h₂ := h₁.step (.start (i := false) rfl (.add 8))
  have h₃ := h₂.step (.advance (i := true) rfl nofun)
  have h₄ := h₃.step (.advance (i := false) rfl nofun)
  have h₅ := h₄.step (.advance (i := true) rfl nofun)
  have h₆ := h₅.step (.advance (i := false) rfl nofun)
  -- the first one publishes and returns, the second one fails and prepares again
  have h₇ := h₆.step (.advance (i := true) rfl nofun)
  have h₈ := h₇.step (.advance (i := false) rfl nofun)
  have h₉ := h₈.step (.finish (i := true) rfl rfl)
  have h₁₀ := h₉.step (.start (i := true) rfl (.removeEqual 8))
  have h₁₁ := h₁₀.step (.advance (i := false) rfl nofun)
  -- the first one reads again, the second one publishes, and nothing is found to remove
  have h₁₂ := h₁₁.step (.advance (i := true) rfl nofun)
  have h₁₃ := h₁₂.step (.advance (i := false) rfl nofun)
  have h₁₄ := h₁₃.step (.advance (i := true) rfl nofun)
  have h₁₅ := h₁₄.step (.finish (i := true) rfl rfl)
  have h₁₆ := h₁₅.step (.finish (i := false) rfl rfl)
  obtain ⟨pending, order, hpending, -, hperm, -, htimes, houtcome, -⟩ := h₁₆.linearizable
  have hnone : pending = [] := by
    rw [List.eq_nil_iff_forall_not_mem]
    rintro ⟨thread, edit, start⟩ hop
    have hrunning := (hpending _).1 hop
    cases thread with
    | false => cases hrunning
    | true => cases hrunning
  rw [hnone] at hperm
  refine ⟨_, order, h₁₆, rfl, rfl, hperm, houtcome, fun time hmem => ?_, fun time hmem => ?_⟩
  · obtain ⟨hstart, -, hfinish⟩ := htimes _ time hmem
    exact ⟨hstart, hfinish 14 (List.mem_cons_of_mem _ List.mem_cons_self)⟩
  · obtain ⟨hstart, -, hfinish⟩ := htimes _ time hmem
    exact ⟨hstart, hfinish 15 (List.mem_cons_of_mem _ (List.mem_cons_of_mem _ List.mem_cons_self))⟩

end World

end TrackedEntity
