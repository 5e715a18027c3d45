import Mathlib.Tactic.IntervalCases
import TrackedEntity.Proofs.Lock.Wakeups

/-!
# Writers are not overtaken

A `Run` is a history of steps of any number of threads, from the free lock on.  While some writer
waits, the count of waiting writers is positive, however many of them come and go meanwhile, and
while one is inside, the flag is up; so no step lets a reader in.

Over a run this says that no reader enters between a request for an exclusive hold and the entry
that answers it.  A reader that enters after such a request therefore enters after that writer has
entered and left (`Run.writer_precedes`), since a thread stops waiting only by being let in, and
loses a hold only by leaving.
-/

namespace TrackedEntity.Contention

variable {c c' : Contention} {name other : String} {a : Access} {m : Move}

/-! ### Single steps -/

/-- Whether a step from one state to another lets a thread in. -/
def LetsIn (c c' : Contention) (name : String) (a : Access) : Prop :=
  c'.thread name = ⟨a :: (c.thread name).held, none⟩

/-- A thread that is let in takes the step itself. -/
theorem LetsIn.eq (hmove : c.move? name m = some c') (h : LetsIn c c' other a) : other = name := by
  by_contra hne
  have hheld := (thread_of_ne hmove hne).1
  rw [h] at hheld
  exact List.cons_ne_self _ _ hheld

/-- A thread that is let in was admitted. -/
theorem LetsIn.admits (hmove : c.move? name m = some c') (h : LetsIn c c' name a) :
    (c.lock.arrive a).admits a = true ∨ c.lock.admits a = true := by
  have hheld : (c'.thread name).held = a :: (c.thread name).held := congrArg Thread.held h
  have hfree : (c'.thread name).waiting = none := congrArg Thread.waiting h
  cases move?_eq_some_iff.1 hmove with
  | enter _ hadmits =>
    rw [thread_granted_self, thread_arrived_self, List.cons.injEq] at hheld
    rw [← hheld.1]
    exact .inl hadmits
  | wake _ hadmits =>
    rw [thread_granted_self, List.cons.injEq] at hheld
    rw [← hheld.1]
    exact .inr hadmits
  | park | stay =>
    rw [thread_refused_self] at hfree
    cases hfree
  | withdraw =>
    rw [thread_withdrawn_self] at hheld
    exact absurd hheld.symm (List.cons_ne_self _ _)
  | leaveTelling | leave =>
    have hlength := congrArg List.length hheld
    rw [(thread_of_leave hmove).2.2, List.length_tail, List.length_cons] at hlength
    omega

/-- A reader that is let in was admitted before the step, since asking changes nothing. -/
theorem LetsIn.admits_shared (hmove : c.move? name m = some c') (h : LetsIn c c' other .shared) :
    c.lock.admits .shared = true := by
  obtain rfl := h.eq hmove
  rcases h.admits hmove with hadmits | hadmits
  · exact hadmits
  · exact hadmits

namespace Counted

/-- No reader is admitted while a writer waits. -/
theorem refuses_of_awaits (h : c.Counted) (hawaits : (c.thread name).Awaits .exclusive) :
    c.lock.admits .shared = false := by
  have hpos := awaiting_pos_of_awaits hawaits
  have hwaiting := h.waiting
  exact Lock.admits_eq_false_iff.1.2 (.inr (by omega))

/-- No reader is admitted while a writer is inside. -/
theorem refuses_of_mem (h : c.Counted) (hheld : .exclusive ∈ (c.thread name).held) :
    c.lock.admits .shared = false :=
  Lock.admits_eq_false_iff.1.2 (.inl (h.writing_iff.2 ⟨name, hheld⟩))

/-- **No step lets a reader in while a writer waits.** -/
theorem not_letsIn_of_awaits (h : c.Counted) (hawaits : (c.thread name).Awaits .exclusive)
    {reader : String} (hmove : c.move? other m = some c') : ¬ LetsIn c c' reader .shared := by
  intro hin
  have hrefuses := h.refuses_of_awaits hawaits
  exact Bool.false_ne_true (hrefuses.symm.trans (hin.admits_shared hmove))

/-- **No step raises the number of readers while a writer waits.** -/
theorem readers_le (h : c.Counted) (hawaits : (c.thread name).Awaits .exclusive)
    (hmove : c.move? other m = some c') : c'.lock.readers ≤ c.lock.readers := by
  have hnot : ¬ LetsIn c c' other .shared := h.not_letsIn_of_awaits hawaits hmove
  cases move?_eq_some_iff.1 hmove with
  | @enter a =>
    cases a with
    | shared =>
      refine absurd ?_ hnot
      rw [LetsIn, thread_granted_self, thread_arrived_self]
    | exclusive => exact le_refl c.lock.readers
  | @park a =>
    cases a with
    | shared => exact le_refl c.lock.readers
    | exclusive => exact le_refl c.lock.readers
  | @wake w =>
    cases haccess : w.access with
    | shared =>
      refine absurd ?_ hnot
      rw [LetsIn, thread_granted_self, haccess]
    | exclusive => exact le_refl c.lock.readers
  | stay => exact le_refl c.lock.readers
  | @withdraw w =>
    cases w.access with
    | shared => exact le_refl c.lock.readers
    | exclusive => exact le_refl c.lock.readers
  | @leaveTelling a =>
    cases a with
    | shared => exact Int.sub_le_self _ (by decide)
    | exclusive => exact le_refl c.lock.readers
  | @leave a =>
    cases a with
    | shared => exact Int.sub_le_self _ (by decide)
    | exclusive => exact le_refl c.lock.readers

end Counted

/-- A thread stops waiting by a step of its own, which lets it in or gives its request up. -/
theorem letsIn_of_awaits (hmove : c.move? other m = some c') (hm : m ≠ .withdraw)
    (hbefore : (c.thread name).Awaits a) (hafter : ¬ (c'.thread name).Awaits a) :
    LetsIn c c' name a := by
  have hself : name = other := by
    by_contra hne
    exact hafter (((thread_of_ne hmove hne).2 a).2 hbefore)
  subst hself
  obtain ⟨w, hwaits, rfl⟩ := Option.map_eq_some_iff.1 hbefore
  cases move?_eq_some_iff.1 hmove with
  | enter hfree | park hfree | leaveTelling hfree | leave hfree =>
    rw [hwaits] at hfree
    cases hfree
  | @wake w' hwaits' =>
    obtain rfl := Option.some.inj (hwaits'.symm.trans hwaits)
    exact thread_granted_self
  | @stay w' hwaits' =>
    obtain rfl := Option.some.inj (hwaits'.symm.trans hwaits)
    refine absurd ?_ hafter
    rw [Thread.Awaits, thread_refused_self]
    rfl
  | withdraw => exact absurd rfl hm

/-- A thread loses a hold by leaving it. -/
theorem leaves_of_mem (hmove : c.move? other m = some c') (hbefore : a ∈ (c.thread name).held)
    (hafter : a ∉ (c'.thread name).held) :
    name = other ∧ m = .leave ∧ (c.thread name).held = a :: (c'.thread name).held := by
  have hself : name = other := by
    by_contra hne
    rw [(thread_of_ne hmove hne).1] at hafter
    exact hafter hbefore
  subst hself
  cases m with
  | leave =>
    obtain ⟨-, -, hheld⟩ := thread_of_leave hmove
    refine ⟨rfl, rfl, ?_⟩
    rw [hheld] at hafter ⊢
    cases h : (c.thread name).held with
    | nil =>
      rw [h] at hbefore
      cases hbefore
    | cons b held =>
      rw [h, List.tail_cons] at hafter
      rw [h] at hbefore
      rw [List.tail_cons, (List.mem_cons.1 hbefore).resolve_right hafter]
  | request b =>
    rcases (thread_of_request hmove).2 with h | h
    · rw [h] at hafter
      exact absurd (List.mem_cons_of_mem b hbefore) hafter
    · rw [h] at hafter
      exact absurd hbefore hafter
  | test =>
    obtain ⟨b, -, h | h⟩ := thread_of_test hmove
    · rw [h] at hafter
      exact absurd (List.mem_cons_of_mem b hbefore) hafter
    · rw [h] at hafter
      exact absurd hbefore hafter
  | withdraw =>
    cases move?_eq_some_iff.1 hmove with
    | withdraw =>
      rw [thread_withdrawn_self] at hafter
      exact absurd hbefore hafter

/-! ### Runs -/

/-- A history of steps from the free lock on, each of which may be taken. -/
structure Run (may : Contention → String → Move → Prop) where
  length : ℕ
  state : ℕ → Contention
  /-- The thread that takes a step. -/
  actor : ℕ → String
  move : ℕ → Move
  state_zero : state 0 = start
  may : ∀ k < length, may (state k) (actor k) (move k)
  step : ∀ k < length, (state k).move? (actor k) (move k) = some (state (k + 1))

/-- What holds at first and not at the end holds up to some number and no longer. -/
theorem exists_last {P : ℕ → Prop} {i k : ℕ} (hik : i ≤ k) (hi : P i) (hk : ¬ P k) :
    ∃ j, i ≤ j ∧ j < k ∧ (∀ n, i ≤ n → n ≤ j → P n) ∧ ¬ P (j + 1) := by
  by_contra hnone
  push Not at hnone
  -- otherwise it goes on holding, from each number to the next
  have hall : ∀ j, i ≤ j → j ≤ k → ∀ n, i ≤ n → n ≤ j → P n := by
    intro j hij
    induction j, hij using Nat.le_induction with
    | base =>
      intro _ n hin hni
      rw [Nat.le_antisymm hni hin]
      exact hi
    | succ j hij ih =>
      intro hjk n hin hnj
      have hbefore := ih (by omega)
      rcases Nat.lt_or_eq_of_le hnj with hlt | rfl
      · exact hbefore n hin (by omega)
      · exact hnone j hij (by omega) hbefore
  exact hk (hall k hik (Nat.le_refl k) k hik (Nat.le_refl k))

namespace Run

variable {may : Contention → String → Move → Prop} (r : Run may) {i j k l : ℕ}

theorem reachable (hk : k ≤ r.length) : (r.state k).Reachable := by
  induction k with
  | zero =>
    rw [r.state_zero]
    exact .start
  | succ k ih => exact .step (r.actor k) (r.move k) (ih (by omega)) trivial (r.step k (by omega))

/-- Whether a step is a thread's request. -/
def Requests (k : ℕ) (name : String) (a : Access) : Prop :=
  k < r.length ∧ r.actor k = name ∧ r.move k = .request a

/-- Whether a step lets a thread in. -/
def Enters (k : ℕ) (name : String) (a : Access) : Prop :=
  k < r.length ∧ LetsIn (r.state k) (r.state (k + 1)) name a

/-- Whether a step ends a hold of a thread. -/
def Leaves (k : ℕ) (name : String) (a : Access) : Prop :=
  k < r.length ∧ r.actor k = name ∧ r.move k = .leave ∧
    ((r.state k).thread name).held = a :: ((r.state (k + 1)).thread name).held

/-- Whether a thread waits for access in all states after one step and up to another one. -/
def AwaitsFrom (i j : ℕ) (name : String) (a : Access) : Prop :=
  ∀ n, i < n → n ≤ j → ((r.state n).thread name).Awaits a

/-- Whether a thread holds in all states after one step and up to another one. -/
def HoldsFrom (j l : ℕ) (name : String) (a : Access) : Prop :=
  ∀ n, j < n → n ≤ l → a ∈ ((r.state n).thread name).held

theorem not_enters_of_awaits (hawaits : ((r.state k).thread name).Awaits .exclusive)
    (reader : String) : ¬ r.Enters k reader .shared := by
  rintro ⟨hk, hin⟩
  have hc := (r.reachable (Nat.le_of_lt hk)).counted
  exact hc.not_letsIn_of_awaits hawaits (r.step k hk) hin

/-- A request that a reader's entry finds answered was answered by an entry. -/
theorem exists_enters (r : Run Patient) (hrequests : r.Requests i name .exclusive) (hik : i < k)
    (henters : r.Enters k other .shared) :
    ∃ j, i ≤ j ∧ j < k ∧ r.AwaitsFrom i j name .exclusive ∧ r.Enters j name .exclusive := by
  obtain ⟨hi, rfl, hmove⟩ := hrequests
  have hstep := r.step i hi
  rw [hmove] at hstep
  rcases (thread_of_request hstep).2 with hin | hwaits
  · -- the request was granted at once
    exact ⟨i, Nat.le_refl i, hik, fun n hin hni => absurd hin (by omega), hi, hin⟩
  · have hfirst : ((r.state (i + 1)).thread (r.actor i)).Awaits .exclusive := by
      rw [Thread.Awaits, hwaits]
      rfl
    -- the reader would not have been admitted
    have hlast : ¬ ((r.state k).thread (r.actor i)).Awaits .exclusive :=
      fun hawaits => r.not_enters_of_awaits hawaits other henters
    obtain ⟨j, hij, hjk, hbetween, hnot⟩ :=
      exists_last (P := fun n => ((r.state n).thread (r.actor i)).Awaits .exclusive) hik hfirst hlast
    have hj : j < r.length := Nat.lt_trans hjk henters.1
    exact ⟨j, by omega, hjk, hbetween, hj,
      letsIn_of_awaits (r.step j hj) (r.may j hj) (hbetween j hij (Nat.le_refl j)) hnot⟩

/-- A writer that a reader's entry finds gone has left. -/
theorem exists_leaves (hwriter : r.Enters j name .exclusive) (hjk : j < k)
    (hreader : r.Enters k other .shared) :
    ∃ l, j < l ∧ l < k ∧ r.HoldsFrom j l name .exclusive ∧ r.Leaves l name .exclusive := by
  have hfirst : .exclusive ∈ ((r.state (j + 1)).thread name).held := by
    rw [hwriter.2]
    exact List.mem_cons_self
  have hlast : .exclusive ∉ ((r.state k).thread name).held := by
    intro hheld
    obtain ⟨hk, hin⟩ := hreader
    have hrefuses := (r.reachable (Nat.le_of_lt hk)).counted.refuses_of_mem hheld
    exact Bool.false_ne_true (hrefuses.symm.trans (hin.admits_shared (r.step k hk)))
  obtain ⟨l, hjl, hlk, hbetween, hnot⟩ :=
    exists_last (P := fun n => .exclusive ∈ ((r.state n).thread name).held) hjk hfirst hlast
  have hl : l < r.length := Nat.lt_trans hlk hreader.1
  obtain ⟨hactor, hmove, hheld⟩ :=
    leaves_of_mem (r.step l hl) (hbetween l hjl (Nat.le_refl l)) hnot
  exact ⟨l, hjl, hlk, hbetween, hl, hactor.symm, hmove, hheld⟩

theorem readers_le (hik : i ≤ k) (hk : k ≤ r.length)
    (hwriter : ∀ n, i ≤ n → n < k → ∃ name, ((r.state n).thread name).Awaits .exclusive) :
    (r.state k).lock.readers ≤ (r.state i).lock.readers := by
  induction k, hik using Nat.le_induction with
  | base => exact Int.le_refl _
  | succ k hik ih =>
    obtain ⟨name, hawaits⟩ := hwriter k hik (Nat.lt_succ_self k)
    have hc := (r.reachable (Nat.le_of_succ_le hk)).counted
    have hstep : (r.state (k + 1)).lock.readers ≤ (r.state k).lock.readers :=
      hc.readers_le hawaits (r.step k hk)
    have hbefore := ih (Nat.le_of_succ_le hk) fun n hin hnk => hwriter n hin (by omega)
    exact Int.le_trans hstep hbefore

/-- **Writers are not overtaken.**  In every run in which no request is given up,

* while a writer waits that asked at one step, no later step lets a reader in;
* a reader that is let in after a writer has asked is let in after that very request was granted and
  the hold has ended;
* over any stretch in which always some writer waits the number of readers does not grow. -/
theorem writer_precedes (r : Run Patient) :
    (∀ i j writer, r.Requests i writer .exclusive → r.AwaitsFrom i j writer .exclusive →
      ∀ k reader, i < k → k ≤ j → ¬ r.Enters k reader .shared) ∧
    (∀ i k writer reader, r.Requests i writer .exclusive → i < k → r.Enters k reader .shared →
      ∃ j l, i ≤ j ∧ j < l ∧ l < k ∧
        r.AwaitsFrom i j writer .exclusive ∧ r.Enters j writer .exclusive ∧
        r.HoldsFrom j l writer .exclusive ∧ r.Leaves l writer .exclusive) ∧
    (∀ i k, i ≤ k → k ≤ r.length →
      (∀ n, i ≤ n → n < k → ∃ writer, ((r.state n).thread writer).Awaits .exclusive) →
      (r.state k).lock.readers ≤ (r.state i).lock.readers) := by
  refine ⟨?_, ?_, fun i k hik hk => r.readers_le hik hk⟩
  · intro i j writer _ hawaits k reader hik hkj
    exact r.not_enters_of_awaits (hawaits k hik hkj) reader
  · intro i k writer reader hrequests hik hreader
    obtain ⟨j, hij, hjk, hawaits, henters⟩ := r.exists_enters hrequests hik hreader
    obtain ⟨l, hjl, hlk, hholds, hleaves⟩ := r.exists_leaves henters hjk hreader
    exact ⟨j, l, hij, hjl, hlk, hawaits, henters, hholds, hleaves⟩

/-- A reader, a writer that asks while the reader is inside, and another reader that asks after
that.  The writer is let in first. -/
def handover : Run Patient where
  length := 7
  state
    | 0 => start
    | 1 => ⟨⟨1, false, 0⟩, [("a", ⟨[.shared], none⟩)]⟩
    | 2 => ⟨⟨1, false, 1⟩, [("a", ⟨[.shared], none⟩), ("b", ⟨[], some ⟨.exclusive, false⟩⟩)]⟩
    | 3 => ⟨⟨1, false, 1⟩, [("a", ⟨[.shared], none⟩), ("b", ⟨[], some ⟨.exclusive, false⟩⟩),
        ("c", ⟨[], some ⟨.shared, false⟩⟩)]⟩
    | 4 => ⟨⟨0, false, 1⟩, [("a", .idle), ("b", ⟨[], some ⟨.exclusive, true⟩⟩),
        ("c", ⟨[], some ⟨.shared, true⟩⟩)]⟩
    | 5 => ⟨⟨0, true, 0⟩, [("a", .idle), ("b", ⟨[.exclusive], none⟩),
        ("c", ⟨[], some ⟨.shared, true⟩⟩)]⟩
    | 6 => ⟨⟨0, false, 0⟩, [("a", .idle), ("b", .idle), ("c", ⟨[], some ⟨.shared, true⟩⟩)]⟩
    | _ => ⟨⟨1, false, 0⟩, [("a", .idle), ("b", .idle), ("c", ⟨[.shared], none⟩)]⟩
  actor
    | 0 | 3 => "a"
    | 1 | 4 | 5 => "b"
    | _ => "c"
  move
    | 0 | 2 => .request .shared
    | 1 => .request .exclusive
    | 3 | 5 => .leave
    | _ => .test
  state_zero := rfl
  may := by
    intro k hk
    interval_cases k
    · exact patient_request
    · exact patient_request
    · exact patient_request
    · exact patient_leave
    · exact patient_test
    · exact patient_leave
    · exact patient_test
  step := by
    intro k hk
    interval_cases k <;> rfl

/-- The second reader enters after the writer that asked before has entered and left. -/
theorem writer_precedes_handover :
    handover.Requests 1 "b" .exclusive ∧ handover.Enters 6 "c" .shared ∧
      ∃ j l, 1 ≤ j ∧ j < l ∧ l < 6 ∧ handover.Enters j "b" .exclusive ∧
        handover.Leaves l "b" .exclusive := by
  have hrequests : handover.Requests 1 "b" .exclusive := ⟨by decide, rfl, rfl⟩
  have henters : handover.Enters 6 "c" .shared := ⟨by decide, rfl⟩
  obtain ⟨-, hprecedes, -⟩ := handover.writer_precedes
  obtain ⟨j, l, hj, hjl, hl, -, hin, -, hout⟩ := hprecedes 1 6 "b" "c" hrequests (by decide) henters
  exact ⟨hrequests, henters, j, l, hj, hjl, hl, hin, hout⟩

end Run

end TrackedEntity.Contention
