import Mathlib.Algebra.BigOperators.Group.Finset.Piecewise
import TrackedEntity.Proofs.Lock.Steps

/-!
# What the lock excludes

`ReachableBy may` are the states that steps of any number of threads lead to from the free lock, in
whatever order, when `may` says which steps a thread may take; `Reachable` are those with no such
condition.  Threads may nest holds, may be woken without having been told, and may leave a block or
give a request up by a fault.

The three numbers of the lock are numbers of threads (`Counted`): of shared holds, of exclusive
holds, of requests for an exclusive one.  Each of the changes that steps are made of keeps them so:
arriving, being let in, being refused, giving up, leaving, and telling.  A hold begins only where
the lock admits it, and so a writer is alone (`Reachable.exclusion`).
-/

namespace TrackedEntity.Contention

variable {c c' : Contention} {name : String} {a : Access}

/-! ### Runs -/

/-- The states that steps lead to from the free lock, if threads take only steps that they may. -/
inductive ReachableBy (may : Contention → String → Move → Prop) : Contention → Prop
  | start : ReachableBy may start
  | step {c c' : Contention} (name : String) (m : Move) (h : ReachableBy may c)
      (hmay : may c name m) (hmove : c.move? name m = some c') : ReachableBy may c'

/-- The states that steps lead to from the free lock. -/
def Reachable (c : Contention) : Prop := ReachableBy (fun _ _ _ => True) c

theorem ReachableBy.reachable {may : Contention → String → Move → Prop} (h : ReachableBy may c) :
    c.Reachable := by
  induction h with
  | start => exact .start
  | step name m _ _ hmove ih => exact .step name m ih trivial hmove

/-! ### Counting holds and requests -/

/-- The number of holds that threads have, nested ones counted each. -/
def holds (c : Contention) (a : Access) : ℕ := c.total fun t => t.held.count a

/-- The number of threads that wait for access. -/
def awaiting (c : Contention) (a : Access) : ℕ := c.total fun t => if t.Awaits a then 1 else 0

theorem holds_setThread (c : Contention) (name : String) (t : Thread) (a : Access) :
    (c.setThread name t).holds a + (c.thread name).held.count a = c.holds a + t.held.count a :=
  total_setThread (f := fun t => t.held.count a) rfl

theorem awaiting_setThread (c : Contention) (name : String) (t : Thread) (a : Access) :
    (c.setThread name t).awaiting a + (if (c.thread name).Awaits a then 1 else 0) =
      c.awaiting a + if t.Awaits a then 1 else 0 :=
  total_setThread (f := fun t => if t.Awaits a then 1 else 0) rfl

theorem holds_tellAll (c : Contention) (a : Access) : c.tellAll.holds a = c.holds a :=
  total_tellAll fun _ => rfl

theorem awaiting_tellAll (c : Contention) (a : Access) : c.tellAll.awaiting a = c.awaiting a :=
  total_tellAll fun t => by simp only [Thread.awaits_tell]

/-- Whether the numbers of the lock are those of the threads, and a writer is alone. -/
structure Counted (c : Contention) : Prop where
  readers : c.lock.readers = c.holds .shared
  writing : c.holds .exclusive = c.lock.writing.toNat
  waiting : c.lock.waitingWriters = c.awaiting .exclusive
  apart : c.lock.writing = true → c.lock.readers = 0

namespace Counted

/-- A change of the lock and of one thread by which the numbers change alike. -/
theorem setThread (h : c.Counted) {l : Lock} {t : Thread}
    (hreaders : l.readers + ((c.thread name).held.count .shared : ℕ) =
      c.lock.readers + (t.held.count .shared : ℕ))
    (hwriting : l.writing.toNat + (c.thread name).held.count .exclusive =
      c.lock.writing.toNat + t.held.count .exclusive)
    (hwaiting : l.waitingWriters + (if (c.thread name).Awaits .exclusive then 1 else 0 : ℕ) =
      c.lock.waitingWriters + (if t.Awaits .exclusive then 1 else 0 : ℕ))
    (hapart : l.writing = true → l.readers = 0) :
    (({ c with lock := l } : Contention).setThread name t).Counted := by
  have hshared := holds_setThread { c with lock := l } name t .shared
  have hexclusive := holds_setThread { c with lock := l } name t .exclusive
  have hawaiting := awaiting_setThread { c with lock := l } name t .exclusive
  have hr := h.readers
  have hw := h.writing
  have hq := h.waiting
  simp only [show ({ c with lock := l } : Contention).thread name = c.thread name from rfl,
    show ∀ a, ({ c with lock := l } : Contention).holds a = c.holds a from fun _ => rfl,
    show ∀ a, ({ c with lock := l } : Contention).awaiting a = c.awaiting a from fun _ => rfl]
    at hshared hexclusive hawaiting
  refine ⟨?_, ?_, ?_, hapart⟩
  · show l.readers = _
    omega
  · show _ = l.writing.toNat
    omega
  · show l.waitingWriters = _
    omega

theorem tellAll (h : c.Counted) : c.tellAll.Counted := by
  refine ⟨?_, ?_, ?_, h.apart⟩
  · rw [holds_tellAll]
    exact h.readers
  · rw [holds_tellAll]
    exact h.writing
  · rw [awaiting_tellAll]
    exact h.waiting

theorem arrived (h : c.Counted) (hfree : (c.thread name).waiting = none) :
    (c.arrived name a).Counted := by
  cases a with
  | shared => exact h.setThread rfl rfl (by simp [Thread.Awaits, hfree, Lock.arrive]) h.apart
  | exclusive => exact h.setThread rfl rfl (by simp [Thread.Awaits, hfree, Lock.arrive]) h.apart

theorem refused (h : c.Counted) (hawaits : (c.thread name).Awaits a) :
    (c.refused name a).Counted := by
  have hsame : (if (c.thread name).Awaits .exclusive then 1 else 0 : ℕ) =
      if a = .exclusive then 1 else 0 := by
    unfold Thread.Awaits at hawaits ⊢
    simp [hawaits]
  exact h.setThread rfl rfl (by rw [hsame]; simp [Thread.Awaits]) h.apart

theorem granted (h : c.Counted) (hawaits : (c.thread name).Awaits a)
    (hadmits : c.lock.admits a = true) : (c.granted name a).Counted := by
  unfold Thread.Awaits at hawaits
  cases a with
  | shared =>
    simp only [Lock.admits, Bool.and_eq_true, Bool.not_eq_true'] at hadmits
    refine h.setThread ?_ ?_ ?_ ?_
    · simp [Lock.enter]
      omega
    · simp [Lock.enter]
    · simp [Lock.enter, Thread.Awaits, hawaits]
    · simp [Lock.enter, hadmits.1]
  | exclusive =>
    simp only [Lock.admits, Bool.and_eq_true, Bool.not_eq_true', beq_iff_eq] at hadmits
    refine h.setThread ?_ ?_ ?_ ?_
    · simp [Lock.enter, Lock.withdraw]
    · simp [Lock.enter, hadmits.1]
      omega
    · simp [Lock.enter, Lock.withdraw, Thread.Awaits, hawaits]
    · exact fun _ => hadmits.2

theorem withdrawn (h : c.Counted) (hawaits : (c.thread name).Awaits a) :
    (c.withdrawn name a).Counted := by
  unfold Thread.Awaits at hawaits
  cases a with
  | shared => exact h.setThread rfl rfl (by simp [Lock.withdraw, Thread.Awaits, hawaits]) h.apart
  | exclusive =>
    exact h.setThread rfl rfl (by simp [Lock.withdraw, Thread.Awaits, hawaits]) h.apart

theorem left (h : c.Counted) {held : List Access} (hheld : (c.thread name).held = a :: held) :
    (c.left name a).Counted := by
  -- the hold that ends is among those that are counted
  have hhold : 0 < c.holds a := by
    have hle : (c.thread name).held.count a ≤ c.holds a :=
      le_total (f := fun t => t.held.count a) rfl
    rw [hheld, List.count_cons_self] at hle
    omega
  have hreaders := h.readers
  have hwriting := h.writing
  cases a with
  | shared =>
    refine h.setThread ?_ ?_ ?_ ?_
    · simp [Lock.leave, hheld]
    · simp [Lock.leave, hheld]
    · simp [Lock.leave, Thread.Awaits]
    · intro hw
      have hnone : c.lock.readers = 0 := h.apart hw
      omega
  | exclusive =>
    have hw : c.lock.writing = true := by
      cases hw : c.lock.writing with
      | true => rfl
      | false =>
        rw [hw, Bool.toNat_false] at hwriting
        omega
    refine h.setThread ?_ ?_ ?_ ?_
    · simp [Lock.leave, hheld]
    · simp [Lock.leave, hheld, hw]
      omega
    · simp [Lock.leave, Thread.Awaits]
    · simp [Lock.leave]

/-- **Every step keeps the numbers of the lock what they are.** -/
theorem step (h : c.Counted) {m : Move} (hmove : c.move? name m = some c') : c'.Counted := by
  cases move?_eq_some_iff.1 hmove with
  | @enter a hfree hadmits =>
    refine (h.arrived hfree).granted ?_ hadmits
    rw [thread_arrived_self]
    rfl
  | @park a hfree hadmits =>
    refine (h.arrived hfree).refused ?_
    rw [thread_arrived_self]
    rfl
  | wake hwaits hadmits => exact h.granted (by rw [Thread.Awaits, hwaits]; rfl) hadmits
  | stay hwaits hadmits => exact h.refused (by rw [Thread.Awaits, hwaits]; rfl)
  | withdraw hwaits => exact h.withdrawn (by rw [Thread.Awaits, hwaits]; rfl)
  | leaveTelling hfree hheld htells => exact (h.left hheld).tellAll
  | leave hfree hheld htells => exact h.left hheld

end Counted

theorem Reachable.counted (h : c.Reachable) : c.Counted := by
  induction h with
  | start => exact ⟨rfl, rfl, rfl, fun _ => rfl⟩
  | step name m _ _ hmove ih => exact ih.step hmove

/-! ### Exclusion -/

theorem holds_pos_of_mem (h : a ∈ (c.thread name).held) : 0 < c.holds a := by
  have hle : (c.thread name).held.count a ≤ c.holds a :=
    le_total (f := fun t => t.held.count a) rfl
  have hpos := List.count_pos_iff.2 h
  omega

theorem exists_mem_of_holds_pos (h : 0 < c.holds a) : ∃ name, a ∈ (c.thread name).held := by
  obtain ⟨name, hname⟩ := exists_of_total_pos h
  exact ⟨name, List.count_pos_iff.1 hname⟩

theorem awaiting_pos_of_awaits (h : (c.thread name).Awaits a) : 0 < c.awaiting a := by
  have hle : (if (c.thread name).Awaits a then 1 else 0) ≤ c.awaiting a :=
    le_total (f := fun t => if t.Awaits a then 1 else 0) rfl
  rwa [if_pos h] at hle

theorem exists_awaits_of_awaiting_pos (h : 0 < c.awaiting a) :
    ∃ name, (c.thread name).Awaits a := by
  obtain ⟨name, hname⟩ := exists_of_total_pos h
  refine ⟨name, ?_⟩
  by_contra hnot
  rw [if_neg hnot] at hname
  omega

namespace Counted

theorem holds_exclusive_le_one (h : c.Counted) : c.holds .exclusive ≤ 1 := by
  rw [h.writing]
  exact Bool.toNat_le _

theorem writer_unique (h : c.Counted) {other : String}
    (hname : .exclusive ∈ (c.thread name).held) (hother : .exclusive ∈ (c.thread other).held) :
    name = other := by
  by_contra hne
  have hle : (c.thread name).held.count .exclusive + (c.thread other).held.count .exclusive ≤
      c.holds .exclusive :=
    add_le_total (f := fun t => t.held.count .exclusive) rfl fun heq => hne heq.symm
  have hone := h.holds_exclusive_le_one
  have hpos := List.count_pos_iff.2 hname
  have hpos' := List.count_pos_iff.2 hother
  omega

theorem writing_iff (h : c.Counted) :
    c.lock.writing = true ↔ ∃ name, .exclusive ∈ (c.thread name).held := by
  have hwriting := h.writing
  constructor
  · intro hw
    rw [hw, Bool.toNat_true] at hwriting
    exact exists_mem_of_holds_pos (by omega)
  · rintro ⟨name, hname⟩
    have hpos := holds_pos_of_mem hname
    cases hw : c.lock.writing with
    | true => rfl
    | false =>
      rw [hw, Bool.toNat_false] at hwriting
      omega

theorem not_exclusive_of_shared (h : c.Counted) {writer : String}
    (hreader : .shared ∈ (c.thread name).held) : .exclusive ∉ (c.thread writer).held := by
  intro hwriter
  have hnone := h.apart (h.writing_iff.2 ⟨writer, hwriter⟩)
  have hreaders := h.readers
  have hpos := holds_pos_of_mem hreader
  omega

end Counted

/-- **The lock excludes what it should.**  Whatever the threads do and in whatever order they take
their steps,

* the number of readers is that of the shared holds, nested ones counted each;
* the flag is up exactly when one thread has an exclusive hold;
* nobody has a shared hold while anybody has an exclusive one, and nobody has a second exclusive
  one;
* the number of waiting writers is that of the threads that asked for an exclusive hold and were
  not let in yet.

The sums are over all threads that have shown up; the others have nothing to do with the lock. -/
theorem Reachable.exclusion (h : c.Reachable) :
    c.lock.readers = ((∑ name ∈ c.names, (c.thread name).held.count .shared : ℕ) : ℤ) ∧
      0 ≤ c.lock.readers ∧
      (c.lock.writing = true ↔ ∃! name, .exclusive ∈ (c.thread name).held) ∧
      (∀ reader writer, .shared ∈ (c.thread reader).held → .exclusive ∉ (c.thread writer).held) ∧
      (∀ name other, .exclusive ∈ (c.thread name).held → .exclusive ∈ (c.thread other).held →
        name = other) ∧
      (∀ name, (c.thread name).held.count .exclusive ≤ 1) ∧
      c.lock.waitingWriters =
        ((c.names.filter fun name => (c.thread name).Awaits .exclusive).card : ℤ) ∧
      ∀ name, name ∉ c.names → c.thread name = .idle := by
  have hc := h.counted
  refine ⟨hc.readers, ?_, ?_, fun _ _ => hc.not_exclusive_of_shared,
    fun _ _ => hc.writer_unique, fun name => ?_, ?_, fun _ => thread_eq_idle⟩
  · rw [hc.readers]
    exact Int.natCast_nonneg _
  · constructor
    · intro hw
      obtain ⟨name, hname⟩ := hc.writing_iff.1 hw
      exact ⟨name, hname, fun other hother => hc.writer_unique hother hname⟩
    · rintro ⟨name, hname, -⟩
      exact hc.writing_iff.2 ⟨name, hname⟩
  · have hle : (c.thread name).held.count .exclusive ≤ c.holds .exclusive :=
      le_total (f := fun t => t.held.count .exclusive) rfl
    exact Nat.le_trans hle hc.holds_exclusive_le_one
  · rw [hc.waiting, Finset.card_filter]
    rfl

/-- Two nested shared holds of one thread, and another thread that waits for an exclusive one. -/
theorem Reachable.exclusion_nested :
    ∃ c : Contention, c.Reachable ∧ c.lock = ⟨2, false, 1⟩ ∧
      (∑ name ∈ c.names, (c.thread name).held.count .shared) = 2 ∧
      (c.names.filter fun name => (c.thread name).Awaits .exclusive).card = 1 ∧
      ¬ ∃! name, .exclusive ∈ (c.thread name).held := by
  have hread : Reachable ⟨⟨1, false, 0⟩, [("a", ⟨[.shared], none⟩)]⟩ :=
    .step "a" (.request .shared) .start trivial rfl
  have hnested : Reachable ⟨⟨2, false, 0⟩, [("a", ⟨[.shared, .shared], none⟩)]⟩ :=
    .step "a" (.request .shared) hread trivial rfl
  have hwaits : Reachable ⟨⟨2, false, 1⟩, [("a", ⟨[.shared, .shared], none⟩),
      ("b", ⟨[], some ⟨.exclusive, false⟩⟩)]⟩ :=
    .step "b" (.request .exclusive) hnested trivial rfl
  obtain ⟨hreaders, -, hwriting, -, -, -, hwaiting, -⟩ := hwaits.exclusion
  refine ⟨_, hwaits, rfl, ?_, ?_, ?_⟩
  · exact (Int.natCast_inj.1 hreaders).symm
  · exact (Int.natCast_inj.1 hwaiting).symm
  · exact fun hunique => Bool.false_ne_true (hwriting.2 hunique)

end TrackedEntity.Contention
