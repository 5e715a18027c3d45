import Mathlib.Algebra.Order.BigOperators.Group.Finset
import Mathlib.Data.Finset.Card
import TrackedEntity.Lock.Contention
import TrackedEntity.Proofs.Table

/-!
# The steps of contending threads

What one step does to the lock and to the threads.  A thread that tests is either granted its
request or goes on waiting (`testFor_of_admits`, `testFor_of_not_admits`); a request is an arrival
followed by a test (`arrived_testFor`); leaving is followed by telling those who wait, or not.
`move?_eq_some_iff` says that a step is one of these, and everything about runs is derived from it.

What threads have in common is counted over the finitely many that have shown up (`names`): writing
one thread's state changes a sum by what it had before and has now (`total_setThread`), and telling
changes no sum that does not look at who was told (`total_tellAll`).
-/

namespace TrackedEntity

namespace Thread

/-- Whether a thread has asked for access and was not let in yet. -/
def Awaits (t : Thread) (a : Access) : Prop := t.waiting.map Waiting.access = some a

instance (t : Thread) (a : Access) : Decidable (t.Awaits a) :=
  inferInstanceAs (Decidable (_ = _))

theorem awaits_tell {t : Thread} {a : Access} : t.tell.Awaits a ↔ t.Awaits a := by
  unfold Awaits tell
  rw [Option.map_map]
  rfl

theorem waiting_tell {t : Thread} {a : Access} {told : Bool} :
    t.tell.waiting = some ⟨a, told⟩ ↔ told = true ∧ t.Awaits a := by
  unfold tell Awaits
  cases t.waiting with
  | none => simp
  | some w => simp [and_comm, eq_comm]

end Thread

namespace Contention

variable {c c' : Contention} {name other : String} {t : Thread}

/-! ### Threads -/

theorem thread_setThread_self : (c.setThread name t).thread name = t := by
  rw [thread, setThread, Table.get?_put_self, Option.getD_some]

theorem thread_setThread_of_ne (h : other ≠ name) :
    (c.setThread name t).thread other = c.thread other := by
  rw [thread, setThread, Table.get?_put_of_ne h, ← thread]

theorem thread_tellAll : c.tellAll.thread name = (c.thread name).tell := by
  rw [thread, tellAll, Table.get?_map_values Thread.tell, thread]
  cases c.threads.get? name with
  | none => rfl
  | some t => rfl

/-- Of two states written for a thread the second one counts. -/
theorem setThread_setThread (t' : Thread) :
    (c.setThread name t).setThread name t' = c.setThread name t' := by
  rw [setThread, setThread, setThread, Table.put_put]

/-- The threads that have shown up. -/
def names (c : Contention) : Finset String := c.threads.keys.toFinset

/-- What all threads come to together. -/
def total (c : Contention) (f : Thread → ℕ) : ℕ := ∑ name ∈ c.names, f (c.thread name)

/-- A thread that has not shown up has nothing to do with the lock. -/
theorem thread_eq_idle (h : name ∉ c.names) : c.thread name = .idle := by
  rw [names, List.mem_toFinset, ← Table.get?_eq_none_iff] at h
  rw [thread, h, Option.getD_none]

theorem names_setThread : (c.setThread name t).names = insert name c.names := by
  ext other
  rw [names, List.mem_toFinset, setThread, Table.mem_keys_put, Finset.mem_insert, names,
    List.mem_toFinset]

theorem names_tellAll : c.tellAll.names = c.names := by
  rw [names, names, tellAll, Table.keys, Table.keys, List.map_map]
  rfl

theorem total_setThread {f : Thread → ℕ} (hf : f .idle = 0) :
    (c.setThread name t).total f + f (c.thread name) = c.total f + f t := by
  -- the thread apart from the others, for whom nothing changes
  have hothers : ∑ other ∈ c.names.erase name, f ((c.setThread name t).thread other) =
      ∑ other ∈ c.names.erase name, f (c.thread other) :=
    Finset.sum_congr rfl fun other h => by rw [thread_setThread_of_ne (Finset.ne_of_mem_erase h)]
  have hnew : (c.setThread name t).total f =
      f t + ∑ other ∈ c.names.erase name, f (c.thread other) := by
    rw [total, names_setThread, ← Finset.add_sum_erase _ _ (Finset.mem_insert_self name c.names),
      Finset.erase_insert_eq_erase, hothers, thread_setThread_self]
  have hold : c.total f = f (c.thread name) + ∑ other ∈ c.names.erase name, f (c.thread other) := by
    by_cases h : name ∈ c.names
    · rw [total, Finset.add_sum_erase _ (fun name => f (c.thread name)) h]
    · rw [total, Finset.erase_eq_of_notMem h, thread_eq_idle h, hf, Nat.zero_add]
  omega

theorem total_tellAll {f : Thread → ℕ} (hf : ∀ t : Thread, f t.tell = f t) :
    c.tellAll.total f = c.total f := by
  rw [total, total, names_tellAll]
  exact Finset.sum_congr rfl fun name _ => by rw [thread_tellAll, hf]

/-- A sum is at least what any single thread has. -/
theorem le_total {f : Thread → ℕ} (hf : f .idle = 0) : f (c.thread name) ≤ c.total f := by
  by_cases h : name ∈ c.names
  · exact Finset.single_le_sum (f := fun name => f (c.thread name)) (fun _ _ => Nat.zero_le _) h
  · rw [thread_eq_idle h, hf]
    exact Nat.zero_le _

/-- A sum is at least what two threads have together. -/
theorem add_le_total {f : Thread → ℕ} (hf : f .idle = 0) (h : other ≠ name) :
    f (c.thread name) + f (c.thread other) ≤ c.total f := by
  -- the sum without the first thread still counts the second one
  have hwithout : (c.setThread name .idle).total f + f (c.thread name) = c.total f + f .idle :=
    total_setThread hf
  have hle : f ((c.setThread name .idle).thread other) ≤ (c.setThread name .idle).total f :=
    le_total hf
  rw [thread_setThread_of_ne h] at hle
  omega

/-- If no thread has anything, neither have all together. -/
theorem total_eq_zero {f : Thread → ℕ} (h : ∀ name, f (c.thread name) = 0) : c.total f = 0 :=
  Finset.sum_eq_zero fun name _ => h name

/-- If all together have something, some thread has. -/
theorem exists_of_total_pos {f : Thread → ℕ} (h : 0 < c.total f) :
    ∃ name, 0 < f (c.thread name) := by
  by_contra hnone
  push Not at hnone
  have hzero := total_eq_zero (c := c) fun name => Nat.le_zero.1 (hnone name)
  omega

/-! ### Single steps -/

/-- The state after a thread was let in. -/
def granted (c : Contention) (name : String) (a : Access) : Contention :=
  { c with lock := c.lock.enter a }.setThread name ⟨a :: (c.thread name).held, none⟩

/-- The state after a thread tested in vain. -/
def refused (c : Contention) (name : String) (a : Access) : Contention :=
  c.setThread name { c.thread name with waiting := some ⟨a, false⟩ }

/-- The state after a thread has asked for access, before its first test. -/
def arrived (c : Contention) (name : String) (a : Access) : Contention :=
  { c with lock := c.lock.arrive a }.setThread name
    { c.thread name with waiting := some ⟨a, false⟩ }

/-- The state after a request was given up. -/
def withdrawn (c : Contention) (name : String) (a : Access) : Contention :=
  { c with lock := c.lock.withdraw a }.setThread name { c.thread name with waiting := none }

/-- The state after a hold has ended, before anybody was told. -/
def left (c : Contention) (name : String) (a : Access) : Contention :=
  { c with lock := c.lock.leave a }.setThread name
    { c.thread name with held := (c.thread name).held.tail }

section

variable {a : Access}

theorem thread_granted_self :
    (c.granted name a).thread name = ⟨a :: (c.thread name).held, none⟩ := thread_setThread_self

theorem thread_refused_self :
    (c.refused name a).thread name = { c.thread name with waiting := some ⟨a, false⟩ } :=
  thread_setThread_self

theorem thread_arrived_self :
    (c.arrived name a).thread name = { c.thread name with waiting := some ⟨a, false⟩ } :=
  thread_setThread_self

theorem thread_withdrawn_self :
    (c.withdrawn name a).thread name = { c.thread name with waiting := none } :=
  thread_setThread_self

theorem thread_left_self :
    (c.left name a).thread name =
      { c.thread name with held := (c.thread name).held.tail } := thread_setThread_self

variable (h : other ≠ name)
include h

theorem thread_granted_of_ne : (c.granted name a).thread other = c.thread other :=
  thread_setThread_of_ne h

theorem thread_refused_of_ne : (c.refused name a).thread other = c.thread other :=
  thread_setThread_of_ne h

theorem thread_arrived_of_ne : (c.arrived name a).thread other = c.thread other :=
  thread_setThread_of_ne h

theorem thread_withdrawn_of_ne : (c.withdrawn name a).thread other = c.thread other :=
  thread_setThread_of_ne h

theorem thread_left_of_ne : (c.left name a).thread other = c.thread other :=
  thread_setThread_of_ne h

end

/-- One step of one thread: what it may find, and what it brings about. -/
inductive Effect (c : Contention) (name : String) : Move → Contention → Prop
  /-- A request that is granted at its first test. -/
  | enter {a : Access} (hfree : (c.thread name).waiting = none)
      (hadmits : (c.lock.arrive a).admits a = true) :
      Effect c name (.request a) ((c.arrived name a).granted name a)
  /-- A request that has to wait. -/
  | park {a : Access} (hfree : (c.thread name).waiting = none)
      (hadmits : (c.lock.arrive a).admits a = false) :
      Effect c name (.request a) ((c.arrived name a).refused name a)
  /-- A test by a thread that waits, told or not, and that is let in. -/
  | wake {w : Waiting} (hwaits : (c.thread name).waiting = some w)
      (hadmits : c.lock.admits w.access = true) :
      Effect c name .test (c.granted name w.access)
  /-- A test by a thread that waits, told or not, and that is not let in. -/
  | stay {w : Waiting} (hwaits : (c.thread name).waiting = some w)
      (hadmits : c.lock.admits w.access = false) :
      Effect c name .test (c.refused name w.access)
  /-- The end of a request that is given up. -/
  | withdraw {w : Waiting} (hwaits : (c.thread name).waiting = some w) :
      Effect c name .withdraw (c.withdrawn name w.access)
  /-- The end of a hold that concerns those who wait. -/
  | leaveTelling {a : Access} {held : List Access} (hfree : (c.thread name).waiting = none)
      (hheld : (c.thread name).held = a :: held) (htells : (c.lock.leave a).tells a = true) :
      Effect c name .leave (c.left name a).tellAll
  /-- The end of a hold that concerns nobody. -/
  | leave {a : Access} {held : List Access} (hfree : (c.thread name).waiting = none)
      (hheld : (c.thread name).held = a :: held) (htells : (c.lock.leave a).tells a = false) :
      Effect c name .leave (c.left name a)

theorem testFor_eq (a : Access) : c.testFor name (c.thread name) a =
    if c.lock.admits a then c.granted name a else c.refused name a := rfl

/-- A request is an arrival and a first test. -/
theorem arrived_testFor (a : Access) :
    ({ c with lock := c.lock.arrive a } : Contention).testFor name (c.thread name) a =
      if (c.lock.arrive a).admits a then (c.arrived name a).granted name a
      else (c.arrived name a).refused name a := by
  unfold testFor granted refused
  have harrived : (c.arrived name a).thread name =
      { c.thread name with waiting := some ⟨a, false⟩ } := thread_setThread_self
  rw [harrived]
  split
  · exact (setThread_setThread (c := ⟨(c.lock.arrive a).enter a, c.threads⟩) _).symm
  · exact (setThread_setThread (c := ⟨c.lock.arrive a, c.threads⟩) _).symm

/-- **What a step is.** -/
theorem move?_eq_some_iff {m : Move} : c.move? name m = some c' ↔ Effect c name m c' := by
  constructor
  · intro h
    unfold move? at h
    cases m with
    | request a =>
      cases hw : (c.thread name).waiting with
      | some w => simp [hw] at h
      | none =>
        simp only [hw, Option.some.injEq] at h
        rw [arrived_testFor] at h
        cases hadmits : (c.lock.arrive a).admits a with
        | true =>
          rw [hadmits, if_pos rfl] at h
          exact h ▸ .enter hw hadmits
        | false =>
          rw [hadmits, if_neg Bool.false_ne_true] at h
          exact h ▸ .park hw hadmits
    | test =>
      cases hw : (c.thread name).waiting with
      | none => simp [hw] at h
      | some w =>
        simp only [hw, Option.some.injEq] at h
        rw [testFor_eq] at h
        cases hadmits : c.lock.admits w.access with
        | true =>
          rw [hadmits, if_pos rfl] at h
          exact h ▸ .wake hw hadmits
        | false =>
          rw [hadmits, if_neg Bool.false_ne_true] at h
          exact h ▸ .stay hw hadmits
    | withdraw =>
      cases hw : (c.thread name).waiting with
      | none => simp [hw] at h
      | some w =>
        simp only [hw, Option.some.injEq] at h
        exact h ▸ .withdraw hw
    | leave =>
      cases hw : (c.thread name).waiting with
      | some w => simp [hw] at h
      | none =>
        cases hheld : (c.thread name).held with
        | nil => simp [hw, hheld] at h
        | cons a held =>
          simp only [hw, hheld, Option.some.injEq] at h
          have hleft : ({ c with lock := c.lock.leave a } : Contention).setThread name
              ⟨held, none⟩ = c.left name a := by simp [left, hheld, hw]
          rw [hleft] at h
          cases htells : (c.lock.leave a).tells a with
          | true =>
            rw [htells, if_pos rfl] at h
            exact h ▸ .leaveTelling hw hheld htells
          | false =>
            rw [htells, if_neg Bool.false_ne_true] at h
            exact h ▸ .leave hw hheld htells
  · intro h
    unfold move?
    cases h with
    | enter hfree hadmits => simp only [hfree, arrived_testFor, hadmits, if_pos]
    | park hfree hadmits =>
      simp only [hfree, arrived_testFor, hadmits, Bool.false_eq_true, if_false]
    | wake hwaits hadmits => simp only [hwaits, testFor_eq, hadmits, if_pos]
    | stay hwaits hadmits =>
      simp only [hwaits, testFor_eq, hadmits, Bool.false_eq_true, if_false]
    | withdraw hwaits => simp only [hwaits, withdrawn]
    | leaveTelling hfree hheld htells =>
      simp only [hfree, hheld, htells, if_pos, left, List.tail_cons]
    | leave hfree hheld htells =>
      simp only [hfree, hheld, htells, Bool.false_eq_true, if_false, left, List.tail_cons]

/-! ### Threads after a step -/

/-- The other threads hold and await what they did. -/
theorem thread_of_ne {m : Move} (h : c.move? name m = some c') (hne : other ≠ name) :
    (c'.thread other).held = (c.thread other).held ∧
      ∀ a, (c'.thread other).Awaits a ↔ (c.thread other).Awaits a := by
  cases move?_eq_some_iff.1 h with
  | enter =>
    rw [thread_granted_of_ne hne, thread_arrived_of_ne hne]
    exact ⟨rfl, fun _ => Iff.rfl⟩
  | park =>
    rw [thread_refused_of_ne hne, thread_arrived_of_ne hne]
    exact ⟨rfl, fun _ => Iff.rfl⟩
  | wake =>
    rw [thread_granted_of_ne hne]
    exact ⟨rfl, fun _ => Iff.rfl⟩
  | stay =>
    rw [thread_refused_of_ne hne]
    exact ⟨rfl, fun _ => Iff.rfl⟩
  | withdraw =>
    rw [thread_withdrawn_of_ne hne]
    exact ⟨rfl, fun _ => Iff.rfl⟩
  | leaveTelling =>
    rw [thread_tellAll, thread_left_of_ne hne]
    exact ⟨rfl, fun _ => Thread.awaits_tell⟩
  | leave =>
    rw [thread_left_of_ne hne]
    exact ⟨rfl, fun _ => Iff.rfl⟩

/-- A thread that asks is let in or waits. -/
theorem thread_of_request {a : Access} (h : c.move? name (.request a) = some c') :
    (c.thread name).waiting = none ∧
      (c'.thread name = ⟨a :: (c.thread name).held, none⟩ ∨
        c'.thread name = ⟨(c.thread name).held, some ⟨a, false⟩⟩) := by
  cases move?_eq_some_iff.1 h with
  | enter hfree =>
    refine ⟨hfree, Or.inl ?_⟩
    rw [thread_granted_self, thread_arrived_self]
  | park hfree =>
    refine ⟨hfree, Or.inr ?_⟩
    rw [thread_refused_self, thread_arrived_self]

/-- A thread that tests is let in or waits again. -/
theorem thread_of_test (h : c.move? name .test = some c') :
    ∃ a, (c.thread name).Awaits a ∧
      (c'.thread name = ⟨a :: (c.thread name).held, none⟩ ∨
        c'.thread name = ⟨(c.thread name).held, some ⟨a, false⟩⟩) := by
  cases move?_eq_some_iff.1 h with
  | @wake w hwaits =>
    exact ⟨w.access, by rw [Thread.Awaits, hwaits]; rfl, Or.inl thread_granted_self⟩
  | @stay w hwaits =>
    exact ⟨w.access, by rw [Thread.Awaits, hwaits]; rfl, Or.inr thread_refused_self⟩

/-- A thread that leaves loses its innermost hold. -/
theorem thread_of_leave (h : c.move? name .leave = some c') :
    (c.thread name).waiting = none ∧ (c'.thread name).waiting = none ∧
      (c'.thread name).held = (c.thread name).held.tail := by
  cases move?_eq_some_iff.1 h with
  | leaveTelling hfree =>
    rw [thread_tellAll, thread_left_self, Thread.tell, hfree]
    exact ⟨rfl, rfl, rfl⟩
  | leave hfree =>
    rw [thread_left_self]
    exact ⟨hfree, hfree, rfl⟩

/-- A thread that gives up had a request, and has it no longer. -/
theorem eq_withdrawn {a : Access} (h : c.move? name .withdraw = some c')
    (hawaits : (c.thread name).Awaits a) : c' = c.withdrawn name a := by
  cases move?_eq_some_iff.1 h with
  | @withdraw w hwaits =>
    rw [Thread.Awaits, hwaits, Option.map_some, Option.some.injEq] at hawaits
    rw [hawaits]

/-- Whoever holds and does not wait can leave. -/
theorem exists_leave {a : Access} {held : List Access} (hfree : (c.thread name).waiting = none)
    (hheld : (c.thread name).held = a :: held) : ∃ c', c.move? name .leave = some c' := by
  cases htells : (c.lock.leave a).tells a with
  | true => exact ⟨_, move?_eq_some_iff.2 (.leaveTelling hfree hheld htells)⟩
  | false => exact ⟨_, move?_eq_some_iff.2 (.leave hfree hheld htells)⟩

end Contention

end TrackedEntity
