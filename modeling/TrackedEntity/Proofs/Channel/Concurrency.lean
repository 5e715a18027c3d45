import Mathlib.Data.Int.Notation
import Mathlib.Logic.Function.Basic
import TrackedEntity.Proofs.Channel.Edits

/-!
# Concurrent changes

A `World` is a channel with any number of threads.  Each thread makes changes, one at a time and
through a writer of its own, and at any time one thread takes one step: it starts a change, its
writer advances, or it returns.  The clock counts the steps; the times at which changes start and
return are kept, and nobody looks at them.

A snapshot that a thread holds may be no longer current, and then current again: there is only one
empty snapshot.  What saves the exchange is that a serial number tells the handlers
(`World.Consistent`): when the snapshot held has the serial number of the current one, it has its
handlers too.
-/

namespace TrackedEntity

variable {ι : Type u} {α : Type v}

/-! ### Worlds -/

/-- A change by a thread that started at a time. -/
structure Operation (ι : Type u) (α : Type v) where
  thread : ι
  edit : Edit α
  start : ℕ

/-- A change under way. -/
structure Running (α : Type v) where
  edit : Edit α
  start : ℕ
  writer : Writer α

/-- A channel with threads that change it. -/
structure World (ι : Type u) (α : Type v) where
  channel : Channel α
  /-- What each thread is at. -/
  running : ι → Option (Running α)
  /-- The number of steps so far. -/
  clock : ℕ
  /-- The changes that have returned, with the times when they did. -/
  returned : List (Operation ι α × ℕ)

namespace World

/-- A channel without handlers, and threads that are at nothing. -/
def init : World ι α := ⟨.empty, fun _ => none, 0, []⟩

variable [DecidableEq ι]

/-- The world after a step that leaves a thread at something. -/
def leaveAt (w : World ι α) (c : Channel α) (i : ι) (r : Running α) : World ι α :=
  { w with channel := c, running := Function.update w.running i (some r), clock := w.clock + 1 }

/-- The world after a step in which a thread returns from a change. -/
def leave (w : World ι α) (i : ι) (r : Running α) : World ι α :=
  { w with
    running := Function.update w.running i none
    clock := w.clock + 1
    returned := w.returned ++ [(⟨i, r.edit, r.start⟩, w.clock)] }

/-- One step of one thread. -/
inductive Step : World ι α → World ι α → Prop
  /-- A thread that is at nothing starts a change. -/
  | start {w : World ι α} {i : ι} (h : w.running i = none) (e : Edit α) :
      Step w (w.leaveAt w.channel i ⟨e, w.clock, .reading⟩)
  /-- The writer of a thread advances. -/
  | advance {w : World ι α} {i : ι} {r : Running α} (h : w.running i = some r)
      (hr : ∀ published, r.writer ≠ .finished published) :
      Step w (w.leaveAt (r.writer.advance r.edit w.channel).2 i
        { r with writer := (r.writer.advance r.edit w.channel).1 })
  /-- A thread whose writer is done returns. -/
  | finish {w : World ι α} {i : ι} {r : Running α} {published : Bool} (h : w.running i = some r)
      (hr : r.writer = .finished published) : Step w (w.leave i r)

/-- The worlds that steps of threads lead to, in whatever order. -/
inductive Reachable : World ι α → Prop
  | init : Reachable init
  | step {w w' : World ι α} (h : Reachable w) (hs : Step w w') : Reachable w'

theorem running_leaveAt {w : World ι α} {c : Channel α} {i j : ι} {r s : Running α} :
    (w.leaveAt c i r).running j = some s ↔ j = i ∧ s = r ∨ j ≠ i ∧ w.running j = some s := by
  by_cases hj : j = i
  · subst hj
    simp [leaveAt, eq_comm]
  · simp [leaveAt, hj]

theorem running_leave {w : World ι α} {i j : ι} {r s : Running α} :
    (w.leave i r).running j = some s ↔ j ≠ i ∧ w.running j = some s := by
  by_cases hj : j = i
  · subst hj
    simp [leave]
  · simp [leave, hj]

end World

/-! ### Serial numbers -/

/-- The snapshot that a writer holds. -/
def Writer.held? : Writer α → Option (Snapshot α)
  | .holding held | .prepared held _ => some held
  | .reading | .finished _ => none

/-- Whether a snapshot has the handlers that its serial number tells, and an old number. -/
structure Snapshot.Genuine (tells : ℕ → List α) (c : Channel α) (s : Snapshot α) : Prop where
  lt : s.serial < c.nextSerial
  handlers_eq : s.handlers = tells s.serial

/-- Nothing is published by preparing it. -/
theorem Channel.current_prepare {c : Channel α} {handlers : List α} :
    (c.prepare handlers).2.current = c.current := by
  unfold Channel.prepare
  split
  · rfl
  · rfl

/-- A candidate has a number that tells its handlers, and so has every snapshot that was there. -/
theorem Channel.genuine_prepare {tells : ℕ → List α} {c : Channel α} (hzero : tells 0 = [])
    (hpos : 0 < c.nextSerial) (handlers : List α) :
    ∃ tells' : ℕ → List α, tells' 0 = [] ∧
      (c.prepare handlers).1.Genuine tells' (c.prepare handlers).2 ∧
      (c.prepare handlers).1.handlers = handlers ∧
      ∀ s : Snapshot α, s.Genuine tells c → s.Genuine tells' (c.prepare handlers).2 := by
  unfold Channel.prepare
  cases handlers with
  | nil => exact ⟨tells, hzero, ⟨hpos, hzero.symm⟩, rfl, fun s hs => hs⟩
  | cons h hs =>
    have hne : (0 : ℕ) ≠ c.nextSerial := by omega
    refine ⟨Function.update tells c.nextSerial (h :: hs), ?_, ⟨?_, ?_⟩, rfl, ?_⟩
    · rw [Function.update_of_ne hne, hzero]
    · exact Nat.lt_succ_self _
    · show h :: hs = Function.update tells c.nextSerial (h :: hs) c.nextSerial
      rw [Function.update_self]
    · intro s hs'
      refine ⟨Nat.lt_succ_of_lt hs'.lt, ?_⟩
      rw [Function.update_of_ne (Nat.ne_of_lt hs'.lt), hs'.handlers_eq]

namespace World

/-- Whether serial numbers tell the handlers of all snapshots that are current, held or prepared,
and whether candidates are what they should be. -/
structure Consistent (w : World ι α) (tells : ℕ → List α) : Prop where
  zero : tells 0 = []
  current : w.channel.current.Genuine tells w.channel
  held : ∀ {i : ι} {r : Running α} {s : Snapshot α}, w.running i = some r →
    r.writer.held? = some s → s.Genuine tells w.channel
  candidate : ∀ {i : ι} {r : Running α} {s s' : Snapshot α}, w.running i = some r →
    r.writer = .prepared s s' →
    s'.Genuine tells w.channel ∧ r.edit.change? s.handlers = some s'.handlers

variable [DecidableEq ι] {w w' : World ι α}

/-- A thread that is left with what is genuine keeps the world consistent. -/
theorem Consistent.leaveAt {tells tells' : ℕ → List α} (h : w.Consistent tells)
    (hzero : tells' 0 = []) {c : Channel α}
    (hkeeps : ∀ s : Snapshot α, s.Genuine tells w.channel → s.Genuine tells' c)
    (hcurrent : c.current.Genuine tells' c) {i : ι} {r : Running α}
    (hheld : ∀ s, r.writer.held? = some s → s.Genuine tells' c)
    (hcandidate : ∀ s s', r.writer = .prepared s s' →
      s'.Genuine tells' c ∧ r.edit.change? s.handlers = some s'.handlers) :
    (w.leaveAt c i r).Consistent tells' := by
  refine ⟨hzero, hcurrent, ?_, ?_⟩
  · intro j r' s hj hs
    rcases running_leaveAt.1 hj with ⟨-, rfl⟩ | ⟨-, hj⟩
    · exact hheld s hs
    · exact hkeeps s (h.held hj hs)
  · intro j r' s s' hj hs
    rcases running_leaveAt.1 hj with ⟨-, rfl⟩ | ⟨-, hj⟩
    · exact hcandidate s s' hs
    · exact ⟨hkeeps s' (h.candidate hj hs).1, (h.candidate hj hs).2⟩

/-- **Every step keeps the world consistent.** -/
theorem Consistent.step {tells : ℕ → List α} (h : w.Consistent tells) (hs : Step w w') :
    ∃ tells', w'.Consistent tells' := by
  cases hs with
  | start hi e =>
    exact ⟨tells, h.leaveAt h.zero (fun s hs => hs) h.current nofun nofun⟩
  | @advance i r hi hr =>
    cases hw : r.writer with
    | reading =>
      refine ⟨tells, h.leaveAt h.zero (fun s hs => hs) h.current ?_ nofun⟩
      rintro s ⟨⟩
      exact h.current
    | holding held =>
      simp only [Writer.advance]
      cases hchange : r.edit.change? held.handlers with
      | none => exact ⟨tells, h.leaveAt h.zero (fun s hs => hs) h.current nofun nofun⟩
      | some handlers =>
        have hpos : 0 < w.channel.nextSerial := Nat.zero_lt_of_lt h.current.lt
        obtain ⟨tells', hzero, hgenuine, hhandlers, hkeeps⟩ :=
          Channel.genuine_prepare h.zero hpos handlers
        refine ⟨tells', h.leaveAt hzero hkeeps ?_ ?_ ?_⟩
        · rw [Channel.current_prepare]
          exact hkeeps _ h.current
        · rintro s ⟨⟩
          exact hkeeps _ (h.held hi (by rw [hw]; rfl))
        · rintro s s' ⟨⟩
          exact ⟨hgenuine, by rw [hhandlers, hchange]⟩
    | prepared held candidate =>
      obtain ⟨hcandidate, -⟩ := h.candidate hi hw
      by_cases hserial : w.channel.current.serial = held.serial
      · -- no number is given out, so all numbers tell what they told
        simp only [Writer.advance, Channel.exchange, if_pos hserial]
        have hkeeps : ∀ s : Snapshot α, s.Genuine tells w.channel →
            s.Genuine tells { w.channel with current := candidate } :=
          fun s hs => ⟨hs.lt, hs.handlers_eq⟩
        exact ⟨tells, h.leaveAt h.zero hkeeps (hkeeps candidate hcandidate) nofun nofun⟩
      · simp only [Writer.advance, Channel.exchange, if_neg hserial]
        refine ⟨tells, h.leaveAt h.zero (fun s hs => hs) h.current ?_ nofun⟩
        rintro s ⟨⟩
        exact h.current
    | finished published => exact absurd hw (hr published)
  | finish hi hr =>
    refine ⟨tells, h.zero, h.current, ?_, ?_⟩
    · intro j r' s hj hs
      exact h.held (running_leave.1 hj).2 hs
    · intro j r' s s' hj hs
      exact h.candidate (running_leave.1 hj).2 hs

theorem Reachable.consistent (h : Reachable w) : ∃ tells, w.Consistent tells := by
  induction h with
  | init =>
    exact ⟨fun _ => [], rfl, ⟨Nat.zero_lt_one, rfl⟩, nofun, nofun⟩
  | step _ hs ih =>
    obtain ⟨tells, htells⟩ := ih
    exact htells.step hs

end World

end TrackedEntity
