import Mathlib.Combinatorics.Enumerative.DoubleCounting
import Mathlib.Data.Nat.Count
import TrackedEntity.Proofs.Channel.Linearization

/-!
# How often a change is tried

Neither an addition nor a removal comes closer to its end by an exchange that fails.  What bounds
the failures is the other changes.  A `Run` is a history of steps that keeps who took each step, by
a `Ticket` that no two changes share, and what the step was, a `Deed`.

An exchange fails only if the current snapshot is not the one that the writer saw last; so since it
looked, another change was published (`Run.exists_charged`).  A change is published at most once
(`Run.publishes_unique`), and after a failure the writer has looked again, so one publication
accounts for at most one failure of any change (`Run.Charged.unique`).  Hence a change makes at most
as many exchanges as there are changes (`Run.attempts_le_changes`).

A writer that nobody disturbs any more fails at most once, because of what happened before, and then
holds what is current; two numbers that go down say so (`Does.left`).
-/

namespace TrackedEntity

variable {ι : Type u} {α : Type v}

/-! ### Steps by name -/

/-- What a step of a thread was. -/
inductive Deed where
  | starts
  | reads
  /-- The writer has found out what to publish. -/
  | prepares
  /-- The writer has found nothing to change. -/
  | misses
  /-- An exchange that succeeds. -/
  | publishes
  /-- An exchange that fails. -/
  | fails
  | returns
deriving DecidableEq

namespace Deed

/-- Whether a step is an exchange. -/
def exchanges : Deed → Bool
  | publishes | fails => true
  | _ => false

/-- Whether a step shows the current snapshot to a writer that is not done. -/
def looks : Deed → Bool
  | reads | fails => true
  | _ => false

end Deed

/-- What the next step of a writer is. -/
def Writer.deed (e : Edit α) : Writer α → Channel α → Deed
  | .reading, _ => .reads
  | .holding held, _ => if (e.change? held.handlers).isSome then .prepares else .misses
  | .prepared held _, c => if c.current.serial = held.serial then .publishes else .fails
  | .finished _, _ => .returns

namespace Writer

variable {e : Edit α} {c : Channel α} {writer : Writer α}

/-- Only a writer that has prepared a candidate makes an exchange. -/
theorem exists_prepared (h : (writer.deed e c).exchanges = true) :
    ∃ held candidate, writer = .prepared held candidate := by
  cases writer with
  | reading | finished => cases h
  | holding held =>
    rw [deed] at h
    split at h <;> cases h
  | prepared held candidate => exact ⟨held, candidate, rfl⟩

/-- A writer has published if what it held was current. -/
theorem exists_of_publishes (h : writer.deed e c = .publishes) :
    ∃ held candidate, writer = .prepared held candidate ∧ c.current.serial = held.serial := by
  have hexchanges : (writer.deed e c).exchanges = true := by rw [h]; rfl
  obtain ⟨held, candidate, rfl⟩ := exists_prepared hexchanges
  refine ⟨held, candidate, rfl, ?_⟩
  by_contra hserial
  rw [deed, if_neg hserial] at h
  cases h

/-- An exchange has failed if what the writer held was not current. -/
theorem exists_of_fails (h : writer.deed e c = .fails) :
    ∃ held candidate, writer = .prepared held candidate ∧ c.current.serial ≠ held.serial := by
  have hexchanges : (writer.deed e c).exchanges = true := by rw [h]; rfl
  obtain ⟨held, candidate, rfl⟩ := exists_prepared hexchanges
  refine ⟨held, candidate, rfl, fun hserial => ?_⟩
  rw [deed, if_pos hserial] at h
  cases h

end Writer

/-- A change, named by its thread and the time when it started. -/
structure Ticket (ι : Type u) where
  thread : ι
  start : ℕ
deriving DecidableEq

namespace World

variable [DecidableEq ι] {w w' : World ι α} {o : Ticket ι} {d : Deed} {i : ι} {r r' : Running α}

/-- One step of one thread, with the change that it belongs to and what it was. -/
inductive Does : World ι α → Ticket ι → Deed → World ι α → Prop
  | start {w : World ι α} {i : ι} (h : w.running i = none) (e : Edit α) :
      Does w ⟨i, w.clock⟩ .starts (w.leaveAt w.channel i ⟨e, w.clock, .reading⟩)
  | advance {w : World ι α} {i : ι} {r : Running α} (h : w.running i = some r)
      (hr : ∀ published, r.writer ≠ .finished published) :
      Does w ⟨i, r.start⟩ (r.writer.deed r.edit w.channel)
        (w.leaveAt (r.writer.advance r.edit w.channel).2 i
          { r with writer := (r.writer.advance r.edit w.channel).1 })
  | finish {w : World ι α} {i : ι} {r : Running α} {published : Bool} (h : w.running i = some r)
      (hr : r.writer = .finished published) : Does w ⟨i, r.start⟩ .returns (w.leave i r)

/-- Every step has a name. -/
theorem step_iff_does : Step w w' ↔ ∃ o d, Does w o d w' := by
  constructor
  · intro h
    cases h with
    | start hi e => exact ⟨_, _, .start hi e⟩
    | advance hi hr => exact ⟨_, _, .advance hi hr⟩
    | finish hi hr => exact ⟨_, _, .finish hi hr⟩
  · rintro ⟨o, d, h⟩
    cases h with
    | start hi e => exact .start hi e
    | advance hi hr => exact .advance hi hr
    | finish hi hr => exact .finish hi hr

/-- A change that has not returned can take a step. -/
theorem exists_does (h : w.running i = some r) : ∃ d w', Does w ⟨i, r.start⟩ d w' := by
  by_cases hr : ∃ published, r.writer = .finished published
  · obtain ⟨published, hr⟩ := hr
    exact ⟨_, _, .finish h hr⟩
  · exact ⟨_, _, .advance h fun published hpublished => hr ⟨published, hpublished⟩⟩

namespace Does

theorem clock_eq (h : Does w o d w') : w'.clock = w.clock + 1 := by
  cases h with
  | start | advance | finish => rfl

/-- What a thread is at after a step: what it was at, if another thread took the step; a new change;
or the change that the step has brought on. -/
theorem running_cases (h : Does w o d w') (hi : w'.running i = some r') :
    (o.thread ≠ i ∧ w.running i = some r') ∨
    (o = ⟨i, w.clock⟩ ∧ d = .starts ∧ r'.start = w.clock ∧ r'.writer = .reading) ∨
    ∃ r, w.running i = some r ∧ o = ⟨i, r.start⟩ ∧ d = r.writer.deed r.edit w.channel ∧
      (∀ published, r.writer ≠ .finished published) ∧
      r' = { r with writer := (r.writer.advance r.edit w.channel).1 } ∧
      w'.channel = (r.writer.advance r.edit w.channel).2 := by
  cases h with
  | @start j hj e =>
    rcases running_leaveAt.1 hi with ⟨rfl, rfl⟩ | ⟨hne, hi⟩
    · exact .inr (.inl ⟨rfl, rfl, rfl, rfl⟩)
    · exact .inl ⟨hne.symm, hi⟩
  | @advance j r hj hr =>
    rcases running_leaveAt.1 hi with ⟨rfl, rfl⟩ | ⟨hne, hi⟩
    · exact .inr (.inr ⟨r, hj, rfl, rfl, hr, rfl, rfl⟩)
    · exact .inl ⟨hne.symm, hi⟩
  | finish hj hr =>
    obtain ⟨hne, hi⟩ := running_leave.1 hi
    exact .inl ⟨hne.symm, hi⟩

/-- A step starts a change, or belongs to the one that its thread is at. -/
theorem starts_or (h : Does w o d w') :
    (d = .starts ∧ o.start = w.clock) ∨
    ∃ r, w.running o.thread = some r ∧ o = ⟨o.thread, r.start⟩ ∧
      d = r.writer.deed r.edit w.channel := by
  cases h with
  | start => exact .inl ⟨rfl, rfl⟩
  | advance hi hr => exact .inr ⟨_, hi, rfl, rfl⟩
  | finish hi hr => exact .inr ⟨_, hi, rfl, by rw [hr]; rfl⟩

/-- Only publishing changes what is current. -/
theorem current_eq (h : Does w o d w') (hd : d ≠ .publishes) :
    w'.channel.current = w.channel.current := by
  cases h with
  | start | finish => rfl
  | @advance i r hi hr =>
    show (r.writer.advance r.edit w.channel).2.current = w.channel.current
    cases hw : r.writer with
    | reading | finished => rfl
    | holding held =>
      simp only [Writer.advance]
      cases r.edit.change? held.handlers with
      | none => rfl
      | some handlers => exact Channel.current_prepare
    | prepared held candidate =>
      have hserial : w.channel.current.serial ≠ held.serial := by
        intro hserial
        rw [hw, Writer.deed, if_pos hserial] at hd
        exact hd rfl
      simp only [Writer.advance, Channel.exchange, if_neg hserial]

end Does

/-! ### Runs -/

/-- A history of steps, from a first world on. -/
structure Run (first : World ι α) where
  length : ℕ
  world : ℕ → World ι α
  ticket : ℕ → Ticket ι
  deed : ℕ → Deed
  world_zero : world 0 = first
  does : ∀ t < length, Does (world t) (ticket t) (deed t) (world (t + 1))

namespace Run

section

variable (run : Run (init : World ι α)) {s t u v : ℕ}

theorem clock_eq (ht : t ≤ run.length) : (run.world t).clock = t := by
  induction t with
  | zero =>
    rw [run.world_zero]
    rfl
  | succ t ih => rw [(run.does t ht).clock_eq, ih (Nat.le_of_lt ht)]

/-- A change that is under way has started, by a step of its own. -/
theorem started (ht : t ≤ run.length) (hi : (run.world t).running i = some r) :
    r.start < t ∧ run.deed r.start = .starts ∧ run.ticket r.start = ⟨i, r.start⟩ := by
  induction t generalizing r with
  | zero =>
    rw [run.world_zero] at hi
    cases hi
  | succ t ih =>
    have hlt : ∀ {r : Running α}, (run.world t).running i = some r → r.start < t + 1 ∧
        run.deed r.start = .starts ∧ run.ticket r.start = ⟨i, r.start⟩ := by
      intro r hi
      obtain ⟨hstart, hrest⟩ := ih (Nat.le_of_lt ht) hi
      exact ⟨Nat.lt_succ_of_lt hstart, hrest⟩
    rcases (run.does t ht).running_cases hi with
      ⟨-, hbefore⟩ | ⟨ho, hd, hstart, -⟩ | ⟨r, hbefore, -, -, -, rfl, -⟩
    · exact hlt hbefore
    · rw [run.clock_eq (Nat.le_of_lt ht)] at ho hstart
      rw [hstart]
      exact ⟨Nat.lt_succ_self t, hd, ho⟩
    · exact (hlt hbefore :)

/-- Every step belongs to a change that has started. -/
theorem ticket_started (ht : t < run.length) :
    (run.ticket t).start ≤ t ∧ run.deed (run.ticket t).start = .starts ∧
      run.ticket (run.ticket t).start = run.ticket t := by
  rcases (run.does t ht).starts_or with ⟨hd, hstart⟩ | ⟨r, hi, ho, -⟩
  · rw [run.clock_eq (Nat.le_of_lt ht)] at hstart
    rw [hstart]
    exact ⟨Nat.le_refl t, hd, rfl⟩
  · obtain ⟨hlt, hstarts, hticket⟩ := run.started (Nat.le_of_lt ht) hi
    rw [ho]
    exact ⟨Nat.le_of_lt hlt, hstarts, hticket⟩

/-- A change that was published has no more to do than to return. -/
theorem finished_of_publishes (hv : run.deed v = .publishes) (hvt : v < t) (ht : t ≤ run.length)
    (hi : (run.world t).running (run.ticket v).thread = some r)
    (hr : r.start = (run.ticket v).start) : ∃ published, r.writer = .finished published := by
  induction t, hvt using Nat.le_induction generalizing r with
  | base =>
    rcases (run.does v ht).running_cases hi with
      ⟨hne, -⟩ | ⟨-, hd, -⟩ | ⟨r, -, -, hd, -, rfl, -⟩
    · exact absurd rfl hne
    · rw [hv] at hd
      cases hd
    · obtain ⟨held, candidate, hw, hserial⟩ := Writer.exists_of_publishes (hd.symm.trans hv)
      refine ⟨true, ?_⟩
      rw [hw]
      simp only [Writer.advance, Channel.exchange, if_pos hserial]
  | succ t hvt ih =>
    rcases (run.does t ht).running_cases hi with
      ⟨-, hbefore⟩ | ⟨-, -, hstart, -⟩ | ⟨r, hbefore, -, -, hnot, rfl, -⟩
    · exact ih (Nat.le_of_lt ht) hbefore hr
    · -- a change that starts now is another one
      have hearlier := (run.ticket_started (t := v) (by omega)).1
      rw [run.clock_eq (Nat.le_of_lt ht)] at hstart
      omega
    · obtain ⟨published, hfinished⟩ := ih (Nat.le_of_lt ht) hbefore hr
      exact absurd hfinished (hnot published)

/-- **A change is published at most once.** -/
theorem publishes_unique (hs : s < run.length) (ht : t < run.length)
    (hds : run.deed s = .publishes) (hdt : run.deed t = .publishes)
    (hticket : run.ticket s = run.ticket t) : s = t := by
  wlog hle : s ≤ t generalizing s t
  · exact (this ht hs hdt hds hticket.symm (Nat.le_of_not_le hle)).symm
  by_contra hne
  have hlt : s < t := Nat.lt_of_le_of_ne hle hne
  rcases (run.does t ht).starts_or with ⟨hd, -⟩ | ⟨r, hi, ho, hd⟩
  · rw [hdt] at hd
    cases hd
  · obtain ⟨held, candidate, hw, -⟩ := Writer.exists_of_publishes (hd.symm.trans hdt)
    have hr : r.start = (run.ticket s).start := by rw [hticket, ho]
    rw [← hticket] at hi
    obtain ⟨published, hfinished⟩ := run.finished_of_publishes hds hlt (Nat.le_of_lt ht) hi hr
    rw [hw] at hfinished
    cases hfinished

/-! ### What failures are charged to -/

/-- Whether a step is the last one before a time by which a change saw the current snapshot. -/
structure LastLook (o : Ticket ι) (u t : ℕ) : Prop where
  lt : u < t
  ticket : run.ticket u = o
  looks : (run.deed u).looks = true
  last : ∀ n, u < n → n < t → run.ticket n = o → (run.deed n).looks = false

/-- Whether a failure may be charged to a publication: another change was published since the one
that failed saw the current snapshot. -/
structure Charged (v t : ℕ) : Prop where
  lt : v < t
  publishes : run.deed v = .publishes
  other : run.ticket v ≠ run.ticket t
  since : ∃ u, u < v ∧ run.LastLook (run.ticket t) u t

theorem LastLook.succ {o : Ticket ι} (h : run.LastLook o u t)
    (hnot : run.ticket t = o → (run.deed t).looks = false) : run.LastLook o u (t + 1) := by
  refine ⟨Nat.lt_succ_of_lt h.lt, h.ticket, h.looks, fun n hun hnt hn => ?_⟩
  rcases Nat.lt_succ_iff_lt_or_eq.1 hnt with hlt | rfl
  · exact h.last n hun hlt hn
  · exact hnot hn

/-- A step that shows the current snapshot is the last such step right after it. -/
theorem lastLook_self (hlooks : (run.deed t).looks = true) :
    run.LastLook (run.ticket t) t (t + 1) :=
  ⟨Nat.lt_succ_self t, rfl, hlooks, fun n htn hnt => absurd hnt (by omega)⟩

/-- Whether a snapshot that a change holds is current, or else another change was published since
the change looked. -/
def Excused (o : Ticket ι) (held : Snapshot α) (t : ℕ) : Prop :=
  ∃ u, run.LastLook o u t ∧ ((run.world t).channel.current.serial = held.serial ∨
    ∃ v, u < v ∧ v < t ∧ run.deed v = .publishes ∧ run.ticket v ≠ o)

/-- What another change does, or this one does without a look at the channel, leaves it so. -/
theorem Excused.succ {o : Ticket ι} {held : Snapshot α} (h : run.Excused o held t)
    (ht : t < run.length)
    (hown : run.ticket t = o → (run.deed t).looks = false ∧ run.deed t ≠ .publishes) :
    run.Excused o held (t + 1) := by
  obtain ⟨u, hu, hheld⟩ := h
  refine ⟨u, hu.succ run fun ho => (hown ho).1, ?_⟩
  by_cases hd : run.deed t = .publishes
  · exact .inr ⟨t, hu.lt, Nat.lt_succ_self t, hd, fun ho => (hown ho).2 hd⟩
  · rw [(run.does t ht).current_eq hd]
    rcases hheld with hcurrent | ⟨v, huv, hvt, hv⟩
    · exact .inl hcurrent
    · exact .inr ⟨v, huv, Nat.lt_succ_of_lt hvt, hv⟩

/-- Right after a look what was seen is current. -/
theorem excused_self {held : Snapshot α} (hlooks : (run.deed t).looks = true)
    (hheld : (run.world (t + 1)).channel.current = held) :
    run.Excused (run.ticket t) held (t + 1) :=
  ⟨t, run.lastLook_self hlooks, .inl (by rw [hheld])⟩

/-- **What a writer holds is current, or another change was published** since the writer saw it. -/
theorem excused (ht : t ≤ run.length) {held : Snapshot α}
    (hi : (run.world t).running i = some r) (hheld : r.writer.held? = some held) :
    run.Excused ⟨i, r.start⟩ held t := by
  induction t generalizing r held with
  | zero =>
    rw [run.world_zero] at hi
    cases hi
  | succ t ih =>
    rcases (run.does t ht).running_cases hi with
      ⟨hne, hbefore⟩ | ⟨-, -, -, hreading⟩ | ⟨r, hbefore, ho, hd, hnot, rfl, hchannel⟩
    · -- another thread took the step, and perhaps published
      refine (ih (Nat.le_of_lt ht) hbefore hheld).succ run ht fun ho => ?_
      rw [ho] at hne
      exact absurd rfl hne
    · rw [hreading] at hheld
      cases hheld
    · cases hw : r.writer with
      | reading =>
        rw [hw] at hd hheld hchannel
        obtain rfl := Option.some.inj hheld
        rw [← ho]
        exact run.excused_self (by rw [hd]; rfl) (by rw [hchannel]; rfl)
      | holding held' =>
        rw [hw] at hd hheld
        rw [Writer.deed] at hd
        simp only [Writer.advance] at hheld
        cases hchange : r.edit.change? held'.handlers with
        | none =>
          rw [hchange] at hheld
          cases hheld
        | some handlers =>
          rw [hchange] at hheld
          rw [hchange, Option.isSome_some, if_pos rfl] at hd
          obtain rfl := Option.some.inj hheld
          refine (ih (Nat.le_of_lt ht) hbefore (by rw [hw]; rfl)).succ run ht fun _ => ?_
          rw [hd]
          exact ⟨rfl, by decide⟩
      | prepared held' candidate =>
        rw [hw] at hd hheld hchannel
        rw [Writer.deed] at hd
        by_cases hserial : (run.world t).channel.current.serial = held'.serial
        · simp only [Writer.advance, Channel.exchange, if_pos hserial] at hheld
          cases hheld
        · simp only [Writer.advance, Channel.exchange, if_neg hserial] at hd hheld hchannel
          obtain rfl := Option.some.inj hheld
          rw [← ho]
          exact run.excused_self (by rw [hd]; rfl) (by rw [hchannel])
      | finished published => exact absurd hw (hnot published)

/-- **An exchange fails only if another change was published** since the writer looked. -/
theorem exists_charged (ht : t < run.length) (hfails : run.deed t = .fails) :
    ∃ v, run.Charged v t := by
  rcases (run.does t ht).starts_or with ⟨hd, -⟩ | ⟨r, hi, ho, hd⟩
  · rw [hfails] at hd
    cases hd
  · obtain ⟨held, candidate, hw, hserial⟩ := Writer.exists_of_fails (hd.symm.trans hfails)
    obtain ⟨u, hu, hcurrent | ⟨v, huv, hvt, hpublishes, hother⟩⟩ :=
      run.excused (Nat.le_of_lt ht) hi (by rw [hw]; rfl)
    · exact absurd hcurrent hserial
    · rw [← ho] at hu hother
      exact ⟨v, hvt, hpublishes, hother, u, huv, hu⟩

/-- **A publication is charged with at most one failure of a change.** -/
theorem Charged.unique (hs : run.Charged v s) (ht : run.Charged v t)
    (hds : run.deed s = .fails) (hdt : run.deed t = .fails)
    (hticket : run.ticket s = run.ticket t) : s = t := by
  wlog hle : s ≤ t generalizing s t
  · exact (this ht hs hdt hds hticket.symm (Nat.le_of_not_le hle)).symm
  by_contra hne
  obtain ⟨u, huv, hu⟩ := ht.since
  -- the first failure shows the current snapshot, after the publication
  have hlooks := hu.last s (Nat.lt_trans huv hs.lt) (Nat.lt_of_le_of_ne hle hne) hticket
  rw [hds] at hlooks
  cases hlooks

/-- Whether a publication accounts for an exchange: for itself, or for a failure that is charged
to it. -/
def AccountsFor (v t : ℕ) : Prop :=
  run.deed t = .publishes ∧ v = t ∨ run.deed t = .fails ∧ run.Charged v t

theorem exists_accountsFor (ht : t < run.length) (h : (run.deed t).exchanges = true) :
    ∃ v < run.length, run.deed v = .publishes ∧ run.AccountsFor v t := by
  cases hd : run.deed t with
  | publishes => exact ⟨t, ht, hd, .inl ⟨hd, rfl⟩⟩
  | fails =>
    obtain ⟨v, hv⟩ := run.exists_charged ht hd
    exact ⟨v, Nat.lt_trans hv.lt ht, hv.publishes, .inr ⟨hd, hv⟩⟩
  | starts | reads | prepares | misses | returns =>
    rw [hd] at h
    cases h

/-- **The publication of a change accounts for one exchange of any change.** -/
theorem AccountsFor.unique (hs : run.AccountsFor u s) (ht : run.AccountsFor v t)
    (hslt : s < run.length) (htlt : t < run.length) (hticket : run.ticket s = run.ticket t)
    (hsame : run.ticket u = run.ticket v) : s = t := by
  rcases hs with ⟨hds, rfl⟩ | ⟨hds, hs⟩
  · rcases ht with ⟨hdt, rfl⟩ | ⟨hdt, ht⟩
    · exact run.publishes_unique hslt htlt hds hdt hticket
    · exact absurd (hsame.symm.trans hticket) ht.other
  · rcases ht with ⟨hdt, rfl⟩ | ⟨hdt, ht⟩
    · exact absurd (hsame.trans hticket.symm) hs.other
    · have hu : u < run.length := Nat.lt_trans hs.lt hslt
      have hv : v < run.length := Nat.lt_trans ht.lt htlt
      obtain rfl := run.publishes_unique hu hv hs.publishes ht.publishes hsame
      exact hs.unique run ht hds hdt hticket

end

/-! ### Counting -/

/-- The number of exchanges that a change makes. -/
def attempts {first : World ι α} (run : Run first) (o : Ticket ι) : ℕ :=
  Nat.count (fun t => run.ticket t = o ∧ (run.deed t).exchanges = true) run.length

/-- The number of changes that start. -/
def changes {first : World ι α} (run : Run first) : ℕ :=
  Nat.count (fun t => run.deed t = .starts) run.length

/-- **A change makes at most as many exchanges as there are changes.**  The exchanges that it makes
are accounted for by different changes. -/
theorem attempts_le_changes (run : Run (init : World ι α)) (o : Ticket ι) :
    run.attempts o ≤ run.changes := by
  rw [attempts, changes, Nat.count_eq_card_filter_range, Nat.count_eq_card_filter_range]
  refine Finset.card_le_card_of_forall_subsingleton
    (fun t k => ∃ v < run.length, run.AccountsFor v t ∧ (run.ticket v).start = k) ?_ ?_
  · intro t ht
    obtain ⟨ht, -, hd⟩ := Finset.mem_filter.1 ht
    obtain ⟨v, hv, hpublishes, haccounts⟩ := run.exists_accountsFor (Finset.mem_range.1 ht) hd
    obtain ⟨hstart, hstarts, -⟩ := run.ticket_started hv
    have hk : (run.ticket v).start ∈ Finset.range run.length :=
      Finset.mem_range.2 (Nat.lt_of_le_of_lt hstart hv)
    exact ⟨_, Finset.mem_filter.2 ⟨hk, hstarts⟩, v, hv, haccounts, rfl⟩
  · rintro k - s ⟨hs, u, hu, hus, hk⟩ t ⟨ht, v, hv, hvt, rfl⟩
    obtain ⟨hs, hos, -⟩ := Finset.mem_filter.1 hs
    obtain ⟨ht, hot, -⟩ := Finset.mem_filter.1 ht
    -- the time when a change started names it
    have hsame : run.ticket u = run.ticket v := by
      rw [← (run.ticket_started hu).2.2, hk, (run.ticket_started hv).2.2]
    exact hus.unique run hvt (Finset.mem_range.1 hs) (Finset.mem_range.1 ht) (hos.trans hot.symm)
      hsame

/-! ### Changes that nobody disturbs -/

/-- A run without steps. -/
def nil (w : World ι α) (o : Ticket ι) : Run w where
  length := 0
  world _ := w
  ticket _ := o
  deed _ := .starts
  world_zero := rfl
  does t ht := absurd ht (Nat.not_lt_zero t)

/-- A run with one more step before the others. -/
def cons (h : Does w o d w') (run : Run w') : Run w where
  length := run.length + 1
  world
    | 0 => w
    | t + 1 => run.world t
  ticket
    | 0 => o
    | t + 1 => run.ticket t
  deed
    | 0 => d
    | t + 1 => run.deed t
  world_zero := rfl
  does
    | 0, _ => by
      show Does w o d (run.world 0)
      rw [run.world_zero]
      exact h
    | t + 1, ht => run.does t (Nat.lt_of_succ_lt_succ ht)

/-- Whether all steps belong to one change. -/
def Alone {first : World ι α} (run : Run first) (o : Ticket ι) : Prop :=
  ∀ t < run.length, run.ticket t = o

end Run

end World

namespace Writer

/-- The number of steps that a change takes if nobody disturbs it, at most, its return included. -/
def stepsLeft : Writer α → Channel α → ℕ
  | .reading, _ => 4
  | .holding held, c => if c.current.serial = held.serial then 3 else 5
  | .prepared held _, c => if c.current.serial = held.serial then 2 else 4
  | .finished _, _ => 1

/-- The number of exchanges that a writer makes if nobody disturbs it, at most. -/
def exchangesLeft : Writer α → Channel α → ℕ
  | .reading, _ => 1
  | .holding held, c | .prepared held _, c => if c.current.serial = held.serial then 1 else 2
  | .finished _, _ => 0

variable {e : Edit α} {c : Channel α} {writer : Writer α}

theorem stepsLeft_le : writer.stepsLeft c ≤ 5 := by
  cases writer with
  | reading | finished => simp [stepsLeft]
  | holding | prepared =>
    rw [stepsLeft]
    split <;> decide

theorem exchangesLeft_le : writer.exchangesLeft c ≤ 2 := by
  cases writer with
  | reading | finished => simp [exchangesLeft]
  | holding | prepared =>
    rw [exchangesLeft]
    split <;> decide

/-- **Every step of a writer brings it closer to its end.** -/
theorem left_advance (h : ∀ published, writer ≠ .finished published) :
    (writer.advance e c).1.stepsLeft (writer.advance e c).2 < writer.stepsLeft c ∧
      (writer.advance e c).1.exchangesLeft (writer.advance e c).2 +
        (writer.deed e c).exchanges.toNat ≤ writer.exchangesLeft c := by
  cases writer with
  | reading => simp [advance, stepsLeft, exchangesLeft, deed, Deed.exchanges]
  | holding held =>
    cases hchange : e.change? held.handlers with
    | none =>
      simp only [advance, hchange, stepsLeft, exchangesLeft, deed, Deed.exchanges]
      split <;> simp
    | some handlers =>
      simp only [advance, hchange, stepsLeft, exchangesLeft, deed, Deed.exchanges,
        Channel.current_prepare]
      split <;> simp
  | prepared held candidate =>
    by_cases hserial : c.current.serial = held.serial
    · simp [advance, Channel.exchange, stepsLeft, exchangesLeft, deed, Deed.exchanges, hserial]
    · simp [advance, Channel.exchange, stepsLeft, exchangesLeft, deed, Deed.exchanges, hserial]
  | finished published => exact absurd rfl (h published)

end Writer

namespace World

variable [DecidableEq ι] {w w' : World ι α} {o : Ticket ι} {d : Deed} {i : ι} {r : Running α}

/-- The number of steps that a thread takes before it is at nothing, at most, if the others rest. -/
def stepsLeft (w : World ι α) (i : ι) : ℕ :=
  (w.running i).elim 0 fun r => r.writer.stepsLeft w.channel

/-- The number of exchanges that a thread makes before it is at nothing, at most, if the others
rest. -/
def exchangesLeft (w : World ι α) (i : ι) : ℕ :=
  (w.running i).elim 0 fun r => r.writer.exchangesLeft w.channel

/-- Whether a change has started and its thread is at no other one. -/
structure Attends (w : World ι α) (o : Ticket ι) : Prop where
  lt : o.start < w.clock
  start_eq : ∀ r, w.running o.thread = some r → r.start = o.start

namespace Does

theorem attends (h : Does w o d w') (ho : w.Attends o) : w'.Attends o := by
  refine ⟨?_, fun r' hr' => ?_⟩
  · rw [h.clock_eq]
    exact Nat.lt_succ_of_lt ho.lt
  · rcases h.running_cases hr' with ⟨hne, -⟩ | ⟨hnew, -, hstart, -⟩ | ⟨r, hr, -, -, -, rfl, -⟩
    · exact absurd rfl hne
    · rw [hstart, hnew]
    · exact ho.start_eq r hr

/-- **Every step of a change brings it closer to its end.** -/
theorem left (h : Does w o d w') (ho : w.Attends o) :
    w'.stepsLeft o.thread < w.stepsLeft o.thread ∧
      w'.exchangesLeft o.thread + d.exchanges.toNat ≤ w.exchangesLeft o.thread := by
  cases h with
  | start hi e => exact absurd ho.lt (Nat.lt_irrefl _)
  | @advance i r hi hr =>
    have hafter : (w.leaveAt (r.writer.advance r.edit w.channel).2 i
        { r with writer := (r.writer.advance r.edit w.channel).1 }).running i =
        some { r with writer := (r.writer.advance r.edit w.channel).1 } :=
      running_leaveAt.2 (.inl ⟨rfl, rfl⟩)
    simp only [stepsLeft, exchangesLeft, hi, hafter, Option.elim_some]
    exact Writer.left_advance hr
  | @finish i r published hi hr =>
    have hafter : (w.leave i r).running i = none := by simp [leave]
    simp [stepsLeft, exchangesLeft, hi, hafter, hr, Writer.stepsLeft, Deed.exchanges]

end Does

namespace Run

theorem attends_of_alone (run : Run w) (halone : run.Alone o) (ho : w.Attends o) {t : ℕ}
    (ht : t ≤ run.length) : (run.world t).Attends o := by
  induction t with
  | zero =>
    rw [run.world_zero]
    exact ho
  | succ t ih =>
    have hdoes := run.does t ht
    rw [halone t ht] at hdoes
    exact hdoes.attends (ih (Nat.le_of_lt ht))

/-- What is left at any time of a run of one change. -/
theorem left_of_alone (run : Run w) (halone : run.Alone o) (ho : w.Attends o) {t : ℕ}
    (ht : t ≤ run.length) :
    t + (run.world t).stepsLeft o.thread ≤ w.stepsLeft o.thread ∧
      Nat.count (fun t => run.ticket t = o ∧ (run.deed t).exchanges = true) t +
        (run.world t).exchangesLeft o.thread ≤ w.exchangesLeft o.thread := by
  induction t with
  | zero =>
    rw [run.world_zero, Nat.count_zero, Nat.zero_add, Nat.zero_add]
    exact ⟨Nat.le_refl _, Nat.le_refl _⟩
  | succ t ih =>
    obtain ⟨hsteps, hexchanges⟩ := ih (Nat.le_of_lt ht)
    have hdoes := run.does t ht
    rw [halone t ht] at hdoes
    have hleft := hdoes.left (run.attends_of_alone halone ho (Nat.le_of_lt ht))
    have hone : (if run.ticket t = o ∧ (run.deed t).exchanges = true then 1 else 0) =
        (run.deed t).exchanges.toNat := by
      rw [halone t ht]
      cases (run.deed t).exchanges <;> simp
    rw [Nat.count_succ, hone]
    omega

/-- A change that nobody disturbs returns. -/
theorem exists_alone (w : World ι α) (ho : w.Attends o) :
    ∃ run : Run w, run.Alone o ∧ (run.world run.length).running o.thread = none := by
  induction hn : w.stepsLeft o.thread using Nat.strong_induction_on generalizing w with
  | h n ih =>
    cases hi : w.running o.thread with
    | none => exact ⟨nil w o, fun t ht => absurd ht (Nat.not_lt_zero t), hi⟩
    | some r =>
      -- one step more, and then the rest, of which there is less
      obtain ⟨d, w', hdoes⟩ := exists_does hi
      rw [ho.start_eq r hi] at hdoes
      obtain ⟨run, halone, hend⟩ :=
        ih _ (hn ▸ (hdoes.left ho).1) w' (hdoes.attends ho) rfl
      refine ⟨cons hdoes run, fun t ht => ?_, hend⟩
      cases t with
      | zero => rfl
      | succ t => exact halone t (Nat.lt_of_succ_lt_succ ht)

/-- **The loops of additions and removals finish.**  In every history of steps of any number of
threads, from a channel without handlers on,

* an exchange fails only if another change was published since the writer saw the current snapshot,
  and a publication is charged with at most one failure of any change;
* no change makes more exchanges than there are changes;

and in every state that steps lead to, a change that has not returned makes at most two more
exchanges, and takes at most five more steps, if only its thread goes on, and can always go on so
until it has returned. -/
theorem attempts_bounded (run : Run (init : World ι α)) :
    (∀ t < run.length, run.deed t = .fails → ∃ v, run.Charged v t) ∧
    (∀ v s t, run.Charged v s → run.Charged v t → run.deed s = .fails → run.deed t = .fails →
      run.ticket s = run.ticket t → s = t) ∧
    (∀ o, run.attempts o ≤ run.changes) ∧
    ∀ w : World ι α, w.Reachable → ∀ i r, w.running i = some r →
      ∀ solo : Run w, solo.Alone ⟨i, r.start⟩ →
        solo.attempts ⟨i, r.start⟩ ≤ 2 ∧ solo.length ≤ 5 ∧
        ∃ rest : Run (solo.world solo.length), rest.Alone ⟨i, r.start⟩ ∧
          (rest.world rest.length).running i = none := by
  refine ⟨fun t ht hfails => run.exists_charged ht hfails,
    fun v s t hs ht hds hdt hticket => hs.unique run ht hds hdt hticket,
    run.attempts_le_changes, ?_⟩
  intro w hw i r hi solo halone
  obtain ⟨pending, order, hexplained⟩ := hw.explained
  have ho : w.Attends ⟨i, r.start⟩ := by
    refine ⟨(hexplained.started hi).1, fun r' hr' => ?_⟩
    rw [Option.some.inj (hr'.symm.trans hi)]
  obtain ⟨hsteps, hexchanges⟩ := solo.left_of_alone halone ho (Nat.le_refl _)
  have hfive : w.stepsLeft i ≤ 5 := by
    rw [stepsLeft, hi]
    exact Writer.stepsLeft_le
  have htwo : w.exchangesLeft i ≤ 2 := by
    rw [exchangesLeft, hi]
    exact Writer.exchangesLeft_le
  have hattempts : solo.attempts ⟨i, r.start⟩ ≤ w.exchangesLeft i :=
    Nat.le_trans (Nat.le_add_right _ _) hexchanges
  have hlength : solo.length ≤ w.stepsLeft i := Nat.le_trans (Nat.le_add_right _ _) hsteps
  refine ⟨Nat.le_trans hattempts htwo, Nat.le_trans hlength hfive, ?_⟩
  exact exists_alone _ (solo.attends_of_alone halone ho (Nat.le_refl _))

/-- Two threads that each add a handler.  The second one reads before the first one has published,
and so it has to try twice. -/
def duel : Run (init : World Bool ℕ) :=
  .cons (.start (i := true) rfl (.add 1)) <|
  .cons (.start (i := false) rfl (.add 2)) <|
  .cons (.advance (i := true) rfl (by rintro _ ⟨⟩)) <|
  .cons (.advance (i := false) rfl (by rintro _ ⟨⟩)) <|
  .cons (.advance (i := true) rfl (by rintro _ ⟨⟩)) <|
  .cons (.advance (i := false) rfl (by rintro _ ⟨⟩)) <|
  .cons (.advance (i := true) rfl (by rintro _ ⟨⟩)) <|
  .cons (.advance (i := false) rfl (by rintro _ ⟨⟩)) <|
  .cons (.advance (i := false) rfl (by rintro _ ⟨⟩)) <|
  .cons (.advance (i := false) rfl (by rintro _ ⟨⟩)) <|
  .nil _ ⟨false, 1⟩

/-- The second thread fails once, and this is charged to the first one. -/
theorem attempts_bounded_duel :
    duel.deed 7 = .fails ∧ (∃ v, duel.Charged v 7) ∧ duel.attempts ⟨false, 1⟩ = 2 ∧
      2 ≤ duel.changes := by
  obtain ⟨hcharged, -, hle, -⟩ := duel.attempts_bounded
  have hfails : duel.deed 7 = .fails := rfl
  have hattempts : duel.attempts ⟨false, 1⟩ = 2 := rfl
  refine ⟨hfails, hcharged 7 (by decide) hfails, hattempts, ?_⟩
  rw [← hattempts]
  exact hle ⟨false, 1⟩

end Run

end World

end TrackedEntity
