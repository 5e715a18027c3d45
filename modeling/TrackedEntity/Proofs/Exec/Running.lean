import TrackedEntity.Entity.Views
import TrackedEntity.Proofs.Mask.Membership

/-!
# Running operations

What the operations on an entity do to a `Moment`, one equation for each: `run_bind` for two
operations one after the other, and an equation for every single step.  An assignment is decided
first (`goesAhead`); the rest of it, where it goes ahead, is `Setter.finish`.  With the ordinal
inside the slots and the mask, that is one event, a store, followed by an emission if the entity
notifies (`run_finish`).  `Moment.after` is the moment after an event.

An operation is `Quiet` when it leaves slots, mask, channel and history as they are.
-/

namespace TrackedEntity

/-! ### Events -/

/-- The entity after an event. -/
def EntityState.after (e : EntityState) : Event → EntityState
  | .stored _ ordinal v =>
    { e with slots := e.slots.set ordinal.toNat v, mask := e.mask.insert ordinal.toNat }
  | .edited change => { e with channel := e.channel.map (·.edit change) }
  | .logged _ | .emitted _ _ | .called _ _ _ _ _ => e

namespace Moment

/-- The moment after an event. -/
def after (m : Moment) (event : Event) : Moment where
  entity := m.entity.after event
  history := m.history ++ [event]
  nextSerial := m.nextSerial

theorem length_history_after (m : Moment) (event : Event) :
    (m.after event).history.length = m.history.length + 1 := List.length_append

/-- The entity as it is given to hooks and handlers. -/
def self (m : Moment) : Value := .entity m.entity.className

/-- Whether a value counts as true. -/
def counts (m : Moment) (v : Value) : Bool :=
  match v, m.entity.channel with
  | .channel, some c => !c.handlers.isEmpty
  | v, _ => v.truthy

end Moment

namespace Exec

/-! ### Single steps -/

variable {α β : Type} (m : Moment)

theorem run_pure (a : α) : (pure a : Exec α).run m = (.ok a, m) := rfl

theorem run_bind (x : Exec α) (f : α → Exec β) :
    (x >>= f).run m = match x.run m with
      | (.ok a, m') => (f a).run m'
      | (.error h, m') => (.error h, m') := by
  show (ExceptT.bindCont f (x.run m).1).run (x.run m).2 = _
  cases hx : x.run m with
  | mk r m' => cases r <;> rfl

theorem run_bind_ok {x : Exec α} {f : α → Exec β} {m m' : Moment} {a : α}
    (h : x.run m = (.ok a, m')) : (x >>= f).run m = (f a).run m' := by
  rw [run_bind, h]

theorem run_bind_error {x : Exec α} {f : α → Exec β} {m m' : Moment} {e : Halt}
    (h : x.run m = (.error e, m')) : (x >>= f).run m = (.error e, m') := by
  rw [run_bind, h]

theorem run_ofExcept (x : Except Fault α) : (ofExcept x).run m = (x.mapError .fault, m) := by
  cases x <;> rfl

theorem run_entity : entity.run m = (.ok m.entity, m) := rfl

theorem run_self : Exec.self.run m = (.ok m.self, m) := rfl

theorem run_setEntity (e : EntityState) : (setEntity e).run m = (.ok (), { m with entity := e }) :=
  rfl

theorem run_record (event : Event) :
    (record event).run m = (.ok (), { m with history := m.history ++ [event] }) := rfl

theorem run_isTrue (v : Value) : (isTrue v).run m = (.ok (m.counts v), m) := by
  unfold isTrue Moment.counts
  rw [run_bind_ok (run_entity m)]
  cases v <;> cases m.entity.channel <;> rfl

theorem run_tryCatch (x : Exec α) (handle : Halt → Exec α) :
    (tryCatch x handle).run m = match x.run m with
      | (.ok a, m') => (.ok a, m')
      | (.error h, m') => (handle h).run m' := by
  simp only [tryCatch, tryCatchThe, MonadExceptOf.tryCatch, ExceptT.tryCatch, ExceptT.run_mk]
  cases hx : x.run m with
  | mk r m' =>
    show (StateT.bind x.run _) m = _
    simp only [StateT.bind, hx]
    cases r <;> rfl

omit m in
theorem run_runOn (x : Exec α) (e : EntityState) (traces : Traces) :
    (x.runOn e).run traces =
      (((x.run ⟨e, traces.history, traces.nextSerial⟩).1,
        (x.run ⟨e, traces.history, traces.nextSerial⟩).2.entity),
        ⟨(x.run ⟨e, traces.history, traces.nextSerial⟩).2.history,
          (x.run ⟨e, traces.history, traces.nextSerial⟩).2.nextSerial⟩) := rfl

/-! ### Slots -/

theorem isWord_natCast {i : ℕ} (h : i < 9223372036854775808) : Position.isWord (i : ℤ) = true := by
  simp only [Position.isWord, Bool.and_eq_true, decide_eq_true_eq]
  omega

theorem run_readSlot {i : ℕ} {v : Value} (hw : i < 9223372036854775808)
    (h : m.entity.slots[i]? = some v) : (readSlot (i : ℤ)).run m = (.ok v, m) := by
  obtain ⟨hlt, hv⟩ := List.getElem?_eq_some_iff.1 h
  unfold readSlot
  rw [isWord_natCast hw]
  simp only [Bool.not_true, Bool.false_eq_true, ↓reduceIte]
  rw [run_bind_ok (run_entity m)]
  simp only [Position.fromEnds?_natCast hlt]
  rw [run_pure, List.getD_eq_getElem _ _ hlt, hv]

theorem run_writeSlot {i : ℕ} (v : Value) (hw : i < 9223372036854775808)
    (h : i < m.entity.slots.length) :
    (writeSlot (i : ℤ) v).run m =
      (.ok (), { m with entity := { m.entity with slots := m.entity.slots.set i v } }) := by
  unfold writeSlot
  rw [isWord_natCast hw]
  simp only [Bool.not_true, Bool.false_eq_true, ↓reduceIte]
  rw [run_bind_ok (run_entity m)]
  simp only [Position.fromEnds?_natCast h]
  rw [run_setEntity]

theorem run_mark {i : ℕ} (h : m.entity.mask.HasRoom i) :
    (mark (i : ℤ)).run m =
      (.ok (), { m with entity := { m.entity with mask := m.entity.mask.insert i } }) := by
  unfold mark
  rw [run_bind_ok (run_entity m), Mask.mark_eq h]
  rfl

end Exec

/-! ### Assignments and emissions -/

open Exec

/-- What remains of an assignment that goes ahead. -/
def Setter.finish (run : Runner) (s : Setter) (v : Value) : Exec Unit := do
  writeSlot s.ordinal v
  record (.stored s.name s.ordinal v)
  mark s.ordinal
  if s.notifies then notify run (← Exec.self) s.name

variable {run : Runner} {m : Moment} {s : Setter} {v : Value}

theorem Setter.run_assign :
    (s.assign run v).run m = match (s.goesAhead run v).run m with
      | (.ok true, m') => (s.finish run v).run m'
      | (.ok false, m') => (.ok (), m')
      | (.error h, m') => (.error h, m') := by
  unfold Setter.assign
  rw [run_bind]
  cases hx : (s.goesAhead run v).run m with
  | mk r m' =>
    cases r with
    | error h => rfl
    | ok b => cases b <;> rfl

/-- An emission notes that it begins, and calls the handlers that are subscribed then. -/
theorem run_notify {sender : Value} {name : String} {c : Channel Handler}
    (h : m.entity.channel = some c) :
    (notify run sender name).run m =
      (callHandlers run m.history.length sender name c.handlers).run
        (m.after (.emitted name c.handlers)) := by
  unfold notify
  rw [run_bind_ok (run_entity m), h]
  rfl

theorem run_callHandlers_cons {emission : ℕ} {sender : Value} {name : String} {h : Handler}
    {hs : List Handler} :
    (callHandlers run emission sender name (h :: hs)).run m =
      match (run h.body [sender, .str name]).run
          (m.after (.called emission h sender name m.entity)) with
      | (.ok _, m') => (callHandlers run emission sender name hs).run m'
      | (.error e, m') => (.error e, m') := by
  have hrecord : (record (.called emission h sender name m.entity)).run m =
      (.ok (), m.after (.called emission h sender name m.entity)) := rfl
  rw [callHandlers, run_bind_ok (run_entity m), run_bind_ok hrecord, run_bind]
  cases (run h.body [sender, .str name]).run
      (m.after (.called emission h sender name m.entity)) with
  | mk r m' => cases r <;> rfl

/-- **Storing and marking is one change of the moment**, as long as slots and mask have a place for
the ordinal. -/
theorem Setter.run_finish {i : ℕ} (hs : s.ordinal = (i : ℤ)) (hw : i < 9223372036854775808)
    (hslot : i < m.entity.slots.length) (hroom : m.entity.mask.HasRoom i) :
    (s.finish run v).run m =
      if s.notifies then
        (notify run m.self s.name).run (m.after (.stored s.name i v))
      else (.ok (), m.after (.stored s.name i v)) := by
  unfold Setter.finish
  rw [hs, run_bind_ok (run_writeSlot m v hw hslot), run_bind_ok (run_record _ _),
    run_bind_ok (run_mark _ (by exact hroom))]
  split
  · rw [run_bind_ok (run_self _)]
    rfl
  · rfl

/-! ### Quiet operations -/

namespace Exec

/-- Whether an operation leaves slots, mask, channel and history as they are. -/
def Quiet (x : Exec α) : Prop :=
  ∀ m, ∃ extras serial,
    (x.run m).2 = { m with entity := { m.entity with extras }, nextSerial := serial }

namespace Quiet

variable {α β : Type} {x : Exec α}

/-- An operation that changes nothing at all. -/
theorem of_unchanged (h : ∀ m, (x.run m).2 = m) : Quiet x := fun m =>
  ⟨m.entity.extras, m.nextSerial, h m⟩

theorem bind {f : α → Exec β} (hx : Quiet x) (hf : ∀ a, Quiet (f a)) : Quiet (x >>= f) := by
  intro m
  obtain ⟨extras, serial, hm⟩ := hx m
  rw [run_bind]
  cases hr : x.run m with
  | mk r m' =>
    rw [hr] at hm
    cases r with
    | error e => exact ⟨extras, serial, hm⟩
    | ok a =>
      -- the second operation begins where the first one left off
      obtain ⟨extras', serial', hm'⟩ := hf a m'
      dsimp only at hm
      refine ⟨extras', serial', ?_⟩
      rw [hm] at hm'
      rw [hm]
      exact hm'

theorem pure (a : α) : Quiet (Pure.pure a) := of_unchanged fun _ => rfl

theorem fail (f : Fault) : Quiet (Exec.fail f : Exec α) := of_unchanged fun _ => rfl

theorem ofExcept (r : Except Fault α) : Quiet (Exec.ofExcept r) :=
  of_unchanged fun m => by rw [run_ofExcept]

theorem entity : Quiet Exec.entity := of_unchanged fun _ => rfl

theorem className : Quiet Exec.className := of_unchanged fun _ => rfl

theorem self : Quiet Exec.self := of_unchanged fun _ => rfl

theorem make (v : Value) : Quiet (Exec.make v) := by
  intro m
  refine ⟨m.entity.extras, (v.make.run m.nextSerial).2, ?_⟩
  show ((Exec.ofExcept (v.make.run m.nextSerial).1).run
    { m with nextSerial := (v.make.run m.nextSerial).2 }).2 = _
  rw [run_ofExcept]

theorem isTrue (v : Value) : Quiet (Exec.isTrue v) := by
  refine bind entity fun e => ?_
  split
  · exact pure _
  · exact pure _

theorem readSlot (ordinal : ℤ) : Quiet (Exec.readSlot ordinal) := by
  unfold Exec.readSlot
  split
  · exact bind (fail _) fun _ => bind entity fun e => by
      split
      · exact fail _
      · exact pure _
  · refine bind entity fun e => ?_
    split
    · exact fail _
    · exact pure _

end Quiet

end Exec

end TrackedEntity
