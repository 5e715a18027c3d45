import Mathlib.Data.Finset.Insert
import Mathlib.Data.List.Sort
import TrackedEntity.Proofs.Entity.History
import TrackedEntity.Proofs.Exec.Emission

/-!
# The reference tracker

A `Tracker` keeps what matters about an entity without slots, ordinals and bits: the current value
of each property by name, the set of names that changed, and the calls that handlers got.  Where no
mutable property has hooks, and as long as the subscribed handlers do nothing but record their
calls, an entity behaves like a tracker.

`Tracks` is the simulation: names stand for ordinals, the current values for slots, the changed
names for bits.  `CallsMade` says that calls of handlers were made: their bodies have run, one after
another, and returned.  Where no mutable property has a setter hook, one attempt to assign a
property keeps to the tracker in both respects (`Follows`) and is answered alike
(`Tracks.attempt`), and so do any number of attempts, whatever becomes of each
(`Tracks.attemptAll_of_unhooked`).
-/

namespace TrackedEntity

open Exec

/-! ### Attempts -/

/-- An attempt to assign a property. -/
inductive Attempt where
  /-- In the syntax of attributes. -/
  | set (name : String) (v : Value)
  /-- By name, asking whether there is such a property at all. -/
  | trySet (name : String) (v : Value)

namespace Attempt

/-- Makes an attempt. -/
def perform (run : Runner) (scene : Scene) : Attempt → Exec Bool
  | .set name v => do
    scene.setAttribute run name v
    return true
  | .trySet name v => scene.trySet run (.str name) v

/-- Makes attempts one after another, whatever becomes of each: the answers, and the moment
afterwards. -/
def performAll (run : Runner) (scene : Scene) :
    List Attempt → Moment → List (Except Halt Bool) × Moment
  | [], m => ([], m)
  | a :: as, m =>
    let (answer, m) := (a.perform run scene).run m
    let (answers, m) := performAll run scene as m
    (answer :: answers, m)

/-- Whether an attempt in the syntax of attributes is about a property. -/
def IsKnown (schema : Schema) : Attempt → Prop
  | .set name _ => ∃ p ∈ schema.properties, p.name = name
  | .trySet _ _ => True

end Attempt

/-- Whether a value equals the current one of a property, asked as the type of the property has it.
-/
def Property.equality (p : Property) (current v : Value) : Verdict :=
  if p.type.isPrimitive then Value.directlyEqual current v else Value.identityFirst current v

/-! ### Trackers -/

/-- What matters about an entity. -/
structure Tracker where
  /-- The current values, by name. -/
  current : String → Value
  changed : Finset String
  /-- The calls of handlers, each with the sender and the name of a property. -/
  calls : List (Handler × Value × String)

namespace Tracker

/-- Nothing has changed yet. -/
def start (schema : Schema) : Tracker where
  current name := ((schema.find? name).map (·.default)).getD .none
  changed := ∅
  calls := []

variable (schema : Schema) (className : String) (subscribed : List Handler)

/-- Assigns a mutable property. -/
def assign (r : Tracker) (p : Property) (v : Value) : Except Halt Bool × Tracker :=
  match p.equality (r.current p.name) v with
  | .error f => (.error (.fault f), r)
  | .ok true => (.ok true, r)
  | .ok false =>
    (.ok true, {
      current := Function.update r.current p.name v
      changed := insert p.name r.changed
      calls := r.calls ++ subscribed.map fun h => (h, .entity className, p.name) })

/-- Makes an attempt. -/
def attempt (r : Tracker) : Attempt → Except Halt Bool × Tracker
  | .set name v =>
    match schema.find? name with
    | some p =>
      if p.mutable then r.assign className subscribed p v
      else (.error (.fault (.noSetter name className)), r)
    | none => (.ok false, r)
  | .trySet name v =>
    match schema.find? name with
    | some p => if p.mutable then r.assign className subscribed p v else (.ok false, r)
    | none => (.ok false, r)

/-- Makes attempts one after another: the answers, and the tracker afterwards. -/
def attemptAll (r : Tracker) : List Attempt → List (Except Halt Bool) × Tracker
  | [] => ([], r)
  | a :: as =>
    let (answer, r) := r.attempt schema className subscribed a
    let (answers, r) := attemptAll r as
    (answer :: answers, r)

end Tracker

/-! ### Handlers that only record their calls -/

/-- Whether all that a handler does is to write to the log, and perhaps to make objects. -/
def Handler.OnlyRecords (run : Runner) (h : Handler) : Prop :=
  ∀ sender name m, ∃ (answer : Value) (logged : List Value) (serial : ℕ),
    (run h.body [sender, .str name]).run m = (.ok answer,
      { m with history := m.history ++ logged.map .logged, nextSerial := serial })

/-- Whether what a handler writes to the log depends on its sender and the name that it is told, and
all else that it does is perhaps to make objects. -/
def Handler.Records (run : Runner) (records : Value → String → List Value) (h : Handler) : Prop :=
  ∀ sender name m, ∃ (answer : Value) (serial : ℕ),
    (run h.body [sender, .str name]).run m = (.ok answer,
      { m with history := m.history ++ (records sender name).map .logged, nextSerial := serial })

theorem Handler.Records.onlyRecords {run : Runner} {records : Value → String → List Value}
    {h : Handler} (hrec : h.Records run records) : h.OnlyRecords run := by
  intro sender name m
  obtain ⟨answer, serial, hbody⟩ := hrec sender name m
  exact ⟨answer, records sender name, serial, hbody⟩

/-- The call of a handler that an event was. -/
def Event.call? : Event → Option (Handler × Value × String)
  | .called _ h sender name _ => some (h, sender, name)
  | _ => none

/-- The calls of handlers in a history, in order. -/
def callsIn (history : List Event) : List (Handler × Value × String) :=
  history.filterMap Event.call?

/-- The values that were written to the log in a history, in order. -/
def loggedIn (history : List Event) : List Value := history.filterMap Event.logged?

theorem callsIn_append (xs ys : List Event) : callsIn (xs ++ ys) = callsIn xs ++ callsIn ys :=
  List.filterMap_append

theorem loggedIn_append (xs ys : List Event) : loggedIn (xs ++ ys) = loggedIn xs ++ loggedIn ys :=
  List.filterMap_append

theorem callsIn_logged (vs : List Value) : callsIn (vs.map .logged) = [] := by
  rw [callsIn, List.filterMap_eq_nil_iff]
  intro event hevent
  obtain ⟨v, -, rfl⟩ := List.mem_map.1 hevent
  rfl

theorem loggedIn_logged (vs : List Value) : loggedIn (vs.map .logged) = vs := by
  rw [loggedIn, List.filterMap_map]
  exact List.filterMap_some

/-! ### Calls one after another -/

/-- The calls of handlers that were made between two moments, one after another.  Each is noted, and
runs the body of the handler, which returns.  Other events neither call handlers nor write to the
log. -/
inductive CallsMade (run : Runner) : List (Handler × Value × String) → Moment → Moment → Prop
  | nil (m : Moment) : CallsMade run [] m m
  | other {calls : List (Handler × Value × String)} {m m' : Moment} {event : Event}
      (hcall : event.call? = none) (hlog : event.logged? = none)
      (rest : CallsMade run calls (m.after event) m') : CallsMade run calls m m'
  | call {calls : List (Handler × Value × String)} {m m₁ m' : Moment} {emission : ℕ} {h : Handler}
      {sender : Value} {name : String} {answer : Value}
      (body : (run h.body [sender, .str name]).run
        (m.after (.called emission h sender name m.entity)) = (.ok answer, m₁))
      (rest : CallsMade run calls m₁ m') : CallsMade run ((h, sender, name) :: calls) m m'

variable {run : Runner} {calls calls' : List (Handler × Value × String)} {m m₁ m' : Moment}

namespace CallsMade

theorem append (h : CallsMade run calls m m₁) (h' : CallsMade run calls' m₁ m') :
    CallsMade run (calls ++ calls') m m' := by
  induction h with
  | nil m => exact h'
  | other hcall hlog _ ih => exact .other hcall hlog (ih h')
  | call body _ ih => exact .call body (ih h')

/-- Handlers that are called on behalf of an emission and return. -/
theorem of_returned {emission : ℕ} {sender : Value} {name : String} {hs : List Handler}
    (h : Returned run emission sender name hs m m') :
    CallsMade run (hs.map fun hd => (hd, sender, name)) m m' := by
  induction h with
  | nil m => exact .nil m
  | cons body _ ih => exact .call body ih

/-- The calls are those in the history, if the handlers only record them. -/
theorem callsIn_eq (h : CallsMade run calls m m') (hrec : ∀ call ∈ calls, call.1.OnlyRecords run) :
    callsIn m'.history = callsIn m.history ++ calls := by
  induction h with
  | nil m => exact (List.append_nil _).symm
  | @other calls m m' event hcall _ _ ih =>
    have hevent : callsIn [event] = [] := by simp [callsIn, hcall]
    rw [ih hrec]
    show callsIn (m.history ++ [event]) ++ calls = _
    rw [callsIn_append, hevent, List.append_nil]
  | @call calls m m₁ m' emission hd sender name answer body _ ih =>
    obtain ⟨answer', logged, serial, hbody⟩ :=
      hrec _ List.mem_cons_self sender name (m.after (.called emission hd sender name m.entity))
    obtain ⟨-, rfl⟩ := Prod.mk.inj (hbody.symm.trans body)
    rw [ih fun call hmem => hrec call (List.mem_cons_of_mem _ hmem)]
    show callsIn ((m.history ++ [_]) ++ logged.map .logged) ++ calls = _
    rw [callsIn_append, callsIn_append, callsIn_logged, List.append_nil, List.append_assoc]
    rfl

/-- **The log tells the calls**: it has grown by what each of them records, in order. -/
theorem loggedIn_eq {records : Handler → Value → String → List Value}
    (h : CallsMade run calls m m') (hrec : ∀ call ∈ calls, call.1.Records run (records call.1)) :
    loggedIn m'.history =
      loggedIn m.history ++ calls.flatMap fun call => records call.1 call.2.1 call.2.2 := by
  induction h with
  | nil m => exact (List.append_nil _).symm
  | @other calls m m' event _ hlog _ ih =>
    have hevent : loggedIn [event] = [] := by simp [loggedIn, hlog]
    rw [ih hrec]
    show loggedIn (m.history ++ [event]) ++ _ = _
    rw [loggedIn_append, hevent, List.append_nil]
  | @call calls m m₁ m' emission hd sender name answer body _ ih =>
    obtain ⟨answer', serial, hbody⟩ :=
      hrec _ List.mem_cons_self sender name (m.after (.called emission hd sender name m.entity))
    obtain ⟨-, rfl⟩ := Prod.mk.inj (hbody.symm.trans body)
    have hcalled : loggedIn [Event.called emission hd sender name m.entity] = [] := rfl
    rw [ih fun call hmem => hrec call (List.mem_cons_of_mem _ hmem)]
    show loggedIn ((m.history ++ [_]) ++ (records hd sender name).map .logged) ++ _ = _
    rw [loggedIn_append, loggedIn_append, hcalled, loggedIn_logged, List.append_nil,
      List.append_assoc, List.flatMap_cons]

end CallsMade

/-- Handlers that only record their calls return one after another, and leave the entity alone. -/
theorem exists_returned {hs : List Handler} (hrec : ∀ h ∈ hs, h.OnlyRecords run) (emission : ℕ)
    (sender : Value) (name : String) (m : Moment) :
    ∃ m', Returned run emission sender name hs m m' ∧ m'.entity = m.entity := by
  induction hs generalizing m with
  | nil => exact ⟨m, .nil m, rfl⟩
  | cons h hs ih =>
    obtain ⟨answer, logged, serial, hbody⟩ :=
      hrec h List.mem_cons_self sender name (m.after (.called emission h sender name m.entity))
    obtain ⟨m', hm', hentity⟩ := ih (fun h' hmem => hrec h' (List.mem_cons_of_mem _ hmem)) _
    exact ⟨m', .cons hbody hm', hentity⟩

namespace CompiledType

variable {t : CompiledType}

/-! ### Assignments without hooks -/

/-- Without setter hook the current value decides. -/
theorem run_goesAhead_of_unhooked (ht : t.Aligned) (h : t.Sound m.entity) {i : ℕ} {p : Property}
    (hp : t.schema.mutable[i]? = some p) (hx : p.extension.bind (·.setter) = none)
    {current : Value} (hv : m.entity.slots[i]? = some current) (v : Value) :
    ((p.compiledSetter t.schema.needsNotification).goesAhead run v).run m =
      match p.equality current v with
      | .error f => (.error (.fault f), m)
      | .ok equal => (.ok (!equal), m) := by
  have hhook : (p.compiledSetter t.schema.needsNotification).hook = none := hx
  have hequality : (if (p.compiledSetter t.schema.needsNotification).direct then
      Value.directlyEqual current v else Value.identityFirst current v) =
        p.equality current v := rfl
  have hread : (readSlot (p.compiledSetter t.schema.needsNotification).ordinal).run m =
      (.ok current, m) := run_readSlot_ordinal ht h hp hv
  unfold Setter.goesAhead
  simp only [hhook]
  rw [run_bind_ok hread, hequality, run_bind, run_ofExcept]
  cases p.equality current v with
  | error f => rfl
  | ok equal => rfl

/-- **An assignment without hook**, with handlers that only record their calls. -/
theorem run_assign_of_unhooked (ht : t.Aligned) (h : t.Sound m.entity)
    (hrec : ∀ hd ∈ m.entity.handlers, hd.OnlyRecords run) {i : ℕ} {p : Property}
    (hp : t.schema.mutable[i]? = some p) (hx : p.extension.bind (·.setter) = none)
    {current : Value} (hv : m.entity.slots[i]? = some current) (v : Value) :
    match p.equality current v with
    | .error f => ((p.compiledSetter t.schema.needsNotification).assign run v).run m =
        (.error (.fault f), m)
    | .ok true => ((p.compiledSetter t.schema.needsNotification).assign run v).run m = (.ok (), m)
    | .ok false =>
      ∃ m', ((p.compiledSetter t.schema.needsNotification).assign run v).run m = (.ok (), m') ∧
        m'.entity = m.entity.after (.stored p.name i v) ∧
        CallsMade run (m.entity.handlers.map fun hd => (hd, m.self, p.name)) m m' := by
  rw [Setter.run_assign, run_goesAhead_of_unhooked ht h hp hx hv]
  match p.equality current v with
  | .error f => rfl
  | .ok true => rfl
  | .ok false =>
    -- the store, and then the emission if there is a channel
    show ∃ m', ((p.compiledSetter t.schema.needsNotification).finish run v).run m = (.ok (), m') ∧ _
    rw [ht.run_finish h hp]
    cases hn : t.schema.needsNotification with
    | false =>
      rw [h.handlers_eq_nil hn]
      exact ⟨m.after (.stored p.name i v), rfl, rfl, .other rfl rfl (.nil _)⟩
    | true =>
      obtain ⟨c, hc⟩ := h.exists_channel hn
      have hc' : (m.after (.stored p.name i v)).entity.channel = some c := hc
      have hhandlers : m.entity.handlers = c.handlers := EntityState.handlers_of_channel hc
      rw [hhandlers] at hrec
      obtain ⟨m', hm', hentity⟩ := exists_returned hrec
        (m.after (.stored p.name i v)).history.length m.self p.name
        ((m.after (.stored p.name i v)).after (.emitted p.name c.handlers))
      have hall := hm'.run_callHandlers []
      rw [List.append_nil] at hall
      refine ⟨m', ?_, hentity, ?_⟩
      · rw [if_pos rfl, run_notify hc', hall]
        rfl
      · rw [hhandlers]
        exact .other rfl rfl (.other rfl rfl (.of_returned hm'))

/-! ### The simulation -/

/-- Whether an entity with some subscribed handlers is in the state that a tracker tells. -/
structure Tracks (t : CompiledType) (className : String) (subscribed : List Handler) (r : Tracker)
    (e : EntityState) : Prop where
  sound : t.Sound e
  slot : ∀ {i : ℕ} {p : Property}, t.schema.mutable[i]? = some p →
    e.slots[i]? = some (r.current p.name)
  marked : ∀ {i : ℕ} {p : Property}, t.schema.mutable[i]? = some p →
    e.mask.has i = decide (p.name ∈ r.changed)
  within : ∀ {name : String}, name ∈ r.changed → ∃ p ∈ t.schema.mutable, p.name = name
  handlers : e.handlers = subscribed
  className : e.className = className

namespace Tracks

variable {className : String} {subscribed : List Handler} {r : Tracker} {e : EntityState}

/-- A store in the entity is an update of the tracker. -/
theorem stored (ht : t.Aligned) (h : t.Tracks className subscribed r e) {i : ℕ} {p : Property}
    (hp : t.schema.mutable[i]? = some p) (v : Value)
    (calls : List (Handler × Value × String)) :
    t.Tracks className subscribed
      { current := Function.update r.current p.name v, changed := insert p.name r.changed, calls }
      (e.after (.stored p.name i v)) := by
  have hi := lt_mutableCount hp
  have hlt : i < e.slots.length := by
    rw [h.sound.length_slots]
    exact hi
  refine ⟨h.sound.stored hi p.name v, ?_, ?_, ?_, h.handlers, h.className⟩
  · -- the slots
    intro j q hq
    show (e.slots.set i v)[j]? = some (Function.update r.current p.name v q.name)
    by_cases hij : i = j
    · subst hij
      obtain rfl : p = q := Option.some.inj (hp.symm.trans hq)
      rw [List.getElem?_set_self hlt, Function.update_self]
    · have hname : q.name ≠ p.name := fun heq => hij (ht.index_inj hp hq heq.symm)
      rw [List.getElem?_set_ne hij, h.slot hq, Function.update_of_ne hname]
  · -- the bits
    intro j q hq
    show (e.mask.insert i).has j = _
    rw [Mask.has_insert (h.sound.hasRoom hi), h.marked hq, ← Bool.decide_or]
    refine decide_eq_decide.2 ?_
    rw [Finset.mem_insert]
    refine or_congr ⟨?_, ?_⟩ Iff.rfl
    · rintro rfl
      exact congrArg Property.name (Option.some.inj (hq.symm.trans hp))
    · exact fun heq => ht.index_inj hq hp heq
  · intro name hname
    rcases Finset.mem_insert.1 hname with rfl | hname
    · exact ⟨p, List.mem_of_getElem? hp, rfl⟩
    · exact h.within hname

end Tracks

/-- Whether what happened between two moments is what made a tracker into another one: the entity is
in the state of this one in the end, and the calls that it has more were made. -/
structure Follows (t : CompiledType) (run : Runner) (className : String) (subscribed : List Handler)
    (r r' : Tracker) (m m' : Moment) : Prop where
  tracks : t.Tracks className subscribed r' m'.entity
  calls : ∃ calls, r'.calls = r.calls ++ calls ∧ (∀ call ∈ calls, call.1 ∈ subscribed) ∧
    CallsMade run calls m m'

section Attempts

variable {className : String} {subscribed : List Handler} {r r₁ r' : Tracker}

theorem Tracks.follows (h : t.Tracks className subscribed r m.entity) :
    t.Follows run className subscribed r r m m :=
  ⟨h, [], (List.append_nil _).symm, nofun, .nil m⟩

theorem Follows.trans (h : t.Follows run className subscribed r r₁ m m₁)
    (h' : t.Follows run className subscribed r₁ r' m₁ m') :
    t.Follows run className subscribed r r' m m' := by
  obtain ⟨calls, hr, hfrom, hcalls⟩ := h.calls
  obtain ⟨calls', hr', hfrom', hcalls'⟩ := h'.calls
  refine ⟨h'.tracks, calls ++ calls', ?_, ?_, hcalls.append hcalls'⟩
  · rw [hr', hr, List.append_assoc]
  · intro call hmem
    rcases List.mem_append.1 hmem with hmem | hmem
    · exact hfrom call hmem
    · exact hfrom' call hmem

variable (ht : t.Aligned)
  (hunhooked : ∀ p ∈ t.schema.mutable, p.extension.bind (·.setter) = none)
  (hrec : ∀ hd ∈ subscribed, hd.OnlyRecords run) (h : t.Tracks className subscribed r m.entity)
include ht hunhooked hrec h

/-- **Assigning a mutable property** does to the entity what it does to the tracker. -/
theorem Tracks.assign {i : ℕ} {p : Property} (hp : t.schema.mutable[i]? = some p) (v : Value) :
    ∃ m', ((p.compiledSetter t.schema.needsNotification).assign run v >>=
          fun _ => pure true).run m =
        ((r.assign className subscribed p v).1, m') ∧
      t.Follows run className subscribed r (r.assign className subscribed p v).2 m m' := by
  have hassign := run_assign_of_unhooked ht h.sound (h.handlers ▸ hrec) hp
    (hunhooked p (List.mem_of_getElem? hp)) (h.slot hp) v
  unfold Tracker.assign
  match hverdict : p.equality (r.current p.name) v with
  | .error f =>
    rw [hverdict] at hassign
    exact ⟨m, run_bind_error hassign, h.follows⟩
  | .ok true =>
    rw [hverdict] at hassign
    exact ⟨m, run_bind_ok hassign, h.follows⟩
  | .ok false =>
    rw [hverdict] at hassign
    obtain ⟨m', hm', hentity, hcalls⟩ := hassign
    have hself : m.self = .entity className := by rw [Moment.self, h.className]
    rw [h.handlers, hself] at hcalls
    refine ⟨m', run_bind_ok hm', ?_, _, rfl, ?_, hcalls⟩
    · rw [hentity]
      exact h.stored ht hp v _
    · intro call hmem
      obtain ⟨hd, hsubscribed, rfl⟩ := List.mem_map.1 hmem
      exact hsubscribed

/-- **One attempt** does to the entity what it does to the tracker, and both answer alike. -/
theorem Tracks.attempt (handlers : Table String HandlerSpec) {a : Attempt}
    (ha : a.IsKnown t.schema) :
    ∃ m', (a.perform run (t.scene handlers)).run m =
        ((r.attempt t.schema className subscribed a).1, m') ∧
      t.Follows run className subscribed r (r.attempt t.schema className subscribed a).2 m m' := by
  have hmutable : ∀ {p : Property}, p ∈ t.schema.properties → p.mutable = true →
      ∃ i, t.schema.mutable[i]? = some p :=
    fun hp hm => List.mem_iff_getElem?.1 (List.mem_filter.2 ⟨hp, hm⟩)
  cases a with
  | set name v =>
    obtain ⟨p, hp, rfl⟩ := ha
    have hfind : t.schema.find? p.name = some p := ht.find?_eq_some_iff.2 ⟨hp, rfl⟩
    have htoken : (t.scene handlers).tokens.get? p.name =
        some (p.compiledToken t.schema.needsNotification) := ht.get?_token hp
    simp only [Tracker.attempt, hfind, Attempt.perform, Scene.setAttribute, htoken]
    by_cases hm : p.mutable = true
    · obtain ⟨i, hi⟩ := hmutable hp hm
      simp only [setter_compiledToken hm, if_pos hm]
      exact h.assign ht hunhooked hrec hi v
    · simp only [setter_compiledToken_of_not hm, if_neg hm]
      refine ⟨m, ?_, h.follows⟩
      rw [← h.className]
      rfl
  | trySet name v =>
    simp only [Tracker.attempt, Attempt.perform]
    cases hfind : t.schema.find? name with
    | none =>
      have hnone : t.tokens.get? name = none := by
        rw [ht.get?_tokens_eq_none]
        rintro p hp rfl
        rw [ht.find?_eq_some_iff.2 ⟨hp, rfl⟩] at hfind
        cases hfind
      exact ⟨m, run_trySet_of_no_setter v (by rw [hnone, Option.bind_none]), h.follows⟩
    | some p =>
      obtain ⟨hp, rfl⟩ := ht.find?_eq_some_iff.1 hfind
      have hsetter : (t.tokens.get? p.name).bind (·.setter) =
          (p.compiledToken t.schema.needsNotification).setter := by
        rw [ht.get?_token hp, Option.bind_some]
      by_cases hm : p.mutable = true
      · obtain ⟨i, hi⟩ := hmutable hp hm
        rw [setter_compiledToken hm] at hsetter
        rw [run_trySet_of_setter v hsetter]
        simp only [if_pos hm]
        exact h.assign ht hunhooked hrec hi v
      · rw [setter_compiledToken_of_not hm] at hsetter
        simp only [if_neg hm]
        exact ⟨m, run_trySet_of_no_setter v hsetter, h.follows⟩

/-- **Any number of attempts** do to the entity what they do to the tracker, and both answer
alike. -/
theorem Tracks.attemptAll_of_unhooked (handlers : Table String HandlerSpec)
    {attempts : List Attempt} (hknown : ∀ a ∈ attempts, a.IsKnown t.schema) :
    ∃ m', Attempt.performAll run (t.scene handlers) attempts m =
        ((r.attemptAll t.schema className subscribed attempts).1, m') ∧
      t.Follows run className subscribed r
        (r.attemptAll t.schema className subscribed attempts).2 m m' := by
  induction attempts generalizing r m with
  | nil => exact ⟨m, rfl, h.follows⟩
  | cons a attempts ih =>
    obtain ⟨m₁, hm₁, h₁⟩ :=
      h.attempt ht hunhooked hrec handlers (hknown a List.mem_cons_self)
    obtain ⟨m₂, hm₂, h₂⟩ := ih h₁.tracks fun b hb => hknown b (List.mem_cons_of_mem a hb)
    refine ⟨m₂, ?_, h₁.trans h₂⟩
    simp only [Attempt.performAll, hm₁, hm₂, Tracker.attemptAll]

end Attempts

/-! ### The start and the reports -/

/-- A new entity, with any subscribers, is in the state of a tracker for which nothing changed. -/
theorem Aligned.tracks_start (ht : t.Aligned) {e : EntityState}
    (he : t.newEntity = .ok e ∨ ∃ className, t.newDerived className = .ok e)
    (c : Channel Handler) :
    t.Tracks e.className (EntityState.handlers { e with channel := e.channel.map fun _ => c })
      (.start t.schema) { e with channel := e.channel.map fun _ => c } := by
  have hnew : t.Sound e ∧ e.slots = t.defaults ∧ ∀ i, e.mask.has i = false := by
    rcases he with he | ⟨className, he⟩
    · refine ⟨ht.sound_new he, ?_⟩
      obtain ⟨mask, hmask, he⟩ := Outcome.bind_eq_ok.1 he
      obtain rfl := Except.ok.inj he
      exact ⟨rfl, Layout.has_new hmask⟩
    · refine ⟨ht.sound_derived he, ?_⟩
      obtain ⟨e₀, he₀, he⟩ := Outcome.bind_eq_ok.1 he
      obtain rfl := Except.ok.inj he
      obtain ⟨mask, hmask, he₀⟩ := Outcome.bind_eq_ok.1 he₀
      obtain rfl := Except.ok.inj he₀
      exact ⟨rfl, Layout.has_new hmask⟩
  obtain ⟨hsound, hslots, hmask⟩ := hnew
  refine ⟨⟨hsound.allocated, hsound.length_slots, hsound.fits, hsound.default_of_unmarked, ?_⟩,
    ?_, ?_, ?_, rfl, rfl⟩
  · rw [Option.isSome_map]
    exact hsound.isSome_channel
  · intro i p hp
    have hfind : t.schema.find? p.name = some p :=
      ht.find?_eq_some_iff.2 ⟨(mem_properties hp).1, rfl⟩
    show e.slots[i]? = some (((t.schema.find? p.name).map (·.default)).getD .none)
    rw [hslots, ht.defaults_eq, List.getElem?_map, hp, hfind]
    rfl
  · intro i p _
    show e.mask.has i = _
    rw [hmask i]
    simp [Tracker.start]
  · intro name hname
    simp [Tracker.start] at hname

/-- The marked ordinals are those below the number of mutable properties that the mask has. -/
theorem Sound.ordinals_eq {e : EntityState} (h : t.Sound e) :
    e.mask.ordinals = (List.range t.schema.mutableCount).filter e.mask.has := by
  refine List.Pairwise.eq_of_mem_iff e.mask.pairwise_ordinals
    (List.pairwise_lt_range.filter _) fun i => ?_
  rw [Mask.mem_ordinals, List.mem_filter, List.mem_range]
  exact ⟨fun hi => ⟨h.lt_of_has hi, hi⟩, fun hi => hi.2⟩

/-- Going through the places of a list is going through the list. -/
theorem map_filter_range' {α β : Type} {xs : List α} {first : ℕ} {has : ℕ → Bool}
    {keep : α → Bool} {f : ℕ → β} {g : α → β}
    (h : ∀ (i : ℕ) x, xs[i]? = some x → has (first + i) = keep x ∧ f (first + i) = g x) :
    ((List.range' first xs.length).filter has).map f = (xs.filter keep).map g := by
  induction xs generalizing first with
  | nil => rfl
  | cons x xs ih =>
    obtain ⟨hkeep, hg⟩ := h 0 x rfl
    rw [Nat.add_zero] at hkeep hg
    have hrest : ((List.range' (first + 1) xs.length).filter has).map f = (xs.filter keep).map g :=
      ih fun i y hy => by
        rw [Nat.add_right_comm, Nat.add_assoc]
        exact h (i + 1) y hy
    rw [List.length_cons, List.range'_succ, List.filter_cons, List.filter_cons, hkeep]
    cases keep x with
    | false => exact hrest
    | true =>
      simp only [↓reduceIte, List.map_cons]
      rw [hrest, hg]

namespace Tracks

variable {className : String} {subscribed : List Handler} {r : Tracker} {e : EntityState}

/-- The changes that are reported are those of the tracker, in the order of the properties. -/
theorem reported_eq (ht : t.Aligned) (h : t.Tracks className subscribed r e) :
    t.reported e e.mask.ordinals =
      (t.schema.mutable.filter fun p => decide (p.name ∈ r.changed)).map
        fun p => (p.name, r.current p.name) := by
  rw [h.sound.ordinals_eq, List.range_eq_range', reported]
  refine map_filter_range' fun i p hp => ?_
  rw [Nat.zero_add]
  refine ⟨h.marked hp, ?_⟩
  simp only [ht.names_eq, List.getD_eq_getElem?_getD, List.getElem?_map, hp, h.slot hp,
    Option.map_some, Option.getD_some]

/-- The mask has something when the tracker has. -/
theorem any_eq (h : t.Tracks className subscribed r e) :
    e.mask.any = decide r.changed.Nonempty := by
  rw [Bool.eq_iff_iff, decide_eq_true_eq, Mask.any_iff]
  constructor
  · rintro ⟨i, hi⟩
    have hlt := h.sound.lt_of_has hi
    have hp : t.schema.mutable[i]? = some t.schema.mutable[i] := List.getElem?_eq_getElem hlt
    rw [h.marked hp, decide_eq_true_eq] at hi
    exact ⟨_, hi⟩
  · rintro ⟨name, hname⟩
    obtain ⟨p, hp, rfl⟩ := h.within hname
    obtain ⟨i, hi⟩ := List.mem_iff_getElem?.1 hp
    exact ⟨i, by rw [h.marked hi, decide_eq_true hname]⟩

end Tracks

/-- **Change tracking refines the reference tracker.**  Take a contract that compiles without hooks
for its mutable properties, a new entity of it, subscribers that only record their calls, and any
attempts to assign its properties.  Then the attempts are answered as the tracker answers them,
faults included, and afterwards reading attributes, the changes, the question for changes, and
reading by name all report the state of the tracker.

The calls of the tracker have been made, and no others: one after another the bodies of the handlers
have run and returned.  So where it depends on sender and name what the handlers record, the log has
grown by what they record of these calls, in order. -/
theorem refines_tracker {t : CompiledType} {catalog : Catalog} {settings : Settings}
    {contract : Contract} (h : catalog.compile settings contract = .ok t)
    (hplain : ∀ p ∈ t.schema.mutable, p.extension = none) {e₀ e : EntityState}
    (hnew : t.newEntity = .ok e₀ ∨ ∃ className, t.newDerived className = .ok e₀)
    (c : Channel Handler) (he : e = { e₀ with channel := e₀.channel.map fun _ => c })
    {run : Runner} (hrec : ∀ hd ∈ e.handlers, hd.OnlyRecords run)
    (handlers : Table String HandlerSpec) (past : List Event) (serial : ℕ)
    {attempts : List Attempt} (hknown : ∀ a ∈ attempts, a.IsKnown t.schema)
    {answers : List (Except Halt Bool)} {r : Tracker}
    (hr : (Tracker.start t.schema).attemptAll t.schema e.className e.handlers attempts =
      (answers, r)) :
    ∃ m, Attempt.performAll run (t.scene handlers) attempts ⟨e, past, serial⟩ = (answers, m) ∧
      (∀ p ∈ t.schema.mutable, ((t.scene handlers).getAttribute run p.name).run m =
        (.ok (r.current p.name), m)) ∧
      ((t.scene handlers).changes run).run m =
        (.ok ((t.schema.mutable.filter fun p => decide (p.name ∈ r.changed)).map
          fun p => (p.name, r.current p.name)), m) ∧
      ((t.scene handlers).hasChanges []).run m = (.ok (decide r.changed.Nonempty), m) ∧
      ((t.scene handlers).hasChanges [.none]).run m = (.ok (decide r.changed.Nonempty), m) ∧
      (∀ names : List String, names ≠ [] →
        ((t.scene handlers).hasChanges (names.map .str)).run m =
          (.ok (names.any fun name => decide (name ∈ r.changed)), m)) ∧
      (∀ p ∈ t.schema.mutable, ((t.scene handlers).tryGet run (.str p.name)).run m =
        (.ok (if p.name ∈ r.changed then some (r.current p.name) else none), m)) ∧
      CallsMade run r.calls ⟨e, past, serial⟩ m ∧
      callsIn m.history = callsIn past ++ r.calls ∧
      (∀ records : Handler → Value → String → List Value,
        (∀ hd ∈ e.handlers, hd.Records run (records hd)) →
        loggedIn m.history = loggedIn past ++
          r.calls.flatMap fun call => records call.1 call.2.1 call.2.2) := by
  have ht := aligned_of_compile h
  have hunhooked : ∀ p ∈ t.schema.mutable, p.extension.bind (·.setter) = none := by
    intro p hp
    rw [hplain p hp, Option.bind_none]
  have hstart := ht.tracks_start hnew c
  rw [← he, show e₀.className = e.className by rw [he]] at hstart
  obtain ⟨m, hm, hfollows⟩ := Tracks.attemptAll_of_unhooked (m := ⟨e, past, serial⟩) ht hunhooked
    hrec hstart handlers hknown
  rw [hr] at hm hfollows
  have htracks := hfollows.tracks
  have hs := htracks.sound
  obtain ⟨calls, hcalls, hfrom, hmade⟩ := hfollows.calls
  obtain rfl : r.calls = calls := hcalls
  refine ⟨m, hm, ?_, ?_, ?_, ?_, ?_, ?_, hmade,
    hmade.callsIn_eq fun call hmem => hrec call.1 (hfrom call hmem),
    fun records hrecords => hmade.loggedIn_eq fun call hmem => hrecords call.1 (hfrom call hmem)⟩
  · -- reading an attribute
    intro p hp
    obtain ⟨i, hi⟩ := List.mem_iff_getElem?.1 hp
    have htoken : (t.scene handlers).tokens.get? p.name =
        some (p.compiledToken t.schema.needsNotification) := ht.get?_token (mem_properties hi).1
    unfold Scene.getAttribute
    rw [htoken]
    exact run_getter ht hs hi (htracks.slot hi) (hplain p hp)
  · rw [run_changes ht hs, htracks.reported_eq ht]
  · rw [run_hasChanges, htracks.any_eq]
  · rw [← htracks.any_eq]
    rfl
  · -- the question for changes of given names
    intro names hnames
    refine run_hasChanges_of_names ht hs (fun i p hp => htracks.marked hp) ?_ hnames
    intro name hother
    rw [decide_eq_false_iff_not]
    intro hname
    obtain ⟨p, hp, hpname⟩ := htracks.within hname
    exact hother p hp hpname
  · -- reading by name
    intro p hp
    obtain ⟨i, hi⟩ := List.mem_iff_getElem?.1 hp
    rw [run_tryGet ht hs hi (htracks.slot hi), htracks.marked hi]
    simp only [decide_eq_true_eq]

end CompiledType

namespace Sample

/-- A contract of a width and a height without hooks. -/
def box : ClassDef where
  name := "IBox"
  qualname := "IBox"
  module := "shapes"
  bases := [.notifyPropertyChanged]
  attributes := [("width", .plain .int), ("height", .plain .int)]
  members := []

/-- The catalog of the contract. -/
def boxes : Catalog := ⟨⟨[box]⟩, []⟩

theorem isSome_compile_box :
    (boxes.compile .default (.ofClass (.declared 0))).toOption.isSome = true := by rfl

/-- The type that the contract compiles to. -/
def boxType : CompiledType :=
  (boxes.compile .default (.ofClass (.declared 0))).toOption.get isSome_compile_box

/-- A new entity of the type. -/
def newBox : EntityState := ⟨"Box", [.int 0, .int 0], .scalar 0, some .empty, some []⟩

/-- A handler that writes down which property it is told about. -/
def recorder : Handler := ⟨"recorder", .itself "recorder", .log (.arg 1)⟩

/-- A handler that writes down who tells it, and about which property. -/
def clerk : Handler := ⟨"clerk", .itself "clerk", .seq [.log (.arg 0), .log (.arg 1)]⟩

/-- What the two handlers write down. -/
def recordsOf (h : Handler) (sender : Value) (name : String) : List Value :=
  if h.name = "recorder" then [.str name] else [sender, .str name]

theorem records_recorder (scene : Scene) :
    recorder.Records (scene.run 1) (recordsOf recorder) :=
  fun _ name m => ⟨.str name, m.nextSerial, rfl⟩

theorem records_clerk (scene : Scene) : clerk.Records (scene.run 1) (recordsOf clerk) := by
  intro sender name m
  refine ⟨.str name, m.nextSerial, ?_⟩
  have hlogged : (m.history ++ [.logged sender]) ++ [.logged (.str name)] =
      m.history ++ (recordsOf clerk sender name).map .logged := List.append_assoc _ _ _
  rw [← hlogged]
  rfl

end Sample

open Sample in
/-- Of five attempts the first one changes the width and the last one the height, which both
handlers are told in the order of their subscription.  The second one is without effect, the third
one finds no property, and the comparison in the fourth one raises. -/
theorem CompiledType.refines_tracker_box :
    ∃ m, Attempt.performAll ((boxType.scene []).run 1) (boxType.scene [])
        [.set "width" (.int 5), .trySet "width" (.int 5), .trySet "depth" (.int 1),
          .set "height" (.comparer (.made 0) "odd" (.raises .value "no")),
          .trySet "height" (.int 2)]
        ⟨⟨"Box", [.int 0, .int 0], .scalar 0, some ⟨⟨1, [clerk, recorder]⟩, 2⟩, some []⟩, [], 0⟩ =
          ([.ok true, .ok true, .ok false, .error (.fault (.raised .value "no")), .ok true], m) ∧
      ((boxType.scene []).changes ((boxType.scene []).run 1)).run m =
        (.ok [("width", .int 5), ("height", .int 2)], m) ∧
      callsIn m.history = [(clerk, .entity "Box", "width"), (recorder, .entity "Box", "width"),
        (clerk, .entity "Box", "height"), (recorder, .entity "Box", "height")] ∧
      loggedIn m.history = [.entity "Box", .str "width", .str "width", .entity "Box",
        .str "height", .str "height"] := by
  have hplain : ∀ p ∈ boxType.schema.mutable, p.extension = none := by
    intro p hp
    rcases List.mem_cons.1 hp with rfl | hp
    · rfl
    · rcases List.mem_singleton.1 hp with rfl
      rfl
  have hrecords : ∀ hd ∈ [clerk, recorder],
      hd.Records ((boxType.scene []).run 1) (recordsOf hd) := by
    simp only [List.forall_mem_cons]
    exact ⟨records_clerk _, records_recorder _, by simp⟩
  have hknown : ∀ a ∈ [Attempt.set "width" (.int 5), .trySet "width" (.int 5),
      .trySet "depth" (.int 1), .set "height" (.comparer (.made 0) "odd" (.raises .value "no")),
      .trySet "height" (.int 2)], a.IsKnown boxType.schema := by
    simp only [List.forall_mem_cons]
    exact ⟨⟨_, List.mem_cons_self, rfl⟩, trivial, trivial,
      ⟨_, List.mem_cons_of_mem _ List.mem_cons_self, rfl⟩, trivial, by simp⟩
  have hcompile : boxes.compile .default (.ofClass (.declared 0)) = .ok boxType := rfl
  have hnew : boxType.newEntity = .ok newBox := rfl
  obtain ⟨m, hm, -, hchanges, -, -, -, -, -, hcalls, hlogged⟩ :=
    refines_tracker hcompile hplain (.inl hnew) ⟨⟨1, [clerk, recorder]⟩, 2⟩ rfl
      (fun hd hhd => (hrecords hd hhd).onlyRecords) [] [] 0 hknown rfl
  exact ⟨m, hm, hchanges, hcalls, hlogged recordsOf hrecords⟩

end TrackedEntity
