import Mathlib.Logic.Relation
import TrackedEntity.Proofs.Entity.Emission
import TrackedEntity.Proofs.Entity.Reentrancy
import TrackedEntity.Proofs.Exec.Nesting

/-!
# What faults leave behind

An assignment can end early at four points: the comparison of the stored value with the new one
raises, the setter hook halts, the hook refuses, or the body of a handler halts.  Up to the decision
nothing is done but what the hook does, so at the first three points the assignment itself leaves
nothing behind.  From the store on nothing is taken back, so at the last one store and mark stay
(`Assignment.FaultsContained`).

Hooks and handlers assign in turn.  The bodies that an assignment calls are `Assignment.Calls`, and
an assignment takes place `Assignment.Within` another one if one of these bodies comes to it with
nothing between that would catch a fault.  Then what the inner one halts with the outer one halts
with too (`Within.halts`).  As both are assignments to a sound entity, the same is true of what each
of them leaves behind, to any depth (`CompiledType.assignment_faults_contained`).
-/

namespace TrackedEntity

open Exec

/-- An assignment as it takes place: of a value to the mutable property of an ordinal, from some
moment on. -/
structure Assignment where
  run : Runner
  ordinal : ℕ
  property : Property
  value : Value
  start : Moment

namespace Assignment

variable (t : CompiledType) (handlers : Table String HandlerSpec) (a : Assignment)

/-- What the assignment does. -/
def operation : Exec Unit :=
  (a.property.compiledSetter t.schema.needsNotification).assign a.run a.value

/-- The setter hook of the property. -/
def hook? : Option Hook := a.property.extension.bind (·.setter)

/-- Calling the setter hook. -/
def callHook (hook : Hook) : Exec Value := hook.call a.run [a.start.self, a.value]

/-- Whether the decision is for the assignment, and has led to a moment. -/
def GoesAhead (m : Moment) : Prop :=
  ((a.property.compiledSetter t.schema.needsNotification).goesAhead a.run a.value).run a.start =
    (.ok true, m)

/-- The moment after the store, if the decision has led to a moment. -/
def afterStore (m : Moment) : Moment :=
  m.after (.stored a.property.name a.ordinal a.value)

/-- How the emission after the store ends, and which handlers it calls. -/
def EmissionEnds (m : Moment) : List Handler → Except Halt Unit → Moment → Prop :=
  CallsEnd a.run (m.history.length + 1) m.self a.property.name m.entity.handlers
    ((a.afterStore m).after (.emitted a.property.name m.entity.handlers))

/-- Whether the assignment is one to a sound entity of a type. -/
structure IsOf : Prop where
  mutable : t.schema.mutable[a.ordinal]? = some a.property
  admits : (t.scene handlers).Admits a.run
  sound : t.Sound a.start.entity

/-- What an assignment leaves behind, wherever it ends. -/
structure FaultsContained : Prop where
  /-- Assigning in the syntax of attributes is this assignment. -/
  set : (t.scene handlers).setAttribute a.run a.property.name a.value = a.operation t
  /-- Assigning by name is this assignment too, apart from the answer. -/
  trySet : (t.scene handlers).trySet a.run (.str a.property.name) a.value =
    a.operation t >>= fun _ => pure true
  /-- Without hook the stored value decides, and nothing has happened by then. -/
  goesAhead_of_comparison : a.hook? = none → ∀ m, a.GoesAhead t m ↔
    m = a.start ∧ ∃ current, a.start.entity.slots[a.ordinal]? = some current ∧
      a.property.equality current a.value = .ok false
  /-- A hook decides by whether its answer counts as true. -/
  goesAhead_of_hook : ∀ hook, a.hook? = some hook → ∀ m, a.GoesAhead t m ↔
    ∃ w, (a.callHook hook).run a.start = (.ok w, m) ∧ m.counts w = true
  /-- If the comparison raises, everything is as before. -/
  comparison_raises : a.hook? = none → ∀ current f,
    a.start.entity.slots[a.ordinal]? = some current →
    a.property.equality current a.value = .error f →
    (a.operation t).run a.start = (.error (.fault f), a.start)
  /-- If the hook halts, everything is as the hook left it. -/
  hook_halts : ∀ hook, a.hook? = some hook → ∀ f m,
    (a.callHook hook).run a.start = (.error f, m) → (a.operation t).run a.start = (.error f, m)
  /-- If the hook refuses, everything is as the hook left it. -/
  hook_refuses : ∀ hook, a.hook? = some hook → ∀ w m,
    (a.callHook hook).run a.start = (.ok w, m) → m.counts w = false →
    (a.operation t).run a.start = (.ok (), m)
  /-- If the body of a handler halts, the assignment does. -/
  handler_halts : ∀ m, a.GoesAhead t m → ∀ called f m', a.EmissionEnds m called (.error f) m' →
    (a.operation t).run a.start = (.error f, m')
  /-- An assignment that goes ahead may halt only where a handler does.  However it ends, store and
  mark stay: the slot holds the value unless another one was stored there since. -/
  stays : ∀ m, a.GoesAhead t m → ∃ r m' events,
    (a.operation t).run a.start = (r, m') ∧
    m'.history = m.history ++ .stored a.property.name a.ordinal a.value :: events ∧
    m'.entity.mask.has a.ordinal = true ∧
    ((∀ name w, .stored name (a.ordinal : ℤ) w ∉ events) →
      m'.entity.slots[a.ordinal]? = some a.value) ∧
    (∀ (j : ℕ) name w, events[j]? = some (.stored name (a.ordinal : ℤ) w) →
      (∀ (j' : ℕ) name w, j < j' → events[j']? ≠ some (.stored name (a.ordinal : ℤ) w)) →
      m'.entity.slots[a.ordinal]? = some w) ∧
    (t.schema.needsNotification = true → ∃ called,
      a.EmissionEnds m called r m' ∧ calledFor (m.history.length + 1) events = called) ∧
    (t.schema.needsNotification = false → r = .ok ())

variable {t handlers a}

theorem length_history_afterStore (m : Moment) :
    (a.afterStore m).history.length = m.history.length + 1 :=
  m.length_history_after _

/-! ### Deciding -/

theorem run_operation : (a.operation t).run a.start =
    match ((a.property.compiledSetter t.schema.needsNotification).goesAhead a.run a.value).run
        a.start with
      | (.ok true, m) =>
        ((a.property.compiledSetter t.schema.needsNotification).finish a.run a.value).run m
      | (.ok false, m) => (.ok (), m)
      | (.error f, m) => (.error f, m) :=
  Setter.run_assign

theorem GoesAhead.run_operation {m : Moment} (h : a.GoesAhead t m) :
    (a.operation t).run a.start =
      ((a.property.compiledSetter t.schema.needsNotification).finish a.run a.value).run m := by
  rw [Assignment.run_operation, h]

theorem run_goesAhead_of_hook {hook : Hook} (hhook : a.hook? = some hook) :
    ((a.property.compiledSetter t.schema.needsNotification).goesAhead a.run a.value).run a.start =
      match (a.callHook hook).run a.start with
      | (.ok w, m) => (.ok (m.counts w), m)
      | (.error f, m) => (.error f, m) :=
  Setter.run_goesAhead_of_hook hhook a.run a.value a.start

theorem run_operation_of_hook_error {hook : Hook} (hhook : a.hook? = some hook) {f : Halt}
    {m : Moment} (hf : (a.callHook hook).run a.start = (.error f, m)) :
    (a.operation t).run a.start = (.error f, m) := by
  rw [run_operation, run_goesAhead_of_hook hhook, hf]

namespace IsOf

variable (ha : a.IsOf t handlers)
include ha

theorem exists_slot : ∃ current, a.start.entity.slots[a.ordinal]? = some current :=
  ha.sound.exists_slot ha.mutable

variable (ht : t.Aligned)
include ht

/-- The decision leaves the entity sound. -/
theorem sound_of_goesAhead {m : Moment} (h : a.GoesAhead t m) : t.Sound m.entity :=
  ht.sound_of_goesAhead ha.admits h ha.sound

theorem goesAhead_iff_of_unhooked (hhook : a.hook? = none) (m : Moment) :
    a.GoesAhead t m ↔ m = a.start ∧ ∃ current, a.start.entity.slots[a.ordinal]? = some current ∧
      a.property.equality current a.value = .ok false := by
  obtain ⟨current, hcurrent⟩ := ha.exists_slot
  have hslot : (∃ current', a.start.entity.slots[a.ordinal]? = some current' ∧
      a.property.equality current' a.value = .ok false) ↔
        a.property.equality current a.value = .ok false := by
    constructor
    · rintro ⟨current', hcurrent', hequal⟩
      obtain rfl := Option.some.inj (hcurrent.symm.trans hcurrent')
      exact hequal
    · exact fun hequal => ⟨current, hcurrent, hequal⟩
  rw [hslot, GoesAhead,
    CompiledType.run_goesAhead_of_unhooked ht ha.sound ha.mutable hhook hcurrent]
  cases a.property.equality current a.value with
  | error f => exact ⟨nofun, fun h => nomatch h.2⟩
  | ok equal =>
    cases equal with
    | true =>
      exact ⟨fun h => absurd (Except.ok.inj (Prod.mk.inj h).1) (by decide),
        fun h => absurd (Except.ok.inj h.2) (by decide)⟩
    | false =>
      refine ⟨fun h => ⟨(Prod.mk.inj h).2.symm, rfl⟩, ?_⟩
      rintro ⟨rfl, -⟩
      rfl

omit ha ht in
theorem goesAhead_iff_of_hook {hook : Hook} (hhook : a.hook? = some hook) (m : Moment) :
    a.GoesAhead t m ↔ ∃ w, (a.callHook hook).run a.start = (.ok w, m) ∧ m.counts w = true := by
  rw [GoesAhead, run_goesAhead_of_hook hhook]
  cases (a.callHook hook).run a.start with
  | mk r m₁ =>
    cases r with
    | error f =>
      constructor
      · nofun
      · rintro ⟨w, hw, -⟩
        cases hw
    | ok w =>
      constructor
      · intro h
        obtain ⟨hw, rfl⟩ := Prod.mk.inj h
        exact ⟨w, rfl, Except.ok.inj hw⟩
      · rintro ⟨w', hw, hcounts⟩
        obtain ⟨hw', rfl⟩ := Prod.mk.inj hw
        obtain rfl := Except.ok.inj hw'
        show (Except.ok (m₁.counts w), m₁) = _
        rw [hcounts]

end IsOf

end Assignment

/-! ### After the store -/

/-- What a store leaves behind, whatever follows: its mark, and its value unless another one is
stored in its place. -/
theorem CompiledType.Account.after_store {t : CompiledType} {base i : ℕ} {e e' : EntityState}
    {name : String} {v : Value} {events : List Event}
    (h : t.Account base e (.stored name i v :: events) e') (he : t.Sound e) :
    e'.mask.has i = true ∧
    ((∀ name w, .stored name (i : ℤ) w ∉ events) → e'.slots[i]? = some v) ∧
    (∀ (j : ℕ) name w, events[j]? = some (.stored name (i : ℤ) w) →
      (∀ (j' : ℕ) name w, j < j' → events[j']? ≠ some (.stored name (i : ℤ) w)) →
      e'.slots[i]? = some w) := by
  refine ⟨(h.has_end he i).2 (Or.inr ⟨name, v, List.mem_cons_self⟩), fun hnone => ?_,
    fun j name w hj hlater => ?_⟩
  · refine h.slot_end_of_last he (j := 0) rfl fun j' name w hj' hstored => ?_
    obtain ⟨n, rfl⟩ : ∃ n, j' = n + 1 := ⟨j' - 1, by omega⟩
    exact hnone name w (List.mem_of_getElem? hstored)
  · refine h.slot_end_of_last he (j := j + 1) hj fun j' name w hj' hstored => ?_
    obtain ⟨n, rfl⟩ : ∃ n, j' = n + 1 := ⟨j' - 1, by omega⟩
    exact hlater n name w (by omega) hstored

namespace Assignment.IsOf

variable {t : CompiledType} {handlers : Table String HandlerSpec} {a : Assignment} {m m' : Moment}
  {called : List Handler} {r : Except Halt Unit} {f : Halt} (ha : a.IsOf t handlers)
  (ht : t.Aligned)
include ha ht

/-- After the store the subscribers are told, if there is a channel. -/
theorem run_operation_of_notifies (h : a.GoesAhead t m)
    (hn : t.schema.needsNotification = true) :
    (a.operation t).run a.start =
      (notify a.run m.self a.property.name).run (a.afterStore m) := by
  rw [h.run_operation, ht.run_finish (ha.sound_of_goesAhead ht h) ha.mutable, if_pos hn]
  rfl

/-- **However the emission ends, the assignment ends.** -/
theorem run_operation_of_emissionEnds (h : a.GoesAhead t m)
    (hn : t.schema.needsNotification = true) (hend : a.EmissionEnds m called r m') :
    (a.operation t).run a.start = (r, m') := by
  obtain ⟨c, hc⟩ := (ha.sound_of_goesAhead ht h).exists_channel hn
  have hc' : (a.afterStore m).entity.channel = some c := hc
  rw [ha.run_operation_of_notifies ht h hn, run_notify hc', length_history_afterStore,
    ← EntityState.handlers_of_channel hc]
  exact run_callHandlers_iff.2 ⟨called, hend⟩

theorem run_operation_of_handler (h : a.GoesAhead t m)
    (hend : a.EmissionEnds m called (.error f) m') :
    (a.operation t).run a.start = (.error f, m') := by
  have hn : t.schema.needsNotification = true := by
    cases hend with
    | halted hsplit _ _ => exact (ha.sound_of_goesAhead ht h).notifies_of_split hsplit
  exact ha.run_operation_of_emissionEnds ht h hn hend

/-- An assignment that goes ahead leaves its store and its mark behind, however it ends. -/
theorem exists_stays (h : a.GoesAhead t m) : ∃ r m' events,
    (a.operation t).run a.start = (r, m') ∧
    m'.history = m.history ++ .stored a.property.name a.ordinal a.value :: events ∧
    t.Account m.history.length m.entity (.stored a.property.name a.ordinal a.value :: events)
      m'.entity ∧
    (t.schema.needsNotification = true → ∃ called,
      a.EmissionEnds m called r m' ∧ calledFor (m.history.length + 1) events = called) ∧
    (t.schema.needsNotification = false → r = .ok ()) := by
  have hbodies := (ht.confines_accounts handlers).of_admits ha.admits
  cases hr : (a.operation t).run a.start with
  | mk r m' =>
    have hfinish := hr
    rw [h.run_operation] at hfinish
    obtain ⟨events, hevents, haccount, htold, hsilent⟩ :=
      ht.account_finish hbodies (ha.sound_of_goesAhead ht h) ha.mutable hfinish
    exact ⟨r, m', events, rfl, hevents, haccount, htold, fun hn => (hsilent hn).1⟩

/-- **What faults leave behind**, wherever the assignment ends. -/
theorem faultsContained : a.FaultsContained t handlers where
  set := by
    have htoken : (t.scene handlers).tokens.get? a.property.name =
        some (a.property.compiledToken t.schema.needsNotification) :=
      ht.get?_token (CompiledType.mem_properties ha.mutable).1
    simp only [Scene.setAttribute, htoken,
      CompiledType.setter_compiledToken (CompiledType.mem_properties ha.mutable).2]
    rfl
  trySet := by
    have hsetter : (t.tokens.get? a.property.name).bind (·.setter) =
        some (a.property.compiledSetter t.schema.needsNotification) := by
      obtain ⟨hp, hmutable⟩ := CompiledType.mem_properties ha.mutable
      rw [ht.get?_token hp, Option.bind_some, CompiledType.setter_compiledToken hmutable]
    funext m
    exact CompiledType.run_trySet_of_setter a.value hsetter
  goesAhead_of_comparison := ha.goesAhead_iff_of_unhooked ht
  goesAhead_of_hook _ hhook := goesAhead_iff_of_hook hhook
  comparison_raises hhook current f hcurrent hequal := by
    rw [run_operation, CompiledType.run_goesAhead_of_unhooked ht ha.sound ha.mutable hhook hcurrent,
      hequal]
  hook_halts _ hhook _ _ hf := run_operation_of_hook_error hhook hf
  hook_refuses hook hhook w m hw hcounts := by
    rw [run_operation, run_goesAhead_of_hook hhook, hw]
    dsimp only
    rw [hcounts]
  handler_halts _ h _ _ _ hend := ha.run_operation_of_handler ht h hend
  stays m h := by
    obtain ⟨r, m', events, hr, hevents, haccount, hrest⟩ := ha.exists_stays ht h
    obtain ⟨hmask, hslot, hlast⟩ := haccount.after_store (ha.sound_of_goesAhead ht h)
    exact ⟨r, m', events, hr, hevents, hmask, hslot, hlast, hrest⟩

end Assignment.IsOf

/-! ### Assignments within assignments -/

namespace Assignment

/-- The bodies that an assignment calls, with the moments at which it calls them: that of its hook,
and those of the handlers that are called after its store. -/
inductive Calls (t : CompiledType) (a : Assignment) : Exec Value → Moment → Prop
  | hook {hook : Hook} (h : a.hook? = some hook) : Calls t a (a.callHook hook) a.start
  | handler {m m₁ : Moment} {before after : List Handler} {hd : Handler} (goes : a.GoesAhead t m)
      (split : m.entity.handlers = before ++ hd :: after)
      (returned : Returned a.run (m.history.length + 1) m.self a.property.name before
        ((a.afterStore m).after (.emitted a.property.name m.entity.handlers)) m₁) :
      Calls t a (a.run hd.body [m.self, .str a.property.name])
        (m₁.after (.called (m.history.length + 1) hd m.self a.property.name m₁.entity))

/-- Whether an assignment takes place within another one: a body that this one calls comes to it,
with nothing between that catches a fault. -/
structure Within (t : CompiledType) (handlers : Table String HandlerSpec) (a b : Assignment) :
    Prop where
  mutable : t.schema.mutable[b.ordinal]? = some b.property
  admits : (t.scene handlers).Admits b.run
  reached : ∃ body m, a.Calls t body m ∧
    Reaches (t.scene handlers) body m (b.operation t) b.start

variable {t : CompiledType} {handlers : Table String HandlerSpec} {a b : Assignment}
  {body : Exec Value} {m m' : Moment} {f : Halt} (ht : t.Aligned) (ha : a.IsOf t handlers)
include ht ha

/-- Bodies are called when the entity is sound. -/
theorem Calls.sound (h : a.Calls t body m) : t.Sound m.entity := by
  cases h with
  | hook _ => exact ha.sound
  | @handler m m₁ before after hd goes split returned =>
    have hm := ha.sound_of_goesAhead ht goes
    have hbodies := (ht.confines_keeps handlers).of_admits ha.admits
    have hkeeps := CompiledType.keeps_callHandlers hbodies (m.history.length + 1) m.self
      a.property.name before ((a.afterStore m).after (.emitted a.property.name m.entity.handlers))
    have hrun := returned.run_callHandlers []
    rw [List.append_nil] at hrun
    rw [hrun] at hkeeps
    exact hkeeps (hm.stored (CompiledType.lt_mutableCount ha.mutable) a.property.name a.value)

/-- What a body halts with, the assignment halts with. -/
theorem Calls.halts (h : a.Calls t body m) (hf : body.run m = (.error f, m')) :
    (a.operation t).run a.start = (.error f, m') := by
  cases h with
  | hook hhook => exact run_operation_of_hook_error hhook hf
  | handler goes split returned =>
    exact ha.run_operation_of_handler ht goes (.halted split returned hf)

/-- An assignment within another one is to a sound entity as well. -/
theorem Within.isOf (h : a.Within t handlers b) : b.IsOf t handlers := by
  obtain ⟨body, m, hcalls, hreaches⟩ := h.reached
  exact ⟨h.mutable, h.admits, hreaches.confined (ht.confines_keeps handlers) (hcalls.sound ht ha)⟩

/-- What an assignment halts with, the one that it takes place within halts with. -/
theorem Within.halts (h : a.Within t handlers b)
    (hf : (b.operation t).run b.start = (.error f, m')) :
    (a.operation t).run a.start = (.error f, m') := by
  obtain ⟨body, m, hcalls, hreaches⟩ := h.reached
  exact hcalls.halts ht ha (hreaches.halts hf)

/-- So it is to any depth. -/
theorem isOf_and_halts_of_chain (h : Relation.ReflTransGen (Within t handlers) a b) :
    b.IsOf t handlers ∧ ∀ f m', (b.operation t).run b.start = (.error f, m') →
      (a.operation t).run a.start = (.error f, m') := by
  induction h with
  | refl => exact ⟨ha, fun _ _ hf => hf⟩
  | tail _ hwithin ih =>
    obtain ⟨hb, hhalts⟩ := ih
    exact ⟨hwithin.isOf ht hb, fun f m' hf => hhalts f m' (hwithin.halts ht hb hf)⟩

end Assignment

/-- **Faults of assignments are contained.**  Of a contract that compiles, any assignment to a
mutable property of an entity that has come about leaves a well-defined state, whatever the bodies
of hooks and handlers do:

* if the comparison raises, the entity and the history are as before;
* if the hook halts or refuses, they are as the hook left them;
* if the body of a handler halts, those before it have been called, each once, in order, those after
  it are not, and the store and the mark of the assignment stay.

What an assignment halts with, all assignments halt with that it takes place within, and the same is
true of each of them. -/
theorem CompiledType.assignment_faults_contained {t : CompiledType} {catalog : Catalog}
    {settings : Settings} {contract : Contract}
    (h : catalog.compile settings contract = .ok t) (handlers : Table String HandlerSpec) :
    (∀ a : Assignment, t.schema.mutable[a.ordinal]? = some a.property →
      (t.scene handlers).Admits a.run → t.Reachable a.start.entity → a.IsOf t handlers) ∧
    (∀ a : Assignment, a.IsOf t handlers → a.FaultsContained t handlers) ∧
    (∀ a b : Assignment, a.IsOf t handlers →
      Relation.ReflTransGen (Assignment.Within t handlers) a b →
      b.FaultsContained t handlers ∧
      ∀ f m, (b.operation t).run b.start = (.error f, m) →
        (a.operation t).run a.start = (.error f, m)) := by
  have ht := aligned_of_compile h
  refine ⟨fun a hmutable hadmits hreachable => ⟨hmutable, hadmits, hreachable.sound ht⟩,
    fun a ha => ha.faultsContained ht, fun a b ha hchain => ?_⟩
  obtain ⟨hb, hhalts⟩ := Assignment.isOf_and_halts_of_chain ht ha hchain
  exact ⟨hb.faultsContained ht, hhalts⟩

namespace Sample

/-- A handler that raises. -/
def alarm : Handler := ⟨"alarm", .itself "alarm", .raise .value "alarm"⟩

/-- Two handlers that are known by name. -/
def alarms : Table String HandlerSpec :=
  [("recorder", .callable recorder), ("alarm", .callable alarm)]

/-- A shape to which a handler that raises has subscribed between two that do not. -/
def alarmedShape : EntityState :=
  { newShape with channel := some ⟨⟨3, [recorder, alarm, recorder]⟩, 4⟩ }

theorem reachable_alarmedShape : shapeType.Reachable alarmedShape := by
  have hadmits := Scene.admits_run (shapeType.scene alarms) 1
  exact .worked (.worked (.worked (.new newEntity_shape) hadmits (.subscribe "recorder") ⟨[], 0⟩)
    hadmits (.subscribe "alarm") ⟨[], 0⟩) hadmits (.subscribe "recorder") ⟨[], 0⟩

/-- The width of a shape. -/
def width : Property := (shapeType.schema.mutable[0]?).get (by rfl)

/-- The height of a shape. -/
def height : Property := (shapeType.schema.mutable[1]?).get (by rfl)

/-- Assigning the height. -/
def assignHeight : Assignment where
  run := (shapeType.scene alarms).run 3
  ordinal := 1
  property := height
  value := .int 5
  start := ⟨alarmedShape, [], 0⟩

/-- Assigning the width, as the hook of the height does. -/
def assignWidth : Assignment where
  run := (shapeType.scene alarms).run 2
  ordinal := 0
  property := width
  value := .int 5
  start := ⟨alarmedShape, [], 0⟩

/-- The hook of the height evaluates its argument, and assigns. -/
theorem assignWidth_within_assignHeight :
    assignHeight.Within shapeType alarms assignWidth := by
  have hadmits := Scene.admits_run (shapeType.scene alarms) 2
  refine ⟨rfl, hadmits, _, _, .hook rfl, ?_⟩
  let args : List Value := [.entity "Shape", .int 5]
  let inner : Runner := (shapeType.scene alarms).run 2
  show Reaches _ (Expr.evalAll inner (shapeType.scene alarms) args
    [.set "width" (.arg 1), .const (.bool true)] >>= fun vs => pure (vs.getLastD .none)) _ _ _
  refine .first (.first ?_)
  show Reaches _ (Expr.eval inner (shapeType.scene alarms) args (.arg 1) >>= fun v =>
    Expr.onEntity args "width" ((shapeType.scene alarms).setAttribute inner "width" v) >>=
      fun _ => pure Value.none) _ _ _
  refine .rest hadmits (Composed.argument args 1) rfl (.first ?_)
  exact .rest hadmits (Composed.subject args) rfl (.here _ _)

end Sample

open Sample in
/-- The second handler halts the assignment of the width, and so that of the height, within which it
takes place.  The width stays assigned, the height is not. -/
theorem CompiledType.assignment_faults_contained_shape :
    ∃ m, (assignHeight.operation shapeType).run assignHeight.start =
        (.error (.fault (.raised .value "alarm")), m) ∧
      m.entity.slots = [.int 5, .int 0] ∧ m.entity.mask = .scalar 1 ∧
      (callsIn m.history).map (·.1.name) = ["recorder", "alarm"] := by
  obtain ⟨hisOf, -, hchain⟩ := assignment_faults_contained compile_shape alarms
  have ha : assignHeight.IsOf shapeType alarms :=
    hisOf assignHeight rfl (Scene.admits_run _ 3) reachable_alarmedShape
  obtain ⟨-, hhalts⟩ := hchain assignHeight assignWidth ha
    (.single assignWidth_within_assignHeight)
  exact ⟨_, hhalts _ _ rfl, rfl, rfl, rfl⟩

end TrackedEntity
