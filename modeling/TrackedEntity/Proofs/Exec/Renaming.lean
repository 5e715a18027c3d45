import TrackedEntity.Proofs.Exec.Running
import TrackedEntity.Proofs.Table
import TrackedEntity.Proofs.Value.Likeness

/-!
# Entities under other class names

A permutation of class names acts on entities and on what has happened to them.  Operations do not
depend on the names: run on an entity with another class name, an operation does the same and ends
alike (`Exec.Alike`), up to the names.

Two things could tell.  A body that asks for the description of its entity has the name of the class
in a text, and a body that reads the documentation or the module has something that belongs to the
class itself.  A `Discretion` says which attributes may be read, and which properties may show the
name in a text.  Bodies that are `Discreet` keep to it, and do nothing with texts that show the name
but to give them back, to join them, to put them into tuples and to log them.  Where a runner runs
these alike, the single steps, reading and assigning properties, and telling subscribers that are
discreet end alike.
-/

namespace TrackedEntity

open Outcome Exec

/-! ### Discreet bodies -/

/-- What bodies may learn of the class of their entity. -/
structure Discretion where
  /-- The attributes that may be read. -/
  reads : String → Prop
  /-- The properties that may give texts with the name of the class in them. -/
  shows : String → Bool

namespace Expr

mutual

/-- Whether a body is discreet.  What it gives may be a text that shows the name of the class, or
not; whatever decides anything, and whatever is assigned, does not. -/
def Discreet (δ : Discretion) : Expr → (shown : Bool) → Prop
  | .const v, _ => v.Nameless
  | .get name, shown => δ.reads name ∧ (δ.shows name = true → shown = true)
  | .tryGet name, shown => δ.shows name = true → shown = true
  | .hasChanges keys, _ => ∀ key ∈ keys, key.Nameless
  | .describe, shown => shown = true
  | .set _ e, _ | .trySet _ e, _ | .not e, _ | .strip e, _ => Discreet δ e false
  | .isNone e, _ => Discreet δ e true
  | .log e, shown => Discreet δ e shown
  | .equals a b, _ | .atLeast a b, _ => Discreet δ a false ∧ Discreet δ b false
  | .plus a b, shown => Discreet δ a shown ∧ Discreet δ b shown
  | .and a b, shown | .or a b, shown => Discreet δ a false ∧ Discreet δ b shown
  | .ite c a b, shown => Discreet δ c false ∧ Discreet δ a shown ∧ Discreet δ b shown
  | .tuple es, shown => AllDiscreet δ es shown shown
  | .seq es, shown => AllDiscreet δ es true shown
  | .arg _, _ | .argCount, _ | .changes, _ | .raise _ _, _ | .subscribe _, _ | .unsubscribe _, _
  | .newObject, _ => True
termination_by structural e => e

/-- Whether several bodies are discreet, the last of which may give more, or less, than the
others. -/
def AllDiscreet (δ : Discretion) : List Expr → (shown last : Bool) → Prop
  | [], _, _ => True
  | e :: es, shown, last =>
    Discreet δ e (if es.isEmpty then last else shown) ∧ AllDiscreet δ es shown last
termination_by structural es => es

end

end Expr

/-- Whether the hook of a getter is discreet. -/
def Getter.Discreet (δ : Discretion) (shown : Bool) : Getter → Prop
  | .slot _ | .unreadable _ _ => True
  | .hook h | .hookWithSlot h _ => h.body.Discreet δ shown
  | .hookWithDefault h default => h.body.Discreet δ shown ∧ default.Nameless

/-- Whether the hooks of a token are discreet.  What a setter hook gives decides about the
assignment. -/
structure Token.Discreet (δ : Discretion) (t : Token) (shown : Bool) : Prop where
  getter : t.getter.Discreet δ shown
  setter : ∀ s hook, t.setter = some s → s.hook = some hook → hook.body.Discreet δ false

/-- Whether hooks and handlers are discreet, and no entity is written in the class. -/
structure Scene.Discreet (δ : Discretion) (scene : Scene) : Prop where
  tokens : ∀ name t, scene.tokens.get? name = some t → t.Discreet δ (δ.shows name)
  /-- Reports of changes show no names, whatever the properties are read as. -/
  reports : ∀ name ∈ scene.names, ∀ t, scene.tokens.get? name = some t →
    t.readsDirectly = true → t.getter.Discreet δ false
  handlers : ∀ name h, scene.handlers.get? name = some (.callable h) → h.body.Discreet δ true
  constants : ∀ name v, δ.reads name → scene.constants.get? name = some v → v.Nameless

/-- Whether the subscribers of an entity are discreet. -/
def EntityState.Discreet (δ : Discretion) (e : EntityState) : Prop :=
  ∀ c, e.channel = some c → ∀ h ∈ c.handlers, h.body.Discreet δ true

variable {δ : Discretion} {π : Equiv.Perm String} {shown : Bool}

/-! ### Other names -/

/-- Named values, as a class or an entity has them, with other names for classes. -/
def Value.renamedNamed (π : Equiv.Perm String) (t : Table String Value) : Table String Value :=
  t.map fun e => (e.1, e.2.renamed π)

/-- An entity with another class name. -/
def EntityState.renamed (π : Equiv.Perm String) (e : EntityState) : EntityState :=
  { e with
    className := π e.className
    slots := Value.renamedItems π e.slots
    extras := e.extras.map (Value.renamedNamed π) }

/-- An event with other class names. -/
def Event.renamed (π : Equiv.Perm String) : Event → Event
  | .logged v => .logged (v.renamed π)
  | .stored name ordinal v => .stored name ordinal (v.renamed π)
  | .emitted name handlers => .emitted name handlers
  | .called emission handler sender name state =>
    .called emission handler (sender.renamed π) name (state.renamed π)
  | .edited change => .edited change

/-- Whether two events are the same, names apart. -/
inductive Event.Alike (π : Equiv.Perm String) : Event → Event → Prop
  | renamed (event : Event) : Alike π event (event.renamed π)
  | logged {v v' : Value} (h : Value.Alike π true v v') : Alike π (.logged v) (.logged v')

/-- Whether two moments are the same, names apart, and the subscribers are discreet. -/
structure Moment.Alike (δ : Discretion) (π : Equiv.Perm String) (m m' : Moment) : Prop where
  discreet : m.entity.Discreet δ
  entity : m'.entity = m.entity.renamed π
  history : List.Forall₂ (Event.Alike π) m.history m'.history
  nextSerial : m'.nextSerial = m.nextSerial

/-- Whether two operations halted for the same reason, names apart. -/
inductive Halt.Alike (π : Equiv.Perm String) : Halt → Halt → Prop
  | fault {f f' : Fault} (h : f.Alike π f') : Alike π (.fault f) (.fault f')
  | exhausted : Alike π .exhausted .exhausted

/-- Whether two operations keep moments alike, and end with related results. -/
def Exec.Alike {α β : Type} (δ : Discretion) (π : Equiv.Perm String) (R : α → β → Prop)
    (x : Exec α) (y : Exec β) : Prop :=
  ∀ m m', Moment.Alike δ π m m' → Moment.Alike δ π (x.run m).2 (y.run m').2 ∧
    Related (Halt.Alike π) R (x.run m).1 (y.run m').1

/-- Whether bodies run alike, if they are discreet. -/
def Runner.Alike (δ : Discretion) (π : Equiv.Perm String) (run run' : Runner) : Prop :=
  ∀ (shown : Bool) body args, body.Discreet δ shown →
    Exec.Alike δ π (Value.Alike π shown) (run body args)
      (run' body (Value.renamedItems π args))

/-! ### Faults of attributes -/

theorem alike_noSetter (property className : String) :
    Fault.Alike π (.noSetter property className) (.noSetter property (π className)) :=
  ⟨rfl, (((((Text.Alike.refl _).append (.refl _)).append (.refl _)).append (.name _)).append
    (.refl _)), rfl⟩

theorem alike_notDeletable (property className : String) :
    Fault.Alike π (.notDeletable property className) (.notDeletable property (π className)) :=
  ⟨rfl, (((((Text.Alike.refl _).append (.refl _)).append (.refl _)).append (.name _)).append
    (.refl _)), rfl⟩

theorem alike_noDeleter (property className : String) :
    Fault.Alike π (.noDeleter property className) (.noDeleter property (π className)) :=
  ⟨rfl, (((((Text.Alike.refl _).append (.refl _)).append (.refl _)).append (.name _)).append
    (.refl _)), rfl⟩

theorem alike_fixedAttribute (className name : String) :
    Fault.Alike π (.fixedAttribute className name) (.fixedAttribute (π className) name) :=
  ⟨rfl, (((((Text.Alike.refl _).append (.name _)).append (.refl _)).append (.refl _)).append
    (.refl _)), rfl⟩

/-! ### Lists and tables -/

namespace Value

theorem getD_renamedItems (items : List Value) (i : ℕ) :
    (renamedItems π items).getD i .none = (items.getD i .none).renamed π := by
  rw [renamedItems_eq_map, List.getD_eq_getElem?_getD, List.getD_eq_getElem?_getD,
    List.getElem?_map]
  cases items[i]? <;> rfl

theorem set_renamedItems (items : List Value) (i : ℕ) (v : Value) :
    (renamedItems π items).set i (v.renamed π) = renamedItems π (items.set i v) := by
  rw [renamedItems_eq_map, renamedItems_eq_map, List.map_set]

theorem get?_renamedNamed (t : Table String Value) (name : String) :
    Table.get? (renamedNamed π t) name = (t.get? name).map (renamed π) :=
  Table.get?_map_values (renamed π) t name

theorem has_renamedNamed (t : Table String Value) (name : String) :
    Table.has (renamedNamed π t) name = t.has name := by
  rw [renamedNamed, Table.has, Table.has, List.any_map]
  rfl

theorem put_renamedNamed (t : Table String Value) (name : String) (v : Value) :
    Table.put (renamedNamed π t) name (v.renamed π) = renamedNamed π (t.put name v) := by
  induction t with
  | nil => rfl
  | cons e t ih =>
    simp only [renamedNamed, List.map_cons, Table.put] at ih ⊢
    split
    · rfl
    · rw [ih, List.map_cons]

theorem erase_renamedNamed (t : Table String Value) (name : String) :
    Table.erase (renamedNamed π t) name = renamedNamed π (t.erase name) := by
  rw [renamedNamed, Table.erase, Table.erase, List.filter_map]
  rfl

theorem renamedItems_of_nameless {items : List Value} (h : ∀ v ∈ items, v.Nameless) :
    renamedItems π items = items := by
  rw [renamedItems_eq_map]
  exact (List.map_congr_left (g := id) fun v hv => h v hv π).trans (List.map_id items)

theorem ofChanges_renamed (changes : List (String × Value)) :
    (ofChanges changes).renamed π = ofChanges (renamedNamed π changes) := by
  simp only [ofChanges, renamed, renamedEntries_eq_map, renamedNamed, List.map_map]
  rfl

end Value

/-- Calls bind the arguments without looking at them. -/
theorem Signature.bind_renamed (s : Signature) (args : List Value) :
    s.bind (Value.renamedItems π args) = (s.bind args).map (Value.renamedItems π) := by
  induction s generalizing args with
  | nil => cases args <;> rfl
  | cons p ps ih =>
    -- what is bound without arguments are defaults, which are nothing
    have hdefaults : ∀ seen, bind ps [] = some seen → Value.renamedItems π seen = seen := by
      intro seen hseen
      have hnil := ih []
      rw [Value.renamedItems, hseen] at hnil
      exact (Option.some.inj hnil).symm
    cases hkind : p.kind with
    | positional | positionalOnly =>
      simp only [bind, hkind]
      cases args with
      | nil =>
        simp only [Value.renamedItems]
        split
        · cases hseen : bind ps [] with
          | none => rfl
          | some seen =>
            simp only [Option.map_some, Value.renamedItems, Value.renamed, hdefaults seen hseen]
        · rfl
      | cons a args =>
        simp only [Value.renamedItems, ih, Option.map_map]
        rfl
    | rest =>
      simp only [bind, hkind]
      cases hseen : bind ps [] with
      | none => rfl
      | some seen =>
        simp only [Option.map_some, Value.renamedItems_append, hdefaults seen hseen]
    | keywordOnly =>
      simp only [bind, hkind]
      split
      · exact ih args
      · rfl
    | keywords =>
      simp only [bind, hkind]
      exact ih args

/-! ### Single steps -/

theorem Moment.Alike.counts {m m' : Moment} (h : Moment.Alike δ π m m') (v : Value) :
    m'.counts (v.renamed π) = m.counts v := by
  have hchannel : m'.entity.channel = m.entity.channel := by
    rw [h.entity]
    rfl
  have htruthy := Value.truthy_renamed (π := π) v
  unfold Moment.counts
  rw [hchannel]
  cases v with
  | channel => cases m.entity.channel <;> rfl
  | _ => exact htruthy

namespace Exec

theorem run_make (v : Value) (m : Moment) :
    (make v).run m =
      (ofExcept (v.make.run m.nextSerial).1).run
        { m with nextSerial := (v.make.run m.nextSerial).2 } := rfl

namespace Alike

variable {α α' β β' : Type} {R : α → α' → Prop} {S : β → β' → Prop}

theorem pure {a : α} {a' : α'} (h : R a a') : Alike δ π R (Pure.pure a) (Pure.pure a') :=
  fun _ _ hm => ⟨hm, .succeeds h⟩

theorem fail {f f' : Fault} (h : f.Alike π f') : Alike δ π R (Exec.fail f) (Exec.fail f') :=
  fun _ _ hm => ⟨hm, .fails (.fault h)⟩

theorem imp {x : Exec α} {x' : Exec α'} {R' : α → α' → Prop} (hx : Alike δ π R x x')
    (h : ∀ a a', R a a' → R' a a') : Alike δ π R' x x' :=
  fun m m' hm => ⟨(hx m m' hm).1, (hx m m' hm).2.imp h⟩

theorem bind {x : Exec α} {x' : Exec α'} {f : α → Exec β} {f' : α' → Exec β'}
    (hx : Alike δ π R x x') (hf : ∀ a a', R a a' → Alike δ π S (f a) (f' a')) :
    Alike δ π S (x >>= f) (x' >>= f') := by
  intro m m' hm
  obtain ⟨hm₁, hresult⟩ := hx m m' hm
  rw [Exec.run_bind, Exec.run_bind]
  cases hr : x.run m with
  | mk r m₁ =>
    cases hr' : x'.run m' with
    | mk r' m₁' =>
      rw [hr, hr'] at hm₁ hresult
      cases hresult with
      | fails h => exact ⟨hm₁, .fails h⟩
      | succeeds h => exact hf _ _ h m₁ m₁' hm₁

/-- What shows no name goes on renamed. -/
theorem bind_plain {x x' : Exec Value} {f : Value → Exec β} {f' : Value → Exec β'}
    (hx : Alike δ π (Value.Alike π false) x x')
    (hf : ∀ v, Alike δ π S (f v) (f' (v.renamed π))) : Alike δ π S (x >>= f) (x' >>= f') :=
  bind hx fun v _ hv => hv.eq ▸ hf v

theorem ofExcept {x : Except Fault α} {x' : Except Fault α'}
    (h : Related (Fault.Alike π) R x x') : Alike δ π R (Exec.ofExcept x) (Exec.ofExcept x') := by
  cases h with
  | fails h => exact fail h
  | succeeds h => exact pure h

theorem ofExcept_self (x : Except Fault α) :
    Alike δ π Eq (Exec.ofExcept x) (Exec.ofExcept x) :=
  ofExcept (Related.refl (Fault.Alike.refl π) (fun _ => rfl) x)

/-- A computation that is made on both sides, where something is known of its results. -/
theorem ofExcept_of_ok {P : α → Prop} {x : Except Fault α} (h : ∀ a, x = .ok a → P a) :
    Alike δ π (fun a a' => a = a' ∧ P a) (Exec.ofExcept x) (Exec.ofExcept x) := by
  cases x with
  | error f => exact fail (.refl π f)
  | ok a => exact pure ⟨rfl, h a rfl⟩

theorem entity :
    Alike δ π (fun e e' => e.Discreet δ ∧ e' = e.renamed π) Exec.entity Exec.entity :=
  fun _ _ hm => ⟨hm, .succeeds ⟨hm.discreet, hm.entity⟩⟩

theorem className :
    Alike δ π (fun name name' => name' = π name) Exec.className Exec.className :=
  bind entity fun _ _ h => pure (congrArg EntityState.className h.2)

theorem self : Alike δ π (Value.Becomes π) Exec.self Exec.self :=
  bind className fun _ _ h => pure (congrArg Value.entity h)

theorem setEntity {e : EntityState} (h : e.Discreet δ) :
    Alike δ π Eq (Exec.setEntity e) (Exec.setEntity (e.renamed π)) :=
  fun _ _ hm => ⟨⟨h, rfl, hm.history, hm.nextSerial⟩, .succeeds rfl⟩

theorem place : Alike δ π Eq Exec.place Exec.place :=
  fun _ _ hm => ⟨hm, .succeeds hm.history.length_eq⟩

theorem record {event event' : Event} (h : Event.Alike π event event') :
    Alike δ π Eq (Exec.record event) (Exec.record event') :=
  fun _ _ hm => ⟨⟨hm.discreet, hm.entity, List.rel_append hm.history (.cons h .nil),
    hm.nextSerial⟩, .succeeds rfl⟩

theorem isTrue (v : Value) : Alike δ π Eq (Exec.isTrue v) (Exec.isTrue (v.renamed π)) := by
  intro m m' hm
  rw [run_isTrue, run_isTrue]
  exact ⟨hm, .succeeds (hm.counts v).symm⟩

theorem make {v v' : Value} (h : Value.Alike π shown v v') :
    Alike δ π (Value.Alike π shown) (Exec.make v) (Exec.make v') := by
  intro m m' hm
  obtain ⟨hserial, hresult⟩ := h.make m.nextSerial
  rw [run_make, run_make, hm.nextSerial]
  exact ofExcept hresult _ _ ⟨hm.discreet, hm.entity, hm.history, hserial⟩

theorem make_renamed (v : Value) :
    Alike δ π (Value.Becomes π) (Exec.make v) (Exec.make (v.renamed π)) :=
  (make (.renamed v)).imp fun _ _ h => Value.Alike.eq h

theorem readSlot (ordinal : ℤ) :
    Alike δ π (Value.Becomes π) (Exec.readSlot ordinal) (Exec.readSlot ordinal) := by
  unfold Exec.readSlot
  split
  on_goal 1 => refine bind (fail (R := Eq) (.refl π _)) fun _ _ _ => ?_
  all_goals
    refine bind entity ?_
    rintro e _ ⟨-, rfl⟩
    have hlength : (e.renamed π).slots.length = e.slots.length :=
      Value.length_renamedItems e.slots
    rw [hlength]
    split
    · exact fail (.refl π _)
    · exact pure (Value.getD_renamedItems e.slots _)

theorem writeSlot (ordinal : ℤ) (v : Value) :
    Alike δ π Eq (Exec.writeSlot ordinal v) (Exec.writeSlot ordinal (v.renamed π)) := by
  unfold Exec.writeSlot
  split
  on_goal 1 => refine bind (fail (R := Eq) (.refl π _)) fun _ _ _ => ?_
  all_goals
    refine bind entity ?_
    rintro e _ ⟨hdiscreet, rfl⟩
    have hlength : (e.renamed π).slots.length = e.slots.length :=
      Value.length_renamedItems e.slots
    rw [hlength]
    split
    · exact fail (.refl π _)
    · next i _ =>
      have hset : { e.renamed π with slots := (e.renamed π).slots.set i (v.renamed π) } =
          ({ e with slots := e.slots.set i v } : EntityState).renamed π := by
        simp only [EntityState.renamed, Value.set_renamedItems]
      rw [hset]
      exact setEntity hdiscreet

theorem mark (ordinal : ℤ) : Alike δ π Eq (Exec.mark ordinal) (Exec.mark ordinal) := by
  refine bind entity ?_
  rintro e _ ⟨hdiscreet, rfl⟩
  refine bind (ofExcept_self _) ?_
  rintro mask _ rfl
  exact setEntity (e := { e with mask }) hdiscreet

/-! ### Reading and assigning -/

variable {run run' : Runner} (hrun : Runner.Alike δ π run run')
include hrun

theorem call {hook : Hook} (h : hook.body.Discreet δ shown) (args : List Value) :
    Alike δ π (Value.Alike π shown) (hook.call run args)
      (hook.call run' (Value.renamedItems π args)) := by
  rw [Hook.call, Hook.call, Signature.bind_renamed]
  cases hook.signature.bind args with
  | none =>
    rw [Value.length_renamedItems]
    exact fail (.refl π _)
  | some seen => exact hrun shown hook.body seen h

theorem getter {g : Getter} (h : g.Discreet δ shown) :
    Alike δ π (Value.Alike π shown) (g.read run) (g.read run') := by
  cases g with
  | slot ordinal => exact (readSlot ordinal).imp fun _ _ => Value.Becomes.alike
  | unreadable property owner => exact fail (.refl π _)
  | hook hook =>
    refine bind self ?_
    rintro v _ rfl
    exact call hrun h [v]
  | hookWithSlot hook ordinal =>
    refine bind self ?_
    rintro v _ rfl
    refine bind (readSlot ordinal) ?_
    rintro current _ rfl
    exact call hrun h [v, current]
  | hookWithDefault hook default =>
    refine bind self ?_
    rintro v _ rfl
    have hcall := call hrun h.1 [v, default]
    simp only [Value.renamedItems, h.2 π] at hcall
    exact hcall

theorem goesAhead {s : Setter} (h : ∀ hook, s.hook = some hook → hook.body.Discreet δ false)
    (v : Value) : Alike δ π Eq (s.goesAhead run v) (s.goesAhead run' (v.renamed π)) := by
  unfold Setter.goesAhead
  cases hhook : s.hook with
  | some hook =>
    refine bind self ?_
    rintro self _ rfl
    refine bind_plain (call hrun (h hook hhook) [self, v]) fun w => ?_
    exact isTrue w
  | none =>
    refine bind (readSlot s.ordinal) ?_
    rintro current _ rfl
    simp only [Value.directlyEqual, Value.equals_renamed, Value.identityFirst_renamed]
    refine bind (ofExcept_self _) ?_
    rintro equal _ rfl
    exact pure rfl

theorem callHandlers (emission : ℕ) (sender : Value) (name : String) {hs : List Handler}
    (h : ∀ handler ∈ hs, handler.body.Discreet δ true) :
    Alike δ π Eq (callHandlers run emission sender name hs)
      (callHandlers run' emission (sender.renamed π) name hs) := by
  induction hs with
  | nil => exact pure rfl
  | cons handler hs ih =>
    rw [List.forall_mem_cons] at h
    refine bind entity ?_
    rintro e _ ⟨-, rfl⟩
    refine bind (record (.renamed (.called emission handler sender name e))) fun _ _ _ => ?_
    refine bind (hrun true handler.body [sender, .str name] h.1) fun _ _ _ => ?_
    exact ih h.2

theorem notify (sender : Value) (name : String) :
    Alike δ π Eq (notify run sender name) (notify run' (sender.renamed π) name) := by
  refine bind entity ?_
  rintro e _ ⟨hdiscreet, rfl⟩
  have hchannel : (e.renamed π).channel = e.channel := rfl
  rw [hchannel]
  cases hc : e.channel with
  | none => exact fail (.refl π _)
  | some c =>
    refine bind place ?_
    rintro emission _ rfl
    refine bind (record (.renamed (.emitted name c.handlers))) fun _ _ _ => ?_
    exact callHandlers hrun emission sender name (hdiscreet c hc)

theorem assign {s : Setter} (h : ∀ hook, s.hook = some hook → hook.body.Discreet δ false)
    (v : Value) :
    Alike δ π Eq (s.assign run v) (s.assign run' (v.renamed π)) := by
  refine bind (goesAhead hrun h v) ?_
  rintro ahead _ rfl
  split
  · refine bind (writeSlot s.ordinal v) fun _ _ _ => ?_
    refine bind (record (.renamed (.stored s.name s.ordinal v))) fun _ _ _ => ?_
    refine bind (mark s.ordinal) fun _ _ _ => ?_
    split
    · refine bind self ?_
      rintro sender _ rfl
      exact notify hrun sender s.name
    · exact pure rfl
  · exact pure rfl

/-- Only a token that reads directly calls hooks for reports. -/
theorem reader {t : Token} (h : t.readsDirectly = true → t.getter.Discreet δ shown) :
    Alike δ π (Value.Alike π shown) (t.read run) (t.read run') := by
  unfold Token.read
  cases hreader : t.reader with
  | none => exact getter hrun (h (by rw [Token.readsDirectly, hreader]))
  | some reader =>
    cases reader with
    | getter => exact getter hrun (h (by rw [Token.readsDirectly, hreader]))
    | slot ordinal => exact (readSlot ordinal).imp fun _ _ => Value.Becomes.alike

end Alike

end Exec

end TrackedEntity
