import TrackedEntity.Proofs.Compiled.Tables
import TrackedEntity.Proofs.Exec.Composition

/-!
# What every entity keeps to

An entity of a compiled type has one slot for each mutable property, a mask that fits the layout of
the type, the default of the property in each slot that is not marked, and a channel exactly when
the type notifies: it is `Sound`.

New entities are sound (`Aligned.sound_new`), and every event keeps an entity sound, if it stores
nowhere but in the slot of a mutable property (`Sound.stored`, `Sound.edited`).  So whatever is
composed of the operations of the entity keeps it sound (`Aligned.confines_keeps`), wherever bodies
halt it, and hence so does every piece of work.  That is how `Reachable` entities come to be: the
bodies that they were worked on with may be any that a runner admits.
-/

namespace TrackedEntity

open Exec

namespace CompiledType

/-- What the entities of a type keep to. -/
structure Sound (t : CompiledType) (e : EntityState) : Prop where
  allocated : t.layout.Allocated t.schema.mutableCount
  length_slots : e.slots.length = t.schema.mutableCount
  fits : t.layout.Fits e.mask
  default_of_unmarked : ∀ i, e.mask.has i = false → e.slots[i]? = t.defaults[i]?
  isSome_channel : e.channel.isSome = t.schema.needsNotification

variable {t : CompiledType} {e : EntityState}

/-! ### New entities -/

namespace Aligned

variable (ht : t.Aligned)
include ht

theorem sound_new (h : t.newEntity = .ok e) : t.Sound e := by
  obtain ⟨mask, hmask, h⟩ := Outcome.bind_eq_ok.1 h
  obtain rfl := Except.ok.inj h
  have halloc := ht.layout_allocated hmask
  refine ⟨halloc, ht.length_defaults, Layout.fits_new halloc.serves hmask, fun _ _ => rfl, ?_⟩
  dsimp only
  split
  · simp [*]
  · simp [*]

theorem sound_derived {className : String} (h : t.newDerived className = .ok e) : t.Sound e := by
  obtain ⟨e₀, h₀, h⟩ := Outcome.bind_eq_ok.1 h
  obtain rfl := Except.ok.inj h
  have hs := ht.sound_new h₀
  exact ⟨hs.allocated, hs.length_slots, hs.fits, hs.default_of_unmarked, hs.isSome_channel⟩

/-- The setters of the scene of a type are those of its mutable properties. -/
theorem sets_iff {handlers : Table String HandlerSpec} {s : Setter} :
    (t.scene handlers).Sets s ↔
      ∃ (i : ℕ) (p : Property), t.schema.mutable[i]? = some p ∧
        s = p.compiledSetter t.schema.needsNotification :=
  ht.setter_iff

end Aligned

/-! ### Events -/

namespace Sound

variable (h : t.Sound e)
include h

/-- Every ordinal is a word. -/
theorem lt_word {i : ℕ} (hi : i < t.schema.mutableCount) : i < 9223372036854775808 := by
  have hr := h.allocated.roomy
  unfold Mask.leastTooLarge at hr
  omega

theorem hasRoom {i : ℕ} (hi : i < t.schema.mutableCount) : e.mask.HasRoom i :=
  h.fits.hasRoom h.allocated.serves hi

theorem lt_of_has {i : ℕ} (hi : e.mask.has i = true) : i < t.schema.mutableCount := by
  by_contra hle
  have hcount : t.layout.count.toNat = t.schema.mutableCount := by
    rw [h.allocated.count_eq, Int.toNat_natCast]
  rw [h.fits.has_eq_false (by omega)] at hi
  cases hi

theorem exists_channel (hn : t.schema.needsNotification = true) : ∃ c, e.channel = some c := by
  have hc := h.isSome_channel
  rw [hn] at hc
  exact Option.isSome_iff_exists.1 hc

/-- The further attributes do not matter. -/
theorem extras (extras : Option (Table String Value)) : t.Sound { e with extras } :=
  ⟨h.allocated, h.length_slots, h.fits, h.default_of_unmarked, h.isSome_channel⟩

/-- A store into the slot of a mutable property keeps an entity sound. -/
theorem stored {i : ℕ} (hi : i < t.schema.mutableCount) (name : String) (v : Value) :
    t.Sound (e.after (.stored name i v)) := by
  refine ⟨h.allocated, ?_, h.fits.insert h.allocated.serves hi, fun j hj => ?_, h.isSome_channel⟩
  · show (e.slots.set i v).length = _
    rw [List.length_set, h.length_slots]
  · -- an unmarked ordinal is another one, and was unmarked before
    have hj' : (e.mask.insert i).has j = false := hj
    rw [Mask.has_insert (h.hasRoom hi), Bool.or_eq_false_iff, decide_eq_false_iff_not] at hj'
    show (e.slots.set i v)[j]? = _
    rw [List.getElem?_set_ne (Ne.symm hj'.1), h.default_of_unmarked j hj'.2]

/-- A change of the subscribers keeps an entity sound. -/
theorem edited (change : Edit Handler) : t.Sound (e.after (.edited change)) := by
  refine ⟨h.allocated, h.length_slots, h.fits, h.default_of_unmarked, ?_⟩
  show (e.channel.map _).isSome = _
  rw [Option.isSome_map, h.isSome_channel]

end Sound

/-- **The rest of an assignment of a sound entity** is a store, followed by an emission exactly when
the type notifies. -/
theorem Aligned.run_finish (ht : t.Aligned) {run : Runner} {m : Moment} (h : t.Sound m.entity)
    {i : ℕ} {p : Property} (hp : t.schema.mutable[i]? = some p) (v : Value) :
    ((p.compiledSetter t.schema.needsNotification).finish run v).run m =
      if t.schema.needsNotification then
        (notify run m.self p.name).run (m.after (.stored p.name i v))
      else (.ok (), m.after (.stored p.name i v)) := by
  have hi := lt_mutableCount hp
  have hslot : i < m.entity.slots.length := by rw [h.length_slots]; exact hi
  exact Setter.run_finish (ht.ordinal_eq hp) (h.lt_word hi) hslot (h.hasRoom hi)

/-! ### Operations -/

/-- Whether an entity that is sound at one moment is sound at another one. -/
def Keeps (t : CompiledType) (m m' : Moment) : Prop := t.Sound m.entity → t.Sound m'.entity

theorem frames_keeps : Frames t.Keeps where
  trans hab hbc ha := hbc (hab ha)
  quiet _ extras _ h := h.extras extras
  log _ _ h := h
  edit _ change h := h.edited change

variable {run : Runner}

theorem keeps_callHandlers (hrun : ∀ body args m, t.Keeps m ((run body args).run m).2)
    (emission : ℕ) (sender : Value) (name : String) (hs : List Handler) (m : Moment) :
    t.Keeps m ((callHandlers run emission sender name hs).run m).2 := by
  induction hs generalizing m with
  | nil => exact id
  | cons h hs ih =>
    rw [run_callHandlers_cons]
    have hbody := hrun h.body [sender, .str name]
      (m.after (.called emission h sender name m.entity))
    cases hr : (run h.body [sender, .str name]).run
        (m.after (.called emission h sender name m.entity)) with
    | mk r m' =>
      rw [hr] at hbody
      cases r with
      | error e => exact hbody
      | ok v => exact fun hm => ih m' (hbody hm)

theorem keeps_notify (hrun : ∀ body args m, t.Keeps m ((run body args).run m).2)
    (sender : Value) (name : String) (m : Moment) :
    t.Keeps m ((notify run sender name).run m).2 := by
  cases hc : m.entity.channel with
  | none =>
    unfold notify
    rw [run_bind_ok (run_entity m), hc]
    exact id
  | some c =>
    rw [run_notify hc]
    exact keeps_callHandlers hrun _ _ _ _ (m.after (.emitted name c.handlers))

/-- **Whatever is composed of the operations of an entity keeps it sound.** -/
theorem Aligned.confines_keeps (ht : t.Aligned) (handlers : Table String HandlerSpec) :
    (t.scene handlers).Confines t.Keeps where
  toFrames := frames_keeps
  assign := by
    intro run _ hrun s hs v m
    obtain ⟨i, p, hp, rfl⟩ := ht.sets_iff.1 hs
    -- the hook may have done anything, but it left the entity sound
    refine frames_keeps.assign hrun (fun m' hm' => ?_) m
    have hstored := hm'.stored (lt_mutableCount hp) p.name v
    rw [ht.run_finish hm' hp]
    split
    · exact keeps_notify hrun _ _ (m'.after (.stored p.name i v)) hstored
    · exact hstored

/-- Deciding about an assignment leaves the entity sound. -/
theorem Aligned.sound_of_goesAhead (ht : t.Aligned) {handlers : Table String HandlerSpec}
    (hrun : (t.scene handlers).Admits run) {s : Setter} {v : Value} {m m' : Moment} {answer : Bool}
    (h : (s.goesAhead run v).run m = (.ok answer, m')) (hm : t.Sound m.entity) :
    t.Sound m'.entity := by
  have hkeeps := ht.confines_keeps handlers
  have hdecision := hkeeps.goesAhead (hkeeps.of_admits hrun) s v m
  rw [h] at hdecision
  exact hdecision hm

theorem Aligned.keeps_perform (ht : t.Aligned) {handlers : Table String HandlerSpec}
    (hrun : (t.scene handlers).Admits run) (work : EntityWork) (m : Moment) :
    t.Keeps m ((work.perform run (t.scene handlers)).run m).2 := by
  have hc := ht.confines_keeps handlers
  cases htells : work.tells with
  | false => exact hc.composed hrun (Composed.perform htells) m
  | true =>
    cases work with
    | tell name =>
      -- an emission without a store before it
      refine hc.seq (hc.seq (hc.composed hrun (Composed.channelFor "emit") m) fun c m' _ => ?_)
        fun _ m' _ => hc.refl m'
      refine hc.seq (hc.of_quiet Quiet.self m') fun self m'' _ => ?_
      exact keeps_notify (hc.of_admits hrun) self name m''
    | _ => cases htells

/-! ### Reachable entities -/

/-- The states that an entity of a type can come to: a new one, and what any work on it or the run
of any body leaves behind, whether that returns or halts.  A runner may halt a body after any of its
operations, so that the states between these are among them. -/
inductive Reachable (t : CompiledType) : EntityState → Prop
  | new {e : EntityState} (h : t.newEntity = .ok e) : Reachable t e
  /-- A new entity of a class that derives from the compiled one. -/
  | derived {e : EntityState} {className : String} (h : t.newDerived className = .ok e) :
      Reachable t e
  | worked {e : EntityState} (he : Reachable t e) {handlers : Table String HandlerSpec}
      {run : Runner} (hrun : (t.scene handlers).Admits run) (work : EntityWork)
      (traces : Traces) :
      Reachable t (((work.perform run (t.scene handlers)).runOn e).run traces).1.2
  /-- The initializers of batches are bodies that run by themselves. -/
  | ran {e : EntityState} (he : Reachable t e) {handlers : Table String HandlerSpec}
      {run : Runner} (hrun : (t.scene handlers).Admits run) (body : Expr) (args : List Value)
      (traces : Traces) : Reachable t (((run body args).runOn e).run traces).1.2

theorem Reachable.sound (ht : t.Aligned) (he : t.Reachable e) : t.Sound e := by
  induction he with
  | new h => exact ht.sound_new h
  | derived h => exact ht.sound_derived h
  | @worked e _ _ _ hrun work traces ih =>
    exact ht.keeps_perform hrun work ⟨e, traces.history, traces.nextSerial⟩ ih
  | @ran e _ handlers _ hrun body args traces ih =>
    exact (ht.confines_keeps handlers).of_admits hrun body args
      ⟨e, traces.history, traces.nextSerial⟩ ih

/-- **The invariant of entities.**  Of a contract that compiles, every entity, at any time, has one
slot for each mutable property; its mask has the form and the size of the layout and holds nothing
outside it; each ordinal that it holds has a name, a slot and a property, and each mutable property
has its own place in slots and mask; every slot that is not marked holds the default of its
property; and there is a channel exactly when the contract notifies, so that an assignment which
gets as far as telling the subscribers finds one. -/
theorem Reachable.well_formed {catalog : Catalog} {settings : Settings} {contract : Contract}
    (h : catalog.compile settings contract = .ok t) (he : t.Reachable e) :
    e.slots.length = t.schema.mutable.length ∧
    (match e.mask with
      | .scalar bits => t.layout.kind.isScalar = true ∧ bits < 2 ^ t.schema.mutable.length
      | .bytes data => t.layout.kind.isScalar = false ∧
          data.length = (t.schema.mutable.length + 7) / 8) ∧
    (∀ i, e.mask.has i = true ↔ i ∈ e.mask.ordinals) ∧
    (∀ i ∈ e.mask.ordinals, ∃ p, t.schema.mutable[i]? = some p ∧ t.names[i]? = some p.name ∧
      i < e.slots.length) ∧
    (∀ (i : ℕ) p, t.schema.mutable[i]? = some p →
      p.ordinal = (i : ℤ) ∧ i < e.slots.length ∧ e.mask.isSet p.ordinal = .ok (e.mask.has i) ∧
        e.mask.mark p.ordinal = .ok (e.mask.insert i)) ∧
    (∀ i p, t.schema.mutable[i]? = some p → e.mask.has i = false →
      e.slots[i]? = some p.default) ∧
    e.channel.isSome = t.schema.needsNotification ∧
    (∀ handlers run s v history serial m, (t.scene handlers).Admits run →
      (t.scene handlers).Sets s → s.notifies = true →
      (s.goesAhead run v).run ⟨e, history, serial⟩ = (.ok true, m) →
      ∃ c, m.entity.channel = some c) := by
  have ht := aligned_of_compile h
  have hs := he.sound ht
  have hcount : t.layout.count.toNat = t.schema.mutable.length := by
    rw [hs.allocated.count_eq, Int.toNat_natCast, Schema.mutableCount]
  refine ⟨hs.length_slots, ?_, fun i => Mask.mem_ordinals.symm, ?_, ?_, ?_, hs.isSome_channel, ?_⟩
  · -- the form of the mask
    have hfits := hs.fits
    unfold Layout.Fits at hfits
    rw [← hcount]
    cases hmask : e.mask with
    | scalar bits => rwa [hmask] at hfits
    | bytes data =>
      rw [hmask] at hfits
      exact ⟨hfits.1, hfits.2.1⟩
  · -- what the mask holds
    intro i hi
    have hlt := hs.lt_of_has (Mask.mem_ordinals.1 hi)
    obtain ⟨p, hp⟩ : ∃ p, t.schema.mutable[i]? = some p := ⟨_, List.getElem?_eq_getElem hlt⟩
    exact ⟨p, hp, ht.getElem?_names hp, by rw [hs.length_slots]; exact hlt⟩
  · -- the places of the properties
    intro i p hp
    have hi := lt_mutableCount hp
    rw [ht.ordinal_eq hp]
    exact ⟨rfl, by rw [hs.length_slots]; exact hi, Mask.isSet_eq (hs.hasRoom hi),
      Mask.mark_eq (hs.hasRoom hi)⟩
  · intro i p hp hi
    rw [hs.default_of_unmarked i hi, ht.getElem?_defaults hp]
  · -- deciding keeps the entity sound, hence with its channel
    intro handlers run s v history serial m hrun hset hnotifies hgoes
    obtain ⟨i, p, -, rfl⟩ := ht.sets_iff.1 hset
    have hc := ht.confines_keeps handlers
    have hkeeps := hc.goesAhead (hc.of_admits hrun)
      (p.compiledSetter t.schema.needsNotification) v ⟨e, history, serial⟩
    rw [hgoes] at hkeeps
    exact (hkeeps hs).exists_channel hnotifies

end CompiledType

namespace Sample

/-- Two hooks for a height: reading it reads the width, and assigning it assigns the width first. -/
def heightHooks : HookDirectory where
  source := "hooks"
  members :=
    [("get_height", .callable ⟨[⟨"entity", .positional, false⟩], none, .get "width"⟩),
     ("set_height", .callable
       ⟨[⟨"entity", .positional, false⟩, ⟨"value", .positional, false⟩], none,
        .seq [.set "width" (.arg 1), .const (.bool true)]⟩)]
  unhashable? := none
  closed? := none

/-- A contract of a width and a height whose entities notify. -/
def shape : ClassDef where
  name := "IShape"
  qualname := "IShape"
  module := "shapes"
  bases := [.notifyPropertyChanged]
  attributes := [("width", .plain .int), ("height", .annotated (.plain .int) [.marker "hooks"])]
  members := []

/-- The catalog of the contract. -/
def shapes : Catalog := ⟨⟨[shape]⟩, [("hooks", heightHooks)]⟩

theorem isSome_compile_shape :
    (shapes.compile .default (.ofClass (.declared 0))).toOption.isSome = true := by rfl

/-- The type that the contract compiles to. -/
def shapeType : CompiledType :=
  (shapes.compile .default (.ofClass (.declared 0))).toOption.get isSome_compile_shape

theorem compile_shape : shapes.compile .default (.ofClass (.declared 0)) = .ok shapeType := rfl

/-- A new entity of the type. -/
def newShape : EntityState := ⟨"Shape", [.int 0, .int 0], .scalar 0, some .empty, some []⟩

theorem newEntity_shape : shapeType.newEntity = .ok newShape := rfl

end Sample

open Sample in
/-- Assigning the height marks both properties and fills both slots. -/
theorem CompiledType.Reachable.well_formed_shape :
    ∃ e, shapeType.Reachable e ∧ e.mask = .scalar 3 ∧ e.slots.length = 2 ∧
      e.channel.isSome = true := by
  have he : shapeType.Reachable _ :=
    .worked (.new newEntity_shape) (Scene.admits_run (shapeType.scene []) 3)
      (.set "height" (.int 5)) ⟨[], 0⟩
  have hformed := Reachable.well_formed compile_shape he
  exact ⟨_, he, rfl, hformed.1, hformed.2.2.2.2.2.2.1⟩

end TrackedEntity
