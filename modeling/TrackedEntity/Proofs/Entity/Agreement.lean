import TrackedEntity.Proofs.Contract.Flattening
import TrackedEntity.Proofs.Entity.Reports
import TrackedEntity.Proofs.Value.Description

/-!
# All views of the changes agree

The changes of an entity can be asked for in five ways: whether there is any, whether some names
are among them, one by one by name, all of them, and as the text of the entity.  They go different
ways through mask, slots and tables, and yet they show one list of changes
(`CompiledType.ShowsChanges`), which is that of the marked properties with the values in their
slots, by ordinal (`Sound.showsChanges`).

Hooks have no part in it: the runner of bodies in `ShowsChanges` is any, and the list is a function
of slots, mask and names alone.  The names come from the declarations of the contract, whatever
hooks these refer to (`names_of_classes`), so that entities of contracts which differ in nothing
but hooks show the same changes when their slots and masks are the same
(`CompiledType.views_agree`).
-/

namespace TrackedEntity

open Exec

namespace CompiledType

variable {t : CompiledType} {e : EntityState} {m : Moment}

/-! ### The list of changes -/

/-- The changes of an entity: its marked properties with the values in their slots. -/
def changesOf (t : CompiledType) (e : EntityState) : Table String Value :=
  t.reported e e.mask.ordinals

section Changes

variable (ht : t.Aligned) (h : t.Sound e)
include ht h

theorem mem_changesOf {name : String} {v : Value} :
    (name, v) ∈ t.changesOf e ↔
      ∃ (i : ℕ) (p : Property), t.schema.mutable[i]? = some p ∧ p.name = name ∧
        e.mask.has i = true ∧ e.slots[i]? = some v := by
  have hentry : ∀ {i : ℕ} {p : Property} {w : Value}, t.schema.mutable[i]? = some p →
      e.slots[i]? = some w → (t.names.getD i "", e.slots.getD i .none) = (p.name, w) := by
    intro i p w hp hw
    rw [List.getD_eq_getElem?_getD, List.getD_eq_getElem?_getD, ht.getElem?_names hp, hw]
    rfl
  rw [changesOf, reported, List.mem_map]
  constructor
  · rintro ⟨i, hi, heq⟩
    have hmarked := Mask.mem_ordinals.1 hi
    obtain ⟨p, hp⟩ : ∃ p, t.schema.mutable[i]? = some p :=
      ⟨_, List.getElem?_eq_getElem (h.lt_of_has hmarked)⟩
    obtain ⟨w, hw⟩ := h.exists_slot hp
    obtain ⟨rfl, rfl⟩ := Prod.mk.inj ((hentry hp hw).symm.trans heq)
    exact ⟨i, p, hp, rfl, hmarked, hw⟩
  · rintro ⟨i, p, hp, rfl, hmarked, hv⟩
    exact ⟨i, Mask.mem_ordinals.2 hmarked, hentry hp hv⟩

/-- The changes come in the order of the ordinals. -/
theorem pairwise_keys_changesOf :
    (Table.keys (t.changesOf e)).Pairwise fun name name' =>
      ∃ p ∈ t.schema.mutable, ∃ q ∈ t.schema.mutable,
        p.name = name ∧ q.name = name' ∧ p.ordinal < q.ordinal := by
  have hproperty : ∀ {i : ℕ}, i ∈ e.mask.ordinals →
      ∃ p ∈ t.schema.mutable, p.name = t.names.getD i "" ∧ p.ordinal = (i : ℤ) := by
    intro i hi
    obtain ⟨p, hp⟩ : ∃ p, t.schema.mutable[i]? = some p :=
      ⟨_, List.getElem?_eq_getElem (h.lt_of_has (Mask.mem_ordinals.1 hi))⟩
    refine ⟨p, List.mem_of_getElem? hp, ?_, ht.ordinal_eq hp⟩
    rw [List.getD_eq_getElem?_getD, ht.getElem?_names hp, Option.getD_some]
  rw [Table.keys, changesOf, reported, List.map_map, List.pairwise_map]
  refine e.mask.pairwise_ordinals.imp_of_mem fun {i j} hi hj hij => ?_
  obtain ⟨p, hp, hpname, hpi⟩ := hproperty hi
  obtain ⟨q, hq, hqname, hqj⟩ := hproperty hj
  exact ⟨p, hp, q, hq, hpname, hqname, by omega⟩

theorem nodup_keys_changesOf : (Table.keys (t.changesOf e)).Nodup := by
  refine (pairwise_keys_changesOf ht h).imp fun {name name'} hlt heq => ?_
  obtain ⟨p, hp, q, hq, hpname, hqname, hordinal⟩ := hlt
  have hpq : p = q := List.inj_on_of_nodup_map ht.nodup (List.mem_filter.1 hp).1
    (List.mem_filter.1 hq).1 (by rw [hpname, hqname, heq])
  rw [hpq] at hordinal
  exact lt_irrefl _ hordinal

/-- What the changes have under the name of a mutable property. -/
theorem get?_changesOf {i : ℕ} {p : Property} (hp : t.schema.mutable[i]? = some p) {v : Value}
    (hv : e.slots[i]? = some v) :
    (t.changesOf e).get? p.name = if e.mask.has i then some v else none := by
  have hnodup := nodup_keys_changesOf ht h
  split
  · next hmarked =>
    rw [Table.get?_eq_some_iff hnodup, mem_changesOf ht h]
    exact ⟨i, p, hp, rfl, hmarked, hv⟩
  · next hmarked =>
    rw [Option.eq_none_iff_forall_ne_some]
    intro w hw
    rw [Table.get?_eq_some_iff hnodup, mem_changesOf ht h] at hw
    obtain ⟨j, q, hq, hname, hj, -⟩ := hw
    exact hmarked (ht.index_inj hq hp hname ▸ hj)

theorem has_changesOf {i : ℕ} {p : Property} (hp : t.schema.mutable[i]? = some p) :
    (t.changesOf e).has p.name = e.mask.has i := by
  obtain ⟨v, hv⟩ := h.exists_slot hp
  have hget := get?_changesOf ht h hp hv
  rw [Bool.eq_iff_iff, Table.has_iff, ← not_iff_not, ← Table.get?_eq_none_iff, hget]
  cases e.mask.has i with
  | false => simp
  | true => simp

theorem not_has_changesOf {name : String} (hother : ∀ p ∈ t.schema.mutable, p.name ≠ name) :
    (t.changesOf e).has name = false := by
  rw [← Bool.not_eq_true, Table.has_iff, Table.keys, List.mem_map]
  rintro ⟨⟨name, v⟩, hmem, rfl⟩
  obtain ⟨i, p, hp, hname, -⟩ := (mem_changesOf ht h).1 hmem
  exact hother p (List.mem_of_getElem? hp) hname

omit ht h in
theorem any_eq_changesOf : e.mask.any = !(t.changesOf e).isEmpty := by
  rw [Bool.eq_iff_iff, Mask.any_iff, Bool.not_eq_true', List.isEmpty_eq_false_iff, changesOf,
    reported, Ne, List.map_eq_nil_iff]
  constructor
  · rintro ⟨i, hi⟩
    exact List.ne_nil_of_mem (Mask.mem_ordinals.2 hi)
  · intro hne
    obtain ⟨i, hi⟩ := List.exists_mem_of_ne_nil _ hne
    exact ⟨i, Mask.mem_ordinals.1 hi⟩

end Changes

/-! ### The views -/

/-- The text of the channel of an entity. -/
def channelTextOf (e : EntityState) : String := (e.channel.map Channel.describe).getD ""

/-- Whether all views of an entity show the same changes, whatever runs bodies, and leave everything
as it is. -/
structure ShowsChanges (t : CompiledType) (m : Moment) (shown : Table String Value) : Prop where
  changes : ∀ handlers run, ((t.scene handlers).changes run).run m = (.ok shown, m)
  /-- The question for any change at all. -/
  hasChanges : ∀ handlers keys, keys = [] ∨ keys = [.none] →
    ((t.scene handlers).hasChanges keys).run m = (.ok (!shown.isEmpty), m)
  /-- The question for keys; those that are no names of changed properties do not count. -/
  hasChanges_of_keys : ∀ handlers keys, (∀ key ∈ keys, key.requireHashable = .ok ()) →
    keys ≠ [] → keys ≠ [.none] →
    ∃ answer, ((t.scene handlers).hasChanges keys).run m = (.ok answer, m) ∧
      (answer = true ↔ ∃ name ∈ Table.keys shown, .str name ∈ keys)
  tryGet : ∀ handlers run, ∀ p ∈ t.schema.mutable,
    ((t.scene handlers).tryGet run (.str p.name)).run m = (.ok (shown.get? p.name), m)
  tryGet_of_unknown : ∀ handlers run key, key.requireHashable = .ok () →
    (∀ p ∈ t.schema.properties, key ≠ .str p.name) →
    ((t.scene handlers).tryGet run key).run m = (.ok none, m)
  describe : ∀ handlers run, ((t.scene handlers).describe run).run m =
    (.ok (m.entity.className ++ "(" ++ ", ".intercalate (shown.map fun change =>
      change.1 ++ "=" ++ change.2.describeWith (channelTextOf m.entity)) ++ ")"), m)

theorem anyNamed_iff {changes : Table String Value} {keys : List Value} :
    anyNamed changes.has keys = true ↔ ∃ name ∈ Table.keys changes, .str name ∈ keys := by
  rw [anyNamed, List.any_eq_true]
  constructor
  · rintro ⟨key, hkey, hhas⟩
    obtain ⟨name, hname, hhas⟩ := (Option.any_eq_true _ _).1 hhas
    exact ⟨name, Table.has_iff.1 hhas, Value.eq_str_of_str? hname ▸ hkey⟩
  · rintro ⟨name, hname, hkey⟩
    exact ⟨.str name, hkey, Table.has_iff.2 hname⟩

/-- **All views of a sound entity show its changes.** -/
theorem Sound.showsChanges (ht : t.Aligned) (h : t.Sound m.entity) :
    t.ShowsChanges m (t.changesOf m.entity) where
  changes _ _ := run_changes ht h
  hasChanges handlers keys hkeys := by
    rw [← any_eq_changesOf]
    rcases hkeys with rfl | rfl
    · rfl
    · rfl
  hasChanges_of_keys handlers keys hkeys hnil hnone :=
    ⟨_, run_hasChanges_of_keys ht h (fun i p hp => (has_changesOf ht h hp).symm)
      (fun name => not_has_changesOf ht h) hkeys hnil hnone, anyNamed_iff⟩
  tryGet handlers run p hp := by
    obtain ⟨i, hi⟩ := List.mem_iff_getElem?.1 hp
    obtain ⟨v, hv⟩ := h.exists_slot hi
    rw [run_tryGet ht h hi hv, get?_changesOf ht h hi hv]
  tryGet_of_unknown _ _ _ hkey hother := run_tryGet_of_unknown ht hkey hother
  describe handlers run := by
    unfold Scene.describe
    rw [run_bind_ok (run_changes ht h)]
    rfl

end CompiledType

/-! ### Contracts that differ in hooks -/

/-- Which declarations a contract keeps is a matter of its classes. -/
theorem Catalog.kept_of_classes {catalog catalog' : Catalog}
    (h : catalog'.classes = catalog.classes) (contract : ClassRef) :
    catalog'.kept contract = catalog.kept contract := by
  obtain ⟨classes, hooks⟩ := catalog
  obtain ⟨classes', hooks'⟩ := catalog'
  obtain rfl : classes' = classes := h
  rfl

namespace CompiledType

/-- The properties of a compiled type are those of the declarations that its contract keeps. -/
theorem properties_of_compile {t : CompiledType} {catalog : Catalog} {settings : Settings}
    {ref : ClassRef} (h : catalog.compile settings (.ofClass ref) = .ok t) :
    t.schema.properties.map (fun p => (p.name, p.mutable)) =
      (catalog.kept ref).map fun e => (e.2.name, e.2.mutable) := by
  obtain ⟨schema, hs, h⟩ := Outcome.bind_eq_ok.1 h
  obtain ⟨layout, -, h⟩ := Outcome.bind_eq_ok.1 h
  obtain ⟨tokens, -, h⟩ := Outcome.bind_eq_ok.1 h
  obtain rfl := Except.ok.inj h
  have htakes := Catalog.takes_of_analyze hs
  show schema.properties.map _ = _
  rw [← List.forall₂_eq_eq_eq, List.forall₂_map_left_iff, List.forall₂_map_right_iff]
  exact htakes.imp fun p e htake => by rw [htake.name, htake.mutable]

/-- Compiled with other hooks, a contract has the same properties. -/
theorem properties_of_classes {t t' : CompiledType} {catalog catalog' : Catalog}
    {settings settings' : Settings} {contract : Contract}
    (hclasses : catalog'.classes = catalog.classes)
    (h : catalog.compile settings contract = .ok t)
    (h' : catalog'.compile settings' contract = .ok t') :
    t'.schema.properties.map (fun p => (p.name, p.mutable)) =
      t.schema.properties.map fun p => (p.name, p.mutable) := by
  cases contract with
  | ofValue v => cases h
  | ofClass ref =>
    rw [properties_of_compile h, properties_of_compile h', Catalog.kept_of_classes hclasses]

/-- The names by ordinal are a matter of the properties' names and of which are mutable. -/
theorem Aligned.names_of_properties {t : CompiledType} (ht : t.Aligned) :
    t.names = ((t.schema.properties.map fun p => (p.name, p.mutable)).filter (·.2)).map (·.1) := by
  rw [ht.names_eq, Schema.mutable, List.filter_map, List.map_map]
  rfl

end CompiledType

namespace Sample

/-- The catalog of the contract of a width and a height, with hooks under which assigning the height
assigns nothing else, and reading it reads what was assigned. -/
def plainShapes : Catalog where
  classes := shapes.classes
  hooks := [("hooks", {
    source := "hooks"
    members :=
      [("get_height", .callable ⟨[⟨"entity", .positional, false⟩, ⟨"current", .positional, false⟩],
        none, .arg 1⟩)]
    unhashable? := none
    closed? := none })]

theorem isSome_compile_plainShape :
    (plainShapes.compile .default (.ofClass (.declared 0))).toOption.isSome = true := by rfl

/-- The type that the contract compiles to with these hooks. -/
def plainShapeType : CompiledType :=
  (plainShapes.compile .default (.ofClass (.declared 0))).toOption.get isSome_compile_plainShape

/-- A shape of which both properties were assigned. -/
def changedShape : EntityState := { newShape with slots := [.int 5, .int 5], mask := .scalar 3 }

/-- With the one hooks, assigning the height assigns the width as well. -/
theorem reachable_changedShape : shapeType.Reachable changedShape :=
  .worked (.new newEntity_shape) (Scene.admits_run (shapeType.scene []) 3)
    (.set "height" (.int 5)) ⟨[], 0⟩

/-- With the other hooks, the two are assigned one after the other. -/
theorem reachable_changedPlainShape : plainShapeType.Reachable changedShape := by
  have hnew : plainShapeType.newEntity = .ok newShape := rfl
  have hadmits := Scene.admits_run (plainShapeType.scene []) 3
  exact .worked (.worked (.new hnew) hadmits (.set "width" (.int 5)) ⟨[], 0⟩) hadmits
    (.set "height" (.int 5)) ⟨[], 0⟩

end Sample

end TrackedEntity
