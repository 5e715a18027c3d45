import TrackedEntity.Proofs.Entity.Invariant
import TrackedEntity.Proofs.Value.Reflexivity

/-!
# Assigning what is there already

An assignment without setter hook compares the new value with the stored one, and ends if they are
equal.  When the new value is the very object that the slot holds, they are, unless the check asks
the values directly and the object denies that it equals itself (`Setter.run_assign_self`).  In
every other case the assignment changes nothing at all, whichever way it is made
(`CompiledType.Reachable.reassignment_changes_nothing`).
-/

namespace TrackedEntity

open Exec

/-! ### One assignment -/

/-- **Assigning the stored object ends at once**, if the check says that it equals itself. -/
theorem Setter.run_assign_self {run : Runner} {m : Moment} {s : Setter} {i : ℕ} {v : Value}
    (hordinal : s.ordinal = (i : ℤ)) (hword : i < 9223372036854775808) (hhook : s.hook = none)
    (hslot : m.entity.slots[i]? = some v)
    (hequal : s.direct = true → Value.directlyEqual v v = .ok true) :
    (s.assign run v).run m = (.ok (), m) := by
  have hcheck : (if s.direct then Value.directlyEqual v v else Value.identityFirst v v) =
      .ok true := by
    split
    · next hdirect => exact hequal hdirect
    · exact Value.identityFirst_self v
  have hdecide : (s.goesAhead run v).run m = (.ok false, m) := by
    unfold Setter.goesAhead
    rw [hhook]
    dsimp only
    rw [hordinal, run_bind_ok (run_readSlot m hword hslot), hcheck]
    rfl
  rw [Setter.run_assign, hdecide]

namespace Value

/-- Whether a value holds others, which are compared identity first when it is compared. -/
def isContainer : Value → Bool
  | .list .. | .tuple .. | .set .. | .frozenset .. | .dict .. | .point .. => true
  | _ => false

/-- A container does not deny that it equals itself, whatever it holds. -/
theorem not_deniesItself_of_isContainer {v : Value} (h : v.isContainer = true) :
    ¬ v.DeniesItself := by
  intro hdenies
  cases v with
  | list | tuple | set | frozenset | dict | point => exact hdenies
  | none | bool | int | str | bytes | float | complex | bytearray | sentinel | comparer | function
  | method | object | entity | channel => cases h

end Value

namespace CompiledType

/-- **Assigning the stored object to a property without setter hook changes nothing.**  The check
for primitive types and the check for all others have one outcome for all values, except where a
value is compared with itself and denies that it equals itself; no container does that, whatever it
holds.  So an entity at any time stays as it is, with its slots, mask and subscribers, and no
handler is called, when a property without setter hook is assigned the object in its slot, by
attribute or by name; unless the type of the property is primitive and the object denies that it
equals itself. -/
theorem Reachable.reassignment_changes_nothing {catalog : Catalog} {settings : Settings}
    {contract : Contract} {t : CompiledType} (h : catalog.compile settings contract = .ok t) :
    (∀ a b : Value, a.Proper →
      (Value.directlyEqual a b = Value.identityFirst a b ↔ ¬ (a = b ∧ a.DeniesItself))) ∧
    (∀ v : Value, v.Proper → v.isContainer = true → Value.directlyEqual v v = .ok true) ∧
    ∀ (m : Moment) (i : ℕ) (p : Property) (v : Value), t.Reachable m.entity →
      t.schema.mutable[i]? = some p → p.extension.bind (·.setter) = none →
      m.entity.slots[i]? = some v → v.Proper → ¬ (p.type.isPrimitive = true ∧ v.DeniesItself) →
      ∀ handlers run,
        ((t.scene handlers).setAttribute run p.name v).run m = (.ok (), m) ∧
        ((t.scene handlers).trySet run (.str p.name) v).run m = (.ok true, m) := by
  refine ⟨fun a b ha => Value.directlyEqual_eq_identityFirst_iff ha, fun v hv hcontainer => ?_, ?_⟩
  · exact (Value.equals_self_iff hv).2 (Value.not_deniesItself_of_isContainer hcontainer)
  · intro m i p v hreachable hp hhook hslot hproper hadmitted handlers run
    have ht := aligned_of_compile h
    have hsound := hreachable.sound ht
    obtain ⟨hmem, hmutable⟩ := mem_properties hp
    -- either way it is the setter of the property that assigns
    have hassign : ((p.compiledSetter t.schema.needsNotification).assign run v).run m =
        (.ok (), m) := by
      refine Setter.run_assign_self (ht.ordinal_eq hp) (hsound.lt_word (lt_mutableCount hp)) hhook
        hslot fun hdirect => ?_
      exact (Value.equals_self_iff hproper).2 fun hdenies => hadmitted ⟨hdirect, hdenies⟩
    have htoken : (t.scene handlers).tokens.get? p.name =
        some (p.compiledToken t.schema.needsNotification) := ht.get?_token hmem
    have hsetter : (p.compiledToken t.schema.needsNotification).setter =
        some (p.compiledSetter t.schema.needsNotification) := setter_compiledToken hmutable
    constructor
    · unfold Scene.setAttribute
      rw [htoken]
      dsimp only
      rw [hsetter]
      exact hassign
    · have hlookup : ((t.scene handlers).token? (.str p.name)).run m =
          (.ok (some (p.compiledToken t.schema.needsNotification)), m) := by
        rw [← htoken]
        rfl
      unfold Scene.trySet
      rw [run_bind_ok hlookup, Option.bind_some, hsetter]
      dsimp only
      rw [run_bind_ok hassign]
      rfl

end CompiledType

open Sample in
/-- What is no number is told apart by the two checks; a list that holds it is not, and assigning
the list again to the property that holds it changes nothing. -/
theorem CompiledType.Reachable.reassignment_changes_nothing_shape :
    ∃ nan list : Value, list = .list (.made 0) [nan] ∧
      Value.directlyEqual nan nan ≠ Value.identityFirst nan nan ∧
      Value.directlyEqual list list = .ok true ∧
      ∃ m : Moment, shapeType.Reachable m.entity ∧ m.entity.slots[0]? = some list ∧
        ((shapeType.scene []).setAttribute ((shapeType.scene []).run 3) "width" list).run m =
          (.ok (), m) := by
  have hnan : (Value.float (.made 1) .notANumber).Proper :=
    Value.closed_proper.of_parts_eq_nil rfl rfl
  have hdenies : (Value.float (.made 1) .notANumber).DeniesItself := by
    show Binary64.isNaN .notANumber = true
    decide
  have hlist : (Value.list (.made 0) [.float (.made 1) .notANumber]).Proper :=
    Value.closed_proper.of_parts rfl fun part hpart => List.mem_singleton.1 hpart ▸ hnan
  obtain ⟨hchecks, hcontainers, hassign⟩ := reassignment_changes_nothing compile_shape
  have he : shapeType.Reachable _ :=
    .worked (.new newEntity_shape) (Scene.admits_run (shapeType.scene []) 3)
      (.set "width" (.list .written [.float .written .notANumber])) ⟨[], 0⟩
  exact ⟨_, _, rfl, fun heq => (hchecks _ _ hnan).1 heq ⟨rfl, hdenies⟩,
    hcontainers _ hlist rfl, ⟨_, [], 2⟩, he, rfl,
    (hassign ⟨_, [], 2⟩ 0 _ _ he rfl rfl rfl hlist (fun h => h.2) [] _).1⟩

end TrackedEntity
