import TrackedEntity.Hook.Resolution
import TrackedEntity.Proofs.Outcome

/-!
# When hooks can be resolved

`HookDirectory.Resolves` says of the members of a directory what `HookDirectory.resolve` finds out
step by step (`HookDirectory.exists_resolve_iff`): a getter that can be called with the entity, or
with the entity and the current value, and, where the property can be set and there is a setter, a
setter that can be called with the entity and the new value and whose result is a truth value.
-/

namespace TrackedEntity

open Outcome

/-- Whether a member is a hook that can be called by position. -/
def HookMember.Callable (m : HookMember) (hook : Hook) : Prop :=
  m = .callable hook ∧ hook.signature.neededKeyword? = none

theorem HookMember.inspect_eq_ok_iff {m : HookMember} {label : String} {hook : Hook} :
    m.inspect label = .ok hook ↔ m.Callable hook := by
  cases m with
  | value v => exact ⟨fun h => (by cases h), fun h => by cases h.1⟩
  | uninspectable reason => exact ⟨fun h => (by cases h), fun h => by cases h.1⟩
  | callable hook' =>
    rw [inspect]
    cases hneeded : hook'.signature.neededKeyword? with
    | none =>
      constructor
      · rintro ⟨⟩
        exact ⟨rfl, hneeded⟩
      · rintro ⟨⟨⟩, -⟩
        rfl
    | some p =>
      refine ⟨fun h => (by cases h), ?_⟩
      rintro ⟨⟨⟩, hnone⟩
      rw [hneeded] at hnone
      cases hnone

namespace HookDirectory

theorem checkGetter_eq_ok_iff {label : String} {m : HookMember} {found : Hook × Bool} :
    checkGetter label m = .ok found ↔ m.Callable found.1 ∧
      (found.1.signature.admits 2 = true ∨ found.1.signature.admits 1 = true) ∧
      found.2 = found.1.signature.admits 2 := by
  obtain ⟨hook, passesCurrent⟩ := found
  rw [checkGetter, bind_eq_ok]
  simp only [HookMember.inspect_eq_ok_iff]
  constructor
  · rintro ⟨hook', hcallable, h⟩
    by_cases htwo : hook'.signature.admits 2 = true
    · rw [if_pos htwo] at h
      obtain ⟨rfl, rfl⟩ := Prod.mk.inj (Except.ok.inj h)
      exact ⟨hcallable, .inl htwo, htwo.symm⟩
    · rw [if_neg htwo] at h
      by_cases hone : hook'.signature.admits 1 = true
      · rw [if_pos hone] at h
        obtain ⟨rfl, rfl⟩ := Prod.mk.inj (Except.ok.inj h)
        exact ⟨hcallable, .inr hone, (eq_false_of_ne_true htwo).symm⟩
      · rw [if_neg hone] at h
        cases h
  · rintro ⟨hcallable, hadmits, rfl⟩
    refine ⟨hook, hcallable, ?_⟩
    by_cases htwo : hook.signature.admits 2 = true
    · rw [if_pos htwo, htwo]
      rfl
    · rw [if_neg htwo, if_pos (hadmits.resolve_left htwo), eq_false_of_ne_true htwo]
      rfl

theorem checkSetter_eq_ok_iff {label : String} {m : HookMember} {hook : Hook} :
    checkSetter label m = .ok hook ↔
      m.Callable hook ∧ hook.signature.admits 2 = true ∧ hook.returnsTruth = true := by
  rw [checkSetter, bind_eq_ok]
  simp only [HookMember.inspect_eq_ok_iff]
  constructor
  · rintro ⟨hook', hcallable, h⟩
    cases hadmits : hook'.signature.admits 2 with
    | false =>
      rw [hadmits] at h
      cases h
    | true =>
      cases htruth : hook'.returnsTruth with
      | false =>
        rw [hadmits, htruth] at h
        cases h
      | true =>
        rw [hadmits, htruth] at h
        obtain rfl := Except.ok.inj h
        exact ⟨hcallable, hadmits, htruth⟩
  · rintro ⟨hcallable, hadmits, htruth⟩
    refine ⟨hook, hcallable, ?_⟩
    rw [hadmits, htruth]
    rfl

/-- **Whether a directory has the hooks of a property.** -/
structure Resolves (d : HookDirectory) (property : String) (settable : Bool) : Prop where
  getter : ∃ m hook, d.member? ("get_" ++ property) = some m ∧ m.Callable hook ∧
    (hook.signature.admits 2 = true ∨ hook.signature.admits 1 = true)
  setter : settable = true → ∀ m, d.member? ("set_" ++ property) = some m →
    ∃ hook, m.Callable hook ∧ hook.signature.admits 2 = true ∧ hook.returnsTruth = true

theorem exists_resolve_iff {d : HookDirectory} {property : String} {settable : Bool} :
    (∃ extension, d.resolve property settable = .ok extension) ↔ d.Resolves property settable := by
  have hsetter : (∃ setter, (if settable then d.member? ("set_" ++ property) else none).mapM
      (checkSetter (d.source ++ ".set_" ++ property)) = .ok setter) ↔
      (settable = true → ∀ m, d.member? ("set_" ++ property) = some m →
        ∃ hook, m.Callable hook ∧ hook.signature.admits 2 = true ∧ hook.returnsTruth = true) := by
    rw [exists_mapM_option_iff]
    simp only [checkSetter_eq_ok_iff]
    cases settable with
    | false => simp
    | true => simp
  rw [resolve]
  cases hmember : d.member? ("get_" ++ property) with
  | none =>
    constructor
    · rintro ⟨extension, h⟩
      cases h
    · intro h
      obtain ⟨m, hook, hm, -⟩ := h.getter
      rw [hmember] at hm
      cases hm
  | some m =>
    simp only [bind_eq_ok, checkGetter_eq_ok_iff]
    constructor
    · rintro ⟨extension, found, ⟨hcallable, hadmits, -⟩, setter, hset, -⟩
      exact ⟨⟨m, found.1, hmember, hcallable, hadmits⟩, hsetter.1 ⟨setter, hset⟩⟩
    · rintro ⟨⟨m', hook, hm, hcallable, hadmits⟩, hset⟩
      obtain rfl := Option.some.inj (hmember.symm.trans hm)
      obtain ⟨setter, hset⟩ := hsetter.2 hset
      exact ⟨_, (hook, hook.signature.admits 2), ⟨hcallable, hadmits, rfl⟩, setter, hset, rfl⟩

end HookDirectory

end TrackedEntity
