import TrackedEntity.Proofs.Contract.Rejection
import TrackedEntity.Proofs.Number.Rounding

/-!
# The guard against methods

The guard compares the methods of a contract with the product of a ratio and the number of its
properties.  It only gates: analysis with a ratio fails with the fault of the guard or goes as
analysis without one, and what passes with a ratio passes with every larger one
(`Catalog.guard_gates`).

The product is a rounded one, and everything is said of the exact product as well (`Arithmetic`).
That larger ratios have no smaller products is clear for exact products, and for rounded ones it is
what `TrackedEntity.Proofs.Number.Rounding` is about.

With the ratio two, the two accessors of a mutable property are what the property allows, and a
read-only property leaves room for one method.  So the guard counts methods against read-only
properties (`MethodRatio.two_exceededIn_iff`).
-/

namespace TrackedEntity

open Outcome

/-! ### Products -/

/-- How the product of a ratio and a number of properties is taken. -/
inductive Arithmetic where
  /-- As a floating point number. -/
  | rounded
  /-- Without rounding. -/
  | exact

/-- The product of an exact number and a natural number. -/
def Exact.timesNat : Exact → ℕ → Exact
  | .notANumber, _ => .notANumber
  | .infinite s, n => if n = 0 then .notANumber else .infinite s
  | .finite m e, n => .finite (m * n) e

namespace MethodRatio

/-- Whether a number of methods exceeds the ratio for a number of properties, in an arithmetic. -/
def exceededIn (ratio : MethodRatio) (how : Arithmetic) (methods properties : ℕ) : Bool :=
  match how with
  | .rounded => ratio.exceededBy methods properties
  | .exact => (ratio.value.exact.timesNat properties).less (.ofInt methods)

/-- Whether a ratio is at most another one. -/
def AtMost (ratio ratio' : MethodRatio) : Prop :=
  ratio.value.exact.atMost ratio'.value.exact = true

variable {ratio ratio' : MethodRatio} {how : Arithmetic} {methods properties : ℕ}

theorem exact_cases (ratio : MethodRatio) :
    ratio.value.exact = .infinite false ∨ ∃ (m : ℕ) (e : ℤ), ratio.value.exact = .finite m e := by
  have h := ratio.notNegative
  cases hexact : ratio.value.exact with
  | notANumber =>
    rw [hexact] at h
    cases h
  | infinite negative =>
    rw [hexact] at h
    cases negative with
    | true => cases h
    | false => exact .inl rfl
  | finite m e =>
    rw [hexact, Exact.ofInt, Exact.atMost_finite_iff, Int.cast_zero, zero_mul] at h
    have hm : 0 ≤ m := by
      have hcast : (0 : ℚ) ≤ m := nonneg_of_mul_nonneg_left h (by positivity)
      exact_mod_cast hcast
    obtain ⟨k, rfl⟩ := Int.eq_ofNat_of_zero_le hm
    exact .inr ⟨k, e, rfl⟩

/-- No number of methods exceeds an infinite ratio. -/
theorem not_exceededIn_of_infinite (h : ratio.value.exact = .infinite false) :
    ratio.exceededIn how methods properties = false := by
  cases how with
  | rounded =>
    rw [exceededIn, exceededBy, Binary64.timesNat, h]
    dsimp only
    split <;> rfl
  | exact =>
    rw [exceededIn, h, Exact.timesNat]
    split <;> rfl

theorem exceededIn_exact_iff {m : ℕ} {e : ℤ} (h : ratio.value.exact = .finite m e) :
    ratio.exceededIn .exact methods properties = true ↔
      (m * properties * 2 ^ e : ℚ) < methods := by
  rw [exceededIn, h, Exact.timesNat, Exact.ofInt, Exact.less_finite_iff]
  push_cast
  rw [mul_one]

/-- **What exceeds a ratio exceeds every smaller one.** -/
theorem AtMost.exceededIn (h : ratio.AtMost ratio')
    (hexceeded : ratio'.exceededIn how methods properties = true) :
    ratio.exceededIn how methods properties = true := by
  rcases ratio'.exact_cases with hinfinite | ⟨m', e', hexact'⟩
  · rw [not_exceededIn_of_infinite hinfinite] at hexceeded
    cases hexceeded
  rw [AtMost, hexact'] at h
  rcases ratio.exact_cases with hinfinite | ⟨m, e, hexact⟩
  · rw [hinfinite] at h
    cases h
  rw [hexact, Exact.atMost_finite_iff, Int.cast_natCast, Int.cast_natCast] at h
  have hproduct : (m * properties * 2 ^ e : ℚ) ≤ m' * properties * 2 ^ e' := by
    rw [mul_right_comm, mul_right_comm (m' : ℚ)]
    exact mul_le_mul_of_nonneg_right h (by positivity)
  cases how with
  | exact =>
    rw [exceededIn_exact_iff hexact'] at hexceeded
    exact (exceededIn_exact_iff hexact).2 (hproduct.trans_lt hexceeded)
  | rounded =>
    obtain ⟨q, s, hrounds, hless⟩ := Binary64.exists_timesNat hexact properties
    obtain ⟨q', s', hrounds', hless'⟩ := Binary64.exists_timesNat hexact' properties
    obtain ⟨hfinite, hbelow⟩ := (hless' methods).1 hexceeded
    exact (hless methods).2 ⟨(hrounds.patternOf_mono hrounds' hproduct).trans_lt hfinite,
      (hrounds.value_mono hrounds' hproduct).trans_lt hbelow⟩

/-- Twice a number of properties is taken without rounding, unless there are too many of them for a
floating point number. -/
theorem two_exceededIn_iff (h : how = .rounded → properties ≤ 2 ^ 53) :
    two.exceededIn how methods properties = true ↔ 2 * properties < methods := by
  have hexact : two.value.exact = .finite ((2 ^ 52 : ℕ) : ℤ) (-51) := by decide +kernel
  have hproduct : ((2 ^ 52 : ℕ) * properties * 2 ^ (-51 : ℤ) : ℚ) = properties * 2 ^ (1 : ℤ) := by
    have hpow : (2 : ℚ) ^ (1 : ℤ) = (2 ^ 52 : ℕ) * 2 ^ (-51 : ℤ) := by
      rw [← two_zpow_add]
      norm_num
    rw [hpow]
    ring
  have htwice : (properties * 2 ^ (1 : ℤ) : ℚ) < methods ↔ 2 * properties < methods := by
    rw [zpow_one, mul_comm]
    exact_mod_cast Iff.rfl
  cases how with
  | exact => rw [exceededIn_exact_iff hexact, hproduct, htwice]
  | rounded =>
    have hfew := h rfl
    obtain ⟨q, s, hrounds, hless⟩ := Binary64.exists_timesNat hexact properties
    rw [hproduct] at hrounds
    have hvalue := hrounds.value_eq hfew (by norm_num) rfl
    have hfinite : Binary64.patternOf q s < Binary64.infinityPattern := by
      have hq : q ≤ 2 := by
        rcases hrounds.full with rfl | hlarge
        · norm_num
        · have hlt : (2 : ℚ) ^ (q + 52) < 2 ^ (55 : ℤ) := by
            refine hlarge.trans_lt ?_
            calc (properties * 2 ^ (1 : ℤ) : ℚ) ≤ (2 ^ 53 : ℕ) * 2 ^ (1 : ℤ) :=
                  mul_le_mul_of_nonneg_right (by exact_mod_cast hfew) (by positivity)
              _ < 2 ^ (55 : ℤ) := by norm_num
          have := (zpow_lt_zpow_iff_right₀ (one_lt_two (α := ℚ))).1 hlt
          omega
      have hs := hrounds.significand_le
      have hinfinity : Binary64.infinityPattern = 2047 * 2 ^ 52 := rfl
      rw [Binary64.patternOf, twoPow_eq, hinfinity]
      omega
    exact (hless methods).trans (by rw [hvalue, htwice, and_iff_right hfinite])

end MethodRatio

/-! ### Analysis in two parts -/

namespace Catalog

variable (catalog : Catalog) (contract : ClassRef)

/-- The part of analysis before the guard: the walk. -/
def collect : Except Fault Collected := do
  if catalog.classes.derivesFromCompiled contract then
    throw (.alreadyCompiled (catalog.classes.definition contract).qualname)
  catalog.collectFrom .empty (catalog.inspected contract)

/-- The part of analysis after the guard: the properties. -/
def finish (collected : Collected) : Except Fault Schema := do
  let properties ← catalog.propertiesFrom 0 (collected.declared.map (·.2))
  return {
    contract, properties
    needsNotification := (catalog.classes.contracts contract).contains .notifyPropertyChanged
    annotations := collected.annotations }

/-- Analysis with a ratio, or none, in an arithmetic. -/
def analyzeIn (how : Arithmetic) (ratio : Option MethodRatio) : Except Fault Schema := do
  let collected ← catalog.collect contract
  if ratio.any (·.exceededIn how collected.methodCount collected.declared.length) then
    throw (.tooManyMethods (catalog.classes.definition contract).qualname collected.methodCount
      collected.declared.length)
  catalog.finish contract collected

/-- The number of read-only properties among the winning declarations. -/
def readOnlyCount : ℕ := ((catalog.winners contract).filter (!·.mutable)).length

/-- The fault of the guard: the methods together with the accessors, two of a mutable property and
one of a read-only one. -/
def guardFault : Fault :=
  .tooManyMethods (catalog.classes.definition contract).qualname
    (catalog.methods contract + 2 * ((catalog.winners contract).filter (·.mutable)).length +
      catalog.readOnlyCount contract)
    (catalog.winners contract).length

variable {catalog contract} {how : Arithmetic} {ratio : Option MethodRatio}

theorem analyze_eq_analyzeIn (settings : Settings) :
    catalog.analyze settings contract =
      catalog.analyzeIn contract .rounded settings.methodRatio := by
  obtain ⟨ratio, strip⟩ := settings
  rw [analyze, analyzeIn, collect]
  cases catalog.classes.derivesFromCompiled contract with
  | true => rfl
  | false => cases ratio <;> rfl

theorem collect_eq_ok_iff {collected : Collected} :
    catalog.collect contract = .ok collected ↔
      catalog.classes.derivesFromCompiled contract = false ∧
        catalog.collectFrom .empty (catalog.inspected contract) = .ok collected := by
  rw [collect]
  cases catalog.classes.derivesFromCompiled contract with
  | true => exact ⟨fun h => (by cases h), fun h => by cases h.1⟩
  | false => exact ⟨fun h => ⟨rfl, h⟩, fun h => h.2⟩

/-- The numbers that the guard compares. -/
theorem collected_of_collect {collected : Collected}
    (h : catalog.collect contract = .ok collected) :
    collected.declared.length = (catalog.winners contract).length ∧
      collected.methodCount = catalog.methods contract +
        2 * ((catalog.winners contract).filter (·.mutable)).length +
        catalog.readOnlyCount contract :=
  (collected_eq (collect_eq_ok_iff.1 h).2).2

/-- Analysis of what was collected: the guard, and then the properties. -/
theorem analyzeIn_of_collect {collected : Collected}
    (h : catalog.collect contract = .ok collected) :
    catalog.analyzeIn contract how ratio =
      if ratio.any (·.exceededIn how collected.methodCount collected.declared.length) then
        .error (catalog.guardFault contract)
      else catalog.finish contract collected := by
  obtain ⟨hlength, hcount⟩ := collected_of_collect h
  rw [analyzeIn, h, guardFault, ← hlength, ← hcount]
  show (if _ then _ else _) = _
  split <;> rfl

theorem analyzeIn_of_not_collect {f : Fault} (h : catalog.collect contract = .error f) :
    catalog.analyzeIn contract how ratio = .error f := by
  rw [analyzeIn, h]
  rfl

/-- What is found wrong after the guard is not a fault of the guard. -/
theorem finish_ne_guardFault (collected : Collected) :
    catalog.finish contract collected ≠ .error (catalog.guardFault contract) := by
  intro h
  have hfails : FailsWith Fault.OfProperty (catalog.finish contract collected) :=
    (rejects_propertiesFrom 0 _).bind fun ps => .ok _ _
  rcases hfails _ h with ⟨name, owner, heq⟩ | hkind
  · cases heq
  · cases hkind

/-! ### What the guard does -/

/-- A ratio that is not exceeded is as good as none. -/
theorem analyzeIn_some (ratio : MethodRatio) :
    catalog.analyzeIn contract how (some ratio) = .error (catalog.guardFault contract) ∨
      catalog.analyzeIn contract how (some ratio) = catalog.analyzeIn contract how none := by
  cases hcollect : catalog.collect contract with
  | error f =>
    rw [analyzeIn_of_not_collect hcollect, analyzeIn_of_not_collect hcollect]
    exact .inr rfl
  | ok collected =>
    rw [analyzeIn_of_collect hcollect, analyzeIn_of_collect hcollect, Option.any_some,
      Option.any_none]
    cases ratio.exceededIn how collected.methodCount collected.declared.length with
    | true => exact .inl rfl
    | false => exact .inr rfl

/-- The fault of the guard is raised exactly if the ratio is exceeded. -/
theorem analyzeIn_eq_guardFault_iff {collected : Collected}
    (h : catalog.collect contract = .ok collected) (ratio : MethodRatio) :
    catalog.analyzeIn contract how (some ratio) = .error (catalog.guardFault contract) ↔
      ratio.exceededIn how (catalog.methods contract +
        2 * ((catalog.winners contract).filter (·.mutable)).length + catalog.readOnlyCount contract)
        (catalog.winners contract).length = true := by
  obtain ⟨hlength, hcount⟩ := collected_of_collect h
  rw [analyzeIn_of_collect h, Option.any_some, ← hlength, ← hcount]
  split
  · next hexceeded => exact iff_of_true rfl hexceeded
  · next hexceeded => exact iff_of_false (finish_ne_guardFault collected) hexceeded

theorem analyzeIn_of_atMost {ratio ratio' : MethodRatio} (hle : ratio.AtMost ratio') {s : Schema}
    (h : catalog.analyzeIn contract how (some ratio) = .ok s) :
    catalog.analyzeIn contract how (some ratio') = .ok s := by
  cases hcollect : catalog.collect contract with
  | error f =>
    rw [analyzeIn_of_not_collect hcollect] at h
    cases h
  | ok collected =>
    rw [analyzeIn_of_collect hcollect, Option.any_some] at h
    rw [analyzeIn_of_collect hcollect, Option.any_some]
    split at h
    · cases h
    · next hexceeded => rwa [if_neg (mt hle.exceededIn hexceeded)]

/-- **With the ratio two, the guard counts methods against read-only properties.** -/
theorem analyzeIn_two_eq_guardFault_iff
    (hfew : how = .rounded → (catalog.winners contract).length ≤ 2 ^ 53) {collected : Collected}
    (h : catalog.collect contract = .ok collected) :
    catalog.analyzeIn contract how (some .two) = .error (catalog.guardFault contract) ↔
      catalog.readOnlyCount contract < catalog.methods contract := by
  rw [analyzeIn_eq_guardFault_iff h, MethodRatio.two_exceededIn_iff hfew]
  have hsplit := List.length_eq_length_filter_add (l := catalog.winners contract) (·.mutable)
  rw [readOnlyCount]
  omega

/-- The read-only properties of a schema are those among the winning declarations. -/
theorem readOnlyCount_of_analyzeIn {s : Schema}
    (h : catalog.analyzeIn contract how ratio = .ok s) :
    (s.properties.filter (!·.mutable)).length = catalog.readOnlyCount contract := by
  cases hcollect : catalog.collect contract with
  | error f =>
    rw [analyzeIn_of_not_collect hcollect] at h
    cases h
  | ok collected =>
    rw [analyzeIn_of_collect hcollect] at h
    split at h
    · cases h
    · obtain ⟨ps, hps, hs⟩ := bind_eq_ok.1 h
      obtain rfl := Except.ok.inj hs
      have hwinners := (collected_eq (collect_eq_ok_iff.1 hcollect).2).1
      have hmutable : ps.map (·.mutable) = (catalog.winners contract).map (·.mutable) := by
        have htakes := takes_of_propertiesFrom hps
        rw [List.forall₂_map_right_iff] at htakes
        rw [← hwinners, ← List.forall₂_eq_eq_eq, List.map_map, List.forall₂_map_left_iff,
          List.forall₂_map_right_iff]
        exact htakes.imp fun p e htake => htake.mutable
      have hcount : ((ps.map (·.mutable)).filter (!·)).length =
          (((catalog.winners contract).map (·.mutable)).filter (!·)).length := by rw [hmutable]
      rw [List.filter_map, List.length_map, List.filter_map, List.length_map] at hcount
      exact hcount

theorem methods_eq_sum : catalog.methods contract =
    ((catalog.inspected contract).map fun c => (catalog.classes.definition c).methodCount).sum := by
  rw [methods, List.sum_eq_foldl, List.foldl_map]

/-- **Contracts without methods are not rejected by the guard** with the ratio two. -/
theorem analyzeIn_two_of_no_methods
    (hfew : how = .rounded → (catalog.winners contract).length ≤ 2 ^ 53)
    (hnone : ∀ c ∈ catalog.inspected contract, (catalog.classes.definition c).methodCount = 0) :
    catalog.analyzeIn contract how (some .two) = catalog.analyzeIn contract how none := by
  have hmethods : catalog.methods contract = 0 := by
    rw [methods_eq_sum, List.sum_eq_zero_iff]
    exact List.forall_mem_map.2 hnone
  cases hcollect : catalog.collect contract with
  | error f => rw [analyzeIn_of_not_collect hcollect, analyzeIn_of_not_collect hcollect]
  | ok collected =>
    refine (analyzeIn_some _).resolve_left fun hfault => ?_
    have hlt := (analyzeIn_two_eq_guardFault_iff hfew hcollect).1 hfault
    omega

/-- **The guard only gates.** -/
theorem guard_gates (catalog : Catalog) (contract : ClassRef) :
    (∀ settings : Settings, catalog.analyze settings contract =
      catalog.analyzeIn contract .rounded settings.methodRatio) ∧
    ∀ how : Arithmetic,
      (∀ ratio,
        catalog.analyzeIn contract how (some ratio) = .error (catalog.guardFault contract) ∨
        catalog.analyzeIn contract how (some ratio) = catalog.analyzeIn contract how none) ∧
      (∀ (ratio ratio' : MethodRatio) (s : Schema), ratio.AtMost ratio' →
        catalog.analyzeIn contract how (some ratio) = .ok s →
        catalog.analyzeIn contract how (some ratio') = .ok s) ∧
      (∀ s, catalog.analyzeIn contract how none = .ok s →
        (s.properties.filter (!·.mutable)).length = catalog.readOnlyCount contract) ∧
      ((how = .rounded → (catalog.winners contract).length ≤ 2 ^ 53) →
        (∀ collected, catalog.collect contract = .ok collected →
          (catalog.analyzeIn contract how (some .two) = .error (catalog.guardFault contract) ↔
            catalog.readOnlyCount contract < catalog.methods contract)) ∧
        ((∀ c ∈ catalog.inspected contract, (catalog.classes.definition c).methodCount = 0) →
          catalog.analyzeIn contract how (some .two) = catalog.analyzeIn contract how none)) := by
  refine ⟨analyze_eq_analyzeIn, fun how => ⟨analyzeIn_some, ?_, ?_, fun hfew => ⟨?_, ?_⟩⟩⟩
  · exact fun ratio ratio' s hle => analyzeIn_of_atMost hle
  · exact fun s => readOnlyCount_of_analyzeIn
  · exact fun collected => analyzeIn_two_eq_guardFault_iff hfew
  · exact analyzeIn_two_of_no_methods hfew

end Catalog

namespace Sample

/-- Two contracts over one base, and one over both of them.  The first of the two declares both the
method and the read-only property of the base anew, the property as a mutable one. -/
def behaving : Catalog where
  classes := ⟨[
    { ClassDef.empty "IMachine" "plant" [.protocol] with
      members := [("serial", .property ⟨some ⟨some (.plain .int), none⟩, false⟩),
        ("start", .method .plain .written "start")] },
    { ClassDef.empty "IPump" "plant" [.declared 0] with
      attributes := [("serial", .plain .int)]
      members := [("start", .method .plain .written "start")] },
    { ClassDef.empty "IValve" "plant" [.declared 0] with
      members := [("label", .property ⟨some ⟨some (.plain .str), none⟩, false⟩)] },
    ClassDef.empty "IStation" "plant" [.declared 1, .declared 2]]⟩
  hooks := []

/-- Three methods per property. -/
def three : MethodRatio := ⟨⟨0x4008000000000000⟩, by decide +kernel⟩

theorem isSome_analyze_valve :
    (behaving.analyzeIn (.declared 2) .rounded none).toOption.isSome = true := by rfl

/-- The schema of the second contract. -/
def valveSchema : Schema :=
  (behaving.analyzeIn (.declared 2) .rounded none).toOption.get isSome_analyze_valve

theorem analyzeIn_valve : behaving.analyzeIn (.declared 2) .rounded none = .ok valveSchema := rfl

end Sample

open Sample in
/-- The method of the pump counts twice for the station, which keeps one read-only property only, so
the station is rejected.  The valve has one method and two read-only properties. -/
theorem Catalog.guard_gates_behaving :
    (behaving.methods (.declared 3), behaving.readOnlyCount (.declared 3)) = (2, 1) ∧
    behaving.guardFault (.declared 3) = .tooManyMethods "IStation" 5 2 ∧
    behaving.analyzeIn (.declared 3) .rounded (some .two) =
      .error (behaving.guardFault (.declared 3)) ∧
    (behaving.methods (.declared 2), behaving.readOnlyCount (.declared 2)) = (1, 2) ∧
    MethodRatio.two.AtMost three ∧
    behaving.analyzeIn (.declared 2) .rounded (some three) = .ok valveSchema := by
  have hstation : (behaving.methods (.declared 3), behaving.readOnlyCount (.declared 3)) =
      (2, 1) := by decide +kernel
  have hvalve : (behaving.methods (.declared 2), behaving.readOnlyCount (.declared 2)) =
      (1, 2) := by decide +kernel
  have hle : MethodRatio.two.AtMost three := by
    rw [MethodRatio.AtMost]
    decide +kernel
  refine ⟨hstation, by decide +kernel, ?_, hvalve, hle, ?_⟩
  · obtain ⟨collected, hcollect⟩ : ∃ collected, behaving.collect (.declared 3) = .ok collected :=
      ⟨_, rfl⟩
    obtain ⟨-, -, -, htwo⟩ := (guard_gates behaving (.declared 3)).2 .rounded
    rw [(htwo fun _ => by decide +kernel).1 collected hcollect]
    rw [Prod.mk.injEq] at hstation
    omega
  · obtain ⟨collected, hcollect⟩ : ∃ collected, behaving.collect (.declared 2) = .ok collected :=
      ⟨_, rfl⟩
    obtain ⟨hgates, hmono, -, htwo⟩ := (guard_gates behaving (.declared 2)).2 .rounded
    refine hmono .two three _ hle (((hgates .two).resolve_left fun hfault => ?_).trans
      analyzeIn_valve)
    rw [(htwo fun _ => by decide +kernel).1 collected hcollect] at hfault
    rw [Prod.mk.injEq] at hvalve
    omega

end TrackedEntity
