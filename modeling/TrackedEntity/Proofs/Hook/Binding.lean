import TrackedEntity.Proofs.Hook.Resolution
import TrackedEntity.Proofs.Table

/-!
# Counting arguments and giving them

Analysis counts what a list of parameters needs and takes; a call gives arguments to the parameters
one by one.  For lists as a language lets them be written (`Signature.Valid`) the two come to the
same: arguments given by position can be bound exactly if no keyword-only parameter is left open
and their number is admitted (`Signature.isSome_bind_iff`).

So the hooks of a property resolve exactly if the getter can be called with one argument or with two
and the setter, where it is looked at, with two (`HookDirectory.exists_resolve_iff_takes`).
-/

namespace TrackedEntity

open Outcome

/-! ### Lists of parameters -/

/-- The place of a kind of parameters in a list. -/
def ParameterKind.rank : ParameterKind → ℕ
  | .positionalOnly => 0
  | .positional => 1
  | .rest => 2
  | .keywordOnly => 3
  | .keywords => 4

namespace Signature

/-- Whether a list of parameters can be written: the kinds come in their order, and behind a
positional parameter with a default all others have one. -/
structure Valid (s : Signature) : Prop where
  kinds : s.Pairwise fun p q => p.kind.rank ≤ q.kind.rank
  defaults : s.Pairwise fun p q =>
    takesOne p = true → takesOne q = true → p.hasDefault = true → q.hasDefault = true

theorem takesOne_iff {p : Parameter} : takesOne p = true ↔ p.kind.rank ≤ 1 := by
  rw [takesOne]
  cases p.kind <;> decide

namespace Valid

variable {p : Parameter} {s : Signature}

theorem tail (h : Valid (p :: s)) : Valid s :=
  ⟨(List.pairwise_cons.1 h.kinds).2, (List.pairwise_cons.1 h.defaults).2⟩

/-- Nothing is needed behind a positional parameter with a default. -/
theorem required_eq_zero_of_default (h : Valid (p :: s)) (hp : takesOne p = true)
    (hdefault : p.hasDefault = true) : s.required = 0 := by
  rw [required, List.length_eq_zero_iff, List.filter_eq_nil_iff]
  intro q hq hneeded
  rw [Bool.and_eq_true, Bool.not_eq_true'] at hneeded
  have hq' := (List.pairwise_cons.1 h.defaults).1 q hq hp hneeded.1 hdefault
  rw [hneeded.2] at hq'
  cases hq'

/-- Nothing takes one argument behind a parameter that takes none, or all that remain. -/
theorem takesOne_eq_false (h : Valid (p :: s)) (hp : takesOne p = false) :
    ∀ q ∈ s, takesOne q = false := by
  intro q hq
  by_contra hone
  rw [Bool.not_eq_false, takesOne_iff] at hone
  have hle := (List.pairwise_cons.1 h.kinds).1 q hq
  have hp' : takesOne p = true := takesOne_iff.2 (by omega)
  rw [hp] at hp'
  cases hp'

theorem required_eq_zero (h : Valid (p :: s)) (hp : takesOne p = false) : s.required = 0 := by
  rw [required, List.length_eq_zero_iff, List.filter_eq_nil_iff]
  intro q hq
  simp [h.takesOne_eq_false hp q hq]

end Valid

/-! ### Counting -/

theorem admits_iff {s : Signature} {n : ℕ} :
    s.admits n = true ↔ s.required ≤ n ∧ ∀ most, s.maximum = some most → n ≤ most := by
  rw [admits, Bool.and_eq_true, decide_eq_true_eq]
  cases s.maximum with
  | none => simp
  | some most => simp

variable {p : Parameter} {s : Signature}

theorem required_cons :
    required (p :: s) = s.required + if takesOne p && !p.hasDefault then 1 else 0 := by
  rw [required, required, List.filter_cons]
  split
  · rw [List.length_cons]
  · rfl

theorem maximum_cons_of_takesOne (hp : takesOne p = true) :
    maximum (p :: s) = s.maximum.map (· + 1) := by
  have hrest : ¬ p.kind = .rest := fun h => by simp [takesOne, h] at hp
  rw [maximum, maximum, List.any_cons, List.filter_cons_of_pos hp, decide_eq_false hrest,
    Bool.false_or]
  split
  · rfl
  · rfl

theorem maximum_cons_of_named (hp : takesOne p = false) (hrest : p.kind ≠ .rest) :
    maximum (p :: s) = s.maximum := by
  rw [maximum, maximum, List.any_cons, List.filter_cons_of_neg (by simp [hp]),
    decide_eq_false hrest, Bool.false_or]

theorem maximum_cons_of_rest (hrest : p.kind = .rest) : maximum (p :: s) = none := by
  rw [maximum, List.any_cons, decide_eq_true hrest, Bool.true_or]
  rfl

/-- One argument more is admitted if the first parameter takes it. -/
theorem admits_cons_succ (h : Valid (p :: s)) (hp : takesOne p = true) (n : ℕ) :
    admits (p :: s) (n + 1) = admits s n := by
  rw [Bool.eq_iff_iff, admits_iff, admits_iff, maximum_cons_of_takesOne hp, required_cons, hp]
  have hmost : (∀ most, s.maximum.map (· + 1) = some most → n + 1 ≤ most) ↔
      ∀ most, s.maximum = some most → n ≤ most := by
    cases s.maximum with
    | none => simp
    | some most => simp
  rw [hmost]
  refine and_congr_left fun _ => ?_
  cases hdefault : p.hasDefault with
  | true =>
    rw [h.required_eq_zero_of_default hp hdefault]
    simp
  | false => simp

theorem admits_cons_zero_of_default (hp : takesOne p = true) (hdefault : p.hasDefault = true) :
    admits (p :: s) 0 = admits s 0 := by
  rw [Bool.eq_iff_iff, admits_iff, admits_iff, required_cons, hp, hdefault]
  simp

theorem admits_cons_zero (hp : takesOne p = true) (hdefault : p.hasDefault = false) :
    admits (p :: s) 0 = false := by
  rw [← Bool.not_eq_true, admits_iff, required_cons, hp, hdefault]
  simp

theorem admits_cons_of_named (hp : takesOne p = false) (hrest : p.kind ≠ .rest) (n : ℕ) :
    admits (p :: s) n = admits s n := by
  rw [Bool.eq_iff_iff, admits_iff, admits_iff, maximum_cons_of_named hp hrest, required_cons, hp]
  simp

theorem neededKeyword?_cons_of_ne (hp : p.kind ≠ .keywordOnly) :
    neededKeyword? (p :: s) = s.neededKeyword? := by
  rw [neededKeyword?, neededKeyword?, List.find?_cons_of_neg (by simp [hp])]

/-! ### Binding -/

theorem bind_cons_of_takesOne (hp : takesOne p = true) (args : List Value) :
    bind (p :: s) args = match args with
      | a :: rest => (s.bind rest).map (a :: ·)
      | [] => if p.hasDefault then (s.bind []).map (.none :: ·) else none := by
  obtain ⟨name, kind, hasDefault⟩ := p
  cases kind with
  | positional | positionalOnly => cases args <;> rfl
  | rest | keywordOnly | keywords => cases hp

theorem bind_cons_of_rest (hp : p.kind = .rest) (args : List Value) :
    bind (p :: s) args = (s.bind []).map (args ++ ·) := by
  obtain ⟨name, kind, hasDefault⟩ := p
  obtain rfl : kind = .rest := hp
  rfl

theorem bind_cons_of_keywordOnly (hp : p.kind = .keywordOnly) (args : List Value) :
    bind (p :: s) args = if p.hasDefault then s.bind args else none := by
  obtain ⟨name, kind, hasDefault⟩ := p
  obtain rfl : kind = .keywordOnly := hp
  rfl

theorem bind_cons_of_keywords (hp : p.kind = .keywords) (args : List Value) :
    bind (p :: s) args = s.bind args := by
  obtain ⟨name, kind, hasDefault⟩ := p
  obtain rfl : kind = .keywords := hp
  rfl

/-- **Arguments given by position can be bound exactly if no keyword is needed and their number is
admitted.** -/
theorem isSome_bind_iff {s : Signature} (h : s.Valid) (args : List Value) :
    (s.bind args).isSome = true ↔ s.neededKeyword? = none ∧ s.admits args.length = true := by
  induction s generalizing args with
  | nil =>
    cases args with
    | nil => decide
    | cons a args =>
      have hadmits : admits [] (a :: args).length = false := rfl
      rw [hadmits]
      simp [bind]
  | cons p s ih =>
    have ih := ih h.tail
    by_cases hp : takesOne p = true
    · have hkind : p.kind ≠ .keywordOnly := fun hkind => by simp [takesOne, hkind] at hp
      rw [bind_cons_of_takesOne hp, neededKeyword?_cons_of_ne hkind]
      cases args with
      | cons a rest =>
        rw [Option.isSome_map, ih, List.length_cons, admits_cons_succ h hp]
      | nil =>
        cases hdefault : p.hasDefault with
        | true =>
          rw [List.length_nil, admits_cons_zero_of_default hp hdefault]
          simpa using ih []
        | false =>
          rw [List.length_nil, admits_cons_zero hp hdefault]
          simp
    · rw [Bool.not_eq_true] at hp
      cases hkind : p.kind with
      | positional | positionalOnly => simp [takesOne, hkind] at hp
      | rest =>
        -- nothing behind takes or needs an argument, so it is open for any number
        have hrequired := h.required_eq_zero hp
        have hopen : ∀ n, admits (p :: s) n = true := fun n => by
          rw [admits_iff, required_cons, hrequired, maximum_cons_of_rest hkind, hp]
          simp
        have hempty : admits s 0 = true := by
          rw [admits_iff, hrequired]
          simp
        rw [bind_cons_of_rest hkind, Option.isSome_map, ih, List.length_nil, hempty, hopen,
          neededKeyword?_cons_of_ne (by simp [hkind])]
      | keywordOnly =>
        rw [bind_cons_of_keywordOnly hkind, admits_cons_of_named hp (by simp [hkind])]
        cases hdefault : p.hasDefault with
        | true =>
          have hneeded : neededKeyword? (p :: s) = neededKeyword? s := by
            rw [neededKeyword?, neededKeyword?, List.find?_cons_of_neg (by simp [hdefault])]
          rw [if_pos rfl, ih, hneeded]
        | false =>
          have hneeded : neededKeyword? (p :: s) = some p := by
            rw [neededKeyword?, List.find?_cons_of_pos (by simp [hkind, hdefault])]
          rw [hneeded]
          simp
      | keywords =>
        rw [bind_cons_of_keywords hkind, admits_cons_of_named hp (by simp [hkind]),
          neededKeyword?_cons_of_ne (by simp [hkind]), ih]

end Signature

/-! ### Hooks -/

namespace Hook

/-- Whether a hook can be called with so many arguments, all of them given by position. -/
def Takes (hook : Hook) (n : ℕ) : Prop :=
  ∀ args : List Value, args.length = n → (hook.signature.bind args).isSome = true

theorem takes_iff {hook : Hook} (h : hook.signature.Valid) {n : ℕ} :
    hook.Takes n ↔ hook.signature.neededKeyword? = none ∧ hook.signature.admits n = true := by
  constructor
  · intro htakes
    have hbind := htakes (List.replicate n .none) List.length_replicate
    rw [Signature.isSome_bind_iff h, List.length_replicate] at hbind
    exact hbind
  · rintro hadmits args rfl
    exact (Signature.isSome_bind_iff h args).2 hadmits

/-- Whether the declared result of a hook is a truth value, as far as it is declared. -/
def DeclaresTruth (hook : Hook) : Prop :=
  hook.returns = none ∨ hook.returns = some (.plain .bool) ∨ hook.returns = some (.forward "bool")

theorem returnsTruth_iff {hook : Hook} : hook.returnsTruth = true ↔ hook.DeclaresTruth := by
  rw [returnsTruth, DeclaresTruth]
  split
  · next hreturns => simp [hreturns]
  · next hreturns => simp [hreturns]
  · next name hreturns => simp [hreturns]
  · next hnone hbool hforward =>
    refine iff_of_false Bool.false_ne_true ?_
    rintro (hreturns | hreturns | hreturns)
    · exact hnone hreturns
    · exact hbool hreturns
    · exact hforward _ hreturns

end Hook

namespace HookDirectory

/-- Whether the hooks of a directory have lists of parameters that can be written. -/
def Valid (d : HookDirectory) : Prop :=
  ∀ name hook, d.member? name = some (.callable hook) → hook.signature.Valid

variable {d : HookDirectory} {property : String} {settable : Bool}

theorem valid_of_members
    (h : ∀ e ∈ d.members, ∀ hook, e.2 = .callable hook → hook.signature.Valid) : d.Valid := by
  intro name hook hmember
  have hentry : d.members.get? name = some (.callable hook) := by
    rw [member?] at hmember
    split at hmember
    · cases hmember
    · exact hmember
  exact h _ (Table.mem_of_get? hentry) hook rfl

theorem checkGetter_eq_ok_iff_takes (hd : d.Valid) {name label : String} {m : HookMember}
    (hm : d.member? name = some m) {hook : Hook} {passesCurrent : Bool} :
    checkGetter label m = .ok (hook, passesCurrent) ↔ m = .callable hook ∧
      (hook.Takes 1 ∨ hook.Takes 2) ∧ (passesCurrent = true ↔ hook.Takes 2) := by
  rw [checkGetter_eq_ok_iff, HookMember.Callable, and_assoc]
  dsimp only
  refine and_congr_right ?_
  rintro rfl
  have hvalid := hd name hook hm
  have hpasses : passesCurrent = hook.signature.admits 2 ↔
      (passesCurrent = true ↔ hook.signature.admits 2 = true) := Bool.eq_iff_iff
  rw [Hook.takes_iff hvalid, Hook.takes_iff hvalid, hpasses]
  tauto

theorem checkSetter_eq_ok_iff_takes (hd : d.Valid) {name label : String} {m : HookMember}
    (hm : d.member? name = some m) {hook : Hook} :
    checkSetter label m = .ok hook ↔ m = .callable hook ∧ hook.Takes 2 ∧ hook.DeclaresTruth := by
  rw [checkSetter_eq_ok_iff, HookMember.Callable, Hook.returnsTruth_iff, and_assoc]
  refine and_congr_right ?_
  rintro rfl
  rw [Hook.takes_iff (hd name hook hm), and_assoc]

/-- The setter that a property resolves to, if it can be set and there is one. -/
theorem mapM_checkSetter_eq_ok_iff (hd : d.Valid) {label : String} {setter : Option Hook} :
    (if settable then d.member? ("set_" ++ property) else none).mapM (checkSetter label) =
        .ok setter ↔
      (if settable then d.member? ("set_" ++ property) else none) =
        setter.map HookMember.callable ∧
      ∀ hook, setter = some hook → hook.Takes 2 ∧ hook.DeclaresTruth := by
  have hmember : ∀ m, (if settable then d.member? ("set_" ++ property) else none) = some m →
      d.member? ("set_" ++ property) = some m := by
    intro m hm
    split at hm
    · exact hm
    · cases hm
  cases hm? : if settable then d.member? ("set_" ++ property) else none with
  | none =>
    constructor
    · rintro ⟨⟩
      exact ⟨rfl, fun hook h => by cases h⟩
    · rintro ⟨hnone, -⟩
      obtain rfl := Option.map_eq_none_iff.1 hnone.symm
      rfl
  | some m =>
    have hchecked := @checkSetter_eq_ok_iff_takes d hd _ label m (hmember m hm?)
    rw [Option.mapM_some]
    constructor
    · intro h
      obtain ⟨hook, hhook, h⟩ := bind_eq_ok.1 h
      obtain rfl := Except.ok.inj h
      obtain ⟨rfl, htakes⟩ := hchecked.1 hhook
      refine ⟨rfl, ?_⟩
      rintro _ ⟨⟩
      exact htakes
    · rintro ⟨hm, htakes⟩
      obtain ⟨hook, rfl, rfl⟩ := Option.map_eq_some_iff.1 hm.symm
      exact bind_eq_ok.2 ⟨hook, hchecked.2 ⟨rfl, htakes hook rfl⟩, rfl⟩

/-- **The hooks of a property**: a getter that takes one argument or two, and, where the property
can be set, the setter if there is one, which takes two. -/
theorem resolve_eq_ok_iff (hd : d.Valid) {x : Extension} :
    d.resolve property settable = .ok x ↔
      x.source = d.source ∧ d.member? ("get_" ++ property) = some (.callable x.getter) ∧
      (x.getter.Takes 1 ∨ x.getter.Takes 2) ∧ (x.passesCurrent = true ↔ x.getter.Takes 2) ∧
      (if settable then d.member? ("set_" ++ property) else none) =
        x.setter.map HookMember.callable ∧
      ∀ hook, x.setter = some hook → hook.Takes 2 ∧ hook.DeclaresTruth := by
  rw [resolve]
  cases hm : d.member? ("get_" ++ property) with
  | none =>
    refine iff_of_false (fun h => by cases h) fun h => ?_
    cases h.2.1
  | some m =>
    simp only [bind_eq_ok, mapM_checkSetter_eq_ok_iff hd]
    constructor
    · rintro ⟨⟨getter, passesCurrent⟩, hgetter, setter, hsetter, h⟩
      obtain rfl := Except.ok.inj h
      obtain ⟨rfl, htakes⟩ := (checkGetter_eq_ok_iff_takes hd hm).1 hgetter
      exact ⟨rfl, rfl, htakes.1, htakes.2, hsetter⟩
    · rintro ⟨hsource, hgetter, htakes, hpasses, hsetter⟩
      refine ⟨(x.getter, x.passesCurrent), ?_, x.setter, hsetter, ?_⟩
      · exact (checkGetter_eq_ok_iff_takes hd hm).2 ⟨Option.some.inj hgetter, htakes, hpasses⟩
      · rw [← hsource]
        rfl

/-- **Hooks are resolved exactly if they can be called as they will be.** -/
theorem exists_resolve_iff_takes (hd : d.Valid) :
    (∃ x, d.resolve property settable = .ok x) ↔
      (∃ getter, d.member? ("get_" ++ property) = some (.callable getter) ∧
        (getter.Takes 1 ∨ getter.Takes 2)) ∧
      (settable = true → ∀ m, d.member? ("set_" ++ property) = some m →
        ∃ setter, m = .callable setter ∧ setter.Takes 2 ∧ setter.DeclaresTruth) := by
  simp only [resolve_eq_ok_iff hd]
  constructor
  · rintro ⟨x, -, hgetter, htakes, -, hsetter, hchecked⟩
    refine ⟨⟨x.getter, hgetter, htakes⟩, ?_⟩
    rintro rfl m hm
    rw [if_pos rfl, hm] at hsetter
    obtain ⟨setter, hx, rfl⟩ := Option.map_eq_some_iff.1 hsetter.symm
    exact ⟨setter, rfl, hchecked setter hx⟩
  · rintro ⟨⟨getter, hgetter, htakes⟩, hsetter⟩
    -- the setter that is looked at, if any
    obtain ⟨setter, hsetter, hchecked⟩ : ∃ setter : Option Hook,
        (if settable then d.member? ("set_" ++ property) else none) =
          setter.map HookMember.callable ∧
        ∀ hook, setter = some hook → hook.Takes 2 ∧ hook.DeclaresTruth := by
      cases hm? : if settable then d.member? ("set_" ++ property) else none with
      | none => exact ⟨none, rfl, fun hook h => by cases h⟩
      | some m =>
        cases settable with
        | false => cases hm?
        | true =>
          obtain ⟨setter, rfl, hchecked⟩ := hsetter rfl m hm?
          refine ⟨some setter, rfl, ?_⟩
          rintro _ ⟨⟩
          exact hchecked
    classical
    exact ⟨⟨d.source, getter, decide (getter.Takes 2), setter⟩, rfl, hgetter, htakes,
      decide_eq_true_iff, hsetter, hchecked⟩

/-- Where a property cannot be set, it makes no difference what stands for its setter. -/
theorem resolve_false_congr {d' : HookDirectory} (hsource : d'.source = d.source)
    (hgetter : d'.member? ("get_" ++ property) = d.member? ("get_" ++ property)) :
    d'.resolve property false = d.resolve property false := by
  rw [resolve, resolve, hsource, hgetter]
  rfl

end HookDirectory

end TrackedEntity
