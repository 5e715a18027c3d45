import Mathlib.Data.List.Forall2

/-!
# Computations that may fail

How a computation that did not fail came to its result: a sequence of two did both steps
(`bind_eq_ok`), and a computation on each element of a list succeeded on every one of them
(`forall₂_of_mapM`, `eq_map_of_mapM`).  When it succeeds on an element, and with what, says when it
succeeds on the list (`mapM_eq_ok_iff`), and likewise for an optional value
(`exists_mapM_option_iff`).

What a computation fails with, if it fails, is said by `FailsWith`, that it goes as another one by
`Follows`, and that two fail or succeed in related ways by `Related`.  `run_bind` is about
computations that have a state as well.
-/

namespace TrackedEntity.Outcome

variable {ε : Type u} {α : Type v} {β : Type v}

theorem bind_eq_ok {x : Except ε α} {f : α → Except ε β} {b : β} :
    x >>= f = .ok b ↔ ∃ a, x = .ok a ∧ f a = .ok b := by
  cases x with
  | error e => simp [bind, Except.bind]
  | ok a => simp [bind, Except.bind]

theorem map_eq_ok {x : Except ε α} {f : α → β} {b : β} :
    x.map f = .ok b ↔ ∃ a, x = .ok a ∧ f a = b := by
  cases x with
  | error e => simp [Except.map]
  | ok a => simp [Except.map]

theorem forall₂_of_mapM {f : α → Except ε β} {as : List α} {bs : List β}
    (h : as.mapM f = .ok bs) : List.Forall₂ (fun a b => f a = .ok b) as bs := by
  induction as generalizing bs with
  | nil =>
    rw [List.mapM_nil] at h
    obtain rfl := Except.ok.inj h
    exact List.Forall₂.nil
  | cons a as ih =>
    rw [List.mapM_cons] at h
    obtain ⟨b, hb, h⟩ := bind_eq_ok.1 h
    obtain ⟨rest, hrest, h⟩ := bind_eq_ok.1 h
    obtain rfl := Except.ok.inj h
    exact List.Forall₂.cons hb (ih hrest)

/-- A computation that gives a known result wherever it succeeds. -/
theorem eq_map_of_mapM {f : α → Except ε β} {g : α → β} (hg : ∀ a b, f a = .ok b → b = g a)
    {as : List α} {bs : List β} (h : as.mapM f = .ok bs) : bs = as.map g := by
  have hall := forall₂_of_mapM h
  clear h
  induction hall with
  | nil => rfl
  | cons hab _ ih => rw [List.map_cons, ← ih, ← hg _ _ hab]

theorem mapM_eq_ok_iff {f : α → Except ε β} {P : α → Prop} {g : α → β} {as : List α} {bs : List β}
    (h : ∀ a ∈ as, ∀ b, f a = .ok b ↔ P a ∧ b = g a) :
    as.mapM f = .ok bs ↔ (∀ a ∈ as, P a) ∧ bs = as.map g := by
  induction as generalizing bs with
  | nil =>
    rw [List.mapM_nil]
    constructor
    · rintro ⟨⟩
      exact ⟨fun a ha => absurd ha List.not_mem_nil, rfl⟩
    · rintro ⟨-, rfl⟩
      rfl
  | cons a as ih =>
    have ih := fun bs => @ih bs fun x hx => h x (List.mem_cons_of_mem a hx)
    rw [List.mapM_cons, List.forall_mem_cons]
    constructor
    · intro hok
      obtain ⟨b, hb, hok⟩ := bind_eq_ok.1 hok
      obtain ⟨rest, hrest, hok⟩ := bind_eq_ok.1 hok
      obtain rfl := Except.ok.inj hok
      obtain ⟨ha, rfl⟩ := (h a List.mem_cons_self b).1 hb
      obtain ⟨has, rfl⟩ := (ih rest).1 hrest
      exact ⟨⟨ha, has⟩, rfl⟩
    · rintro ⟨⟨ha, has⟩, rfl⟩
      rw [(h a List.mem_cons_self _).2 ⟨ha, rfl⟩, (ih _).2 ⟨has, rfl⟩]
      rfl

/-- Going through a list whose elements were changed, where each change of an element shows as a
change of its result. -/
theorem mapM_map_eq {γ : Type v} {δ : Type v} {f : α → Except ε β} {g : γ → Except ε δ} {h : α → γ}
    {k : β → δ} {as : List α} (hk : ∀ a ∈ as, g (h a) = (f a).map k) :
    (as.map h).mapM g = (as.mapM f).map (List.map k) := by
  induction as with
  | nil => rfl
  | cons a as ih =>
    have ih := ih fun x hx => hk x (List.mem_cons_of_mem a hx)
    rw [List.map_cons, List.mapM_cons, List.mapM_cons, hk a List.mem_cons_self, ih]
    cases f a with
    | error e => rfl
    | ok b =>
      cases as.mapM f with
      | error e => rfl
      | ok bs => rfl

theorem exists_mapM_option_iff {f : α → Except ε β} {o : Option α} :
    (∃ b, o.mapM f = .ok b) ↔ ∀ a, o = some a → ∃ b, f a = .ok b := by
  cases o with
  | none => exact ⟨fun _ a ha => (by cases ha), fun _ => ⟨none, rfl⟩⟩
  | some a =>
    rw [Option.mapM_some]
    simp only [Option.some.injEq, forall_eq']
    constructor
    · rintro ⟨b, h⟩
      cases hfa : f a with
      | error e =>
        rw [hfa] at h
        cases h
      | ok b => exact ⟨b, rfl⟩
    · rintro ⟨b, hb⟩
      exact ⟨some b, by rw [hb]; rfl⟩

/-! ### Faults -/

/-- Whether a computation fails, if at all, with such a fault. -/
def FailsWith (P : ε → Prop) (x : Except ε α) : Prop :=
  ∀ e, x = .error e → P e

namespace FailsWith

variable {P Q : ε → Prop} {x : Except ε α}

theorem ok (P : ε → Prop) (a : α) : FailsWith P (.ok a) := fun e h => by cases h

theorem error {e : ε} (h : P e) : FailsWith P (.error e : Except ε α) := by
  rintro e' ⟨⟩
  exact h

theorem mono (hx : FailsWith P x) (h : ∀ e, P e → Q e) : FailsWith Q x := fun e he =>
  h e (hx e he)

theorem bind {f : α → Except ε β} (hx : FailsWith P x) (hf : ∀ a, FailsWith P (f a)) :
    FailsWith P (x >>= f) := by
  cases x with
  | error e => exact error (hx e rfl)
  | ok a => exact hf a

/-- The second step of two has to be looked at only for what the first one gives. -/
theorem bind_of_ok {f : α → Except ε β} (hx : FailsWith P x)
    (hf : ∀ a, x = .ok a → FailsWith P (f a)) : FailsWith P (x >>= f) := by
  cases x with
  | error e => exact error (hx e rfl)
  | ok a => exact hf a rfl

theorem mapM {f : α → Except ε β} {as : List α} (hf : ∀ a ∈ as, FailsWith P (f a)) :
    FailsWith P (as.mapM f) := by
  induction as with
  | nil => exact ok P []
  | cons a as ih =>
    rw [List.mapM_cons]
    refine (hf a List.mem_cons_self).bind fun b => ?_
    exact (ih fun x hx => hf x (List.mem_cons_of_mem a hx)).bind fun bs => ok P (b :: bs)

theorem map {f : α → β} (hx : FailsWith P x) : FailsWith P (x.map f) := by
  cases x with
  | error e => exact error (hx e rfl)
  | ok a => exact ok P (f a)

end FailsWith

/-! ### Computations alike -/

/-- Whether a computation, the second one, goes as another one, unless it fails with such a fault:
both fail with one fault, or both succeed with related results. -/
inductive Follows (P : ε → Prop) (R : α → β → Prop) : Except ε α → Except ε β → Prop
  | strays {x : Except ε α} {e : ε} (h : P e) : Follows P R x (.error e)
  | fails (e : ε) : Follows P R (.error e) (.error e)
  | succeeds {a : α} {b : β} (h : R a b) : Follows P R (.ok a) (.ok b)

namespace Follows

variable {P Q : ε → Prop} {R : α → β → Prop} {x : Except ε α} {y : Except ε β}

/-- A computation goes as itself. -/
theorem refl {R : α → α → Prop} (h : ∀ a, x = .ok a → R a a) : Follows P R x x := by
  cases x with
  | error e => exact .fails e
  | ok a => exact .succeeds (h a rfl)

theorem imp {S : α → β → Prop} (h : Follows P R x y) (hfault : ∀ e, P e → Q e)
    (hresult : ∀ a b, x = .ok a → R a b → S a b) : Follows Q S x y := by
  cases h with
  | strays h => exact .strays (hfault _ h)
  | fails e => exact .fails e
  | succeeds h => exact .succeeds (hresult _ _ rfl h)

theorem bind {γ : Type v} {δ : Type v} {S : γ → δ → Prop} {f : α → Except ε γ} {g : β → Except ε δ}
    (h : Follows P R x y) (hfg : ∀ a b, R a b → Follows P S (f a) (g b)) :
    Follows P S (x >>= f) (y >>= g) := by
  cases h with
  | strays h => exact .strays h
  | fails e => exact .fails e
  | succeeds h => exact hfg _ _ h

end Follows

/-- Whether two computations both fail, with related faults, or both succeed, with related
results. -/
inductive Related {ε' : Type u} (F : ε → ε' → Prop) (R : α → β → Prop) :
    Except ε α → Except ε' β → Prop
  | fails {e : ε} {e' : ε'} (h : F e e') : Related F R (.error e) (.error e')
  | succeeds {a : α} {b : β} (h : R a b) : Related F R (.ok a) (.ok b)

namespace Related

variable {ε' : Type u} {F : ε → ε' → Prop} {R : α → β → Prop} {x : Except ε α} {y : Except ε' β}

theorem bind {γ : Type v} {δ : Type v} {S : γ → δ → Prop} {f : α → Except ε γ}
    {g : β → Except ε' δ} (h : Related F R x y) (hfg : ∀ a b, R a b → Related F S (f a) (g b)) :
    Related F S (x >>= f) (y >>= g) := by
  cases h with
  | fails h => exact .fails h
  | succeeds h => exact hfg _ _ h

theorem imp {R' : α → β → Prop} (h : Related F R x y) (hR : ∀ a b, R a b → R' a b) :
    Related F R' x y := by
  cases h with
  | fails h => exact .fails h
  | succeeds h => exact .succeeds (hR _ _ h)

/-- A computation goes as itself, if the relations hold of everything and itself. -/
theorem refl {F : ε → ε → Prop} {R : α → α → Prop} (hF : ∀ e, F e e) (hR : ∀ a, R a a)
    (x : Except ε α) : Related F R x x := by
  cases x with
  | error e => exact .fails (hF e)
  | ok a => exact .succeeds (hR a)

/-- Two computations that begin alike go on from the same result. -/
theorem bind_self {F : ε → ε → Prop} {γ : Type v} {δ : Type v} {S : γ → δ → Prop}
    {f : α → Except ε γ} {g : α → Except ε δ} (hF : ∀ e, F e e) (x : Except ε α)
    (hfg : ∀ a, Related F S (f a) (g a)) : Related F S (x >>= f) (x >>= g) := by
  cases x with
  | error e => exact .fails (hF e)
  | ok a => exact hfg a

theorem trans {ε'' : Type u} {γ : Type v} {F' : ε' → ε'' → Prop} {F'' : ε → ε'' → Prop}
    {R' : β → γ → Prop} {R'' : α → γ → Prop} {z : Except ε'' γ} (h : Related F R x y)
    (h' : Related F' R' y z) (hF : ∀ {a b c}, F a b → F' b c → F'' a c)
    (hR : ∀ {a b c}, R a b → R' b c → R'' a c) : Related F'' R'' x z := by
  cases h with
  | fails h =>
    cases h' with
    | fails h' => exact .fails (hF h h')
  | succeeds h =>
    cases h' with
    | succeeds h' => exact .succeeds (hR h h')

end Related

/-! ### Computations with a state -/

section State

variable {σ ε α β : Type} {s s' : σ}

/-- The second step of two starts where the first one ended, unless that failed. -/
theorem run_bind (x : ExceptT ε (StateM σ) α) (f : α → ExceptT ε (StateM σ) β) (s : σ) :
    (x >>= f).run s = match x.run s with
      | (.ok a, s') => (f a).run s'
      | (.error e, s') => (.error e, s') := by
  show (ExceptT.bindCont f (x.run s).1).run (x.run s).2 = _
  cases x.run s with
  | mk r s' => cases r <;> rfl

theorem run_bind_ok {x : ExceptT ε (StateM σ) α} {f : α → ExceptT ε (StateM σ) β} {a : α}
    (h : x.run s = (.ok a, s')) : (x >>= f).run s = (f a).run s' := by
  rw [run_bind, h]

theorem run_bind_error {x : ExceptT ε (StateM σ) α} {f : α → ExceptT ε (StateM σ) β} {e : ε}
    (h : x.run s = (.error e, s')) : (x >>= f).run s = (.error e, s') := by
  rw [run_bind, h]

end State

end TrackedEntity.Outcome
