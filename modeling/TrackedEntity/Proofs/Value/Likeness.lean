import TrackedEntity.Program.Eval
import TrackedEntity.Proofs.Value.Renaming

/-!
# Values that show class names

A text can have the name of a class in it, as the description of an entity has.  Under another name
it is another text, and not a renamed value, so values are compared at two levels.  Values that show
no name are alike if one of them is the other one renamed; values that may show one can differ in
their texts as well, and in the texts of tuples (`Value.Alike`).

Not everything can be asked of values that show names: a text may be equal to another one under one
name only.  But they can be made (`Alike.make`), joined (`Alike.plus`) and put into tuples, and
either both of them are there or none (`Alike.same_none`).
-/

namespace TrackedEntity

open Outcome

variable {π : Equiv.Perm String} {shown : Bool}

namespace Value

mutual

/-- Whether two values are the same, names apart; names in texts are apart only where they may be
shown. -/
inductive Alike (π : Equiv.Perm String) (shown : Bool) : Value → Value → Prop
  | renamed (v : Value) : Alike π shown v (v.renamed π)
  | text (h : shown = true) {s s' : String} (hs : Text.Alike π s s') :
      Alike π shown (.str s) (.str s')
  | tuple (id : Identity) {items items' : List Value} (h : AllAlike π shown items items') :
      Alike π shown (.tuple id items) (.tuple id items')

/-- Whether several values are the same, names apart. -/
inductive AllAlike (π : Equiv.Perm String) (shown : Bool) : List Value → List Value → Prop
  | nil : AllAlike π shown [] []
  | cons {v v' : Value} {vs vs' : List Value} (h : Alike π shown v v')
      (hs : AllAlike π shown vs vs') : AllAlike π shown (v :: vs) (v' :: vs')

end

theorem AllAlike.renamed (π : Equiv.Perm String) (shown : Bool) (items : List Value) :
    AllAlike π shown items (renamedItems π items) := by
  induction items with
  | nil => exact .nil
  | cons v items ih => exact .cons (.renamed v) ih

theorem AllAlike.append {ys ys' : List Value} (h : AllAlike π shown ys ys') :
    ∀ {xs xs' : List Value}, AllAlike π shown xs xs' → AllAlike π shown (xs ++ ys) (xs' ++ ys')
  | _, _, .nil => h
  | _, _, .cons hx hxs => .cons hx (AllAlike.append h hxs)

theorem Alike.of_nameless {v : Value} (h : v.Nameless) : Alike π shown v v := by
  have halike : Alike π shown v (v.renamed π) := .renamed v
  rwa [h π] at halike

theorem Becomes.alike {v v' : Value} (h : Becomes π v v') : Alike π shown v v' :=
  h ▸ .renamed v

mutual

/-- What shows no name is renamed. -/
theorem Alike.eq : ∀ {v v' : Value}, Alike π false v v' → v' = v.renamed π
  | _, _, .renamed _ => rfl
  | _, _, .text h _ => nomatch h
  | .tuple _ _, _, .tuple id h => congrArg (Value.tuple id) (AllAlike.eq h)

theorem AllAlike.eq : ∀ {vs vs' : List Value}, AllAlike π false vs vs' → vs' = renamedItems π vs
  | [], _, .nil => rfl
  | _ :: _, _, .cons h hs => congrArg₂ List.cons (Alike.eq h) (AllAlike.eq hs)

end

/-- Whatever shows no name is alike where names may be shown. -/
theorem Alike.mono {shown' : Bool} {v v' : Value} (h : Alike π shown v v')
    (hle : shown = true → shown' = true) : Alike π shown' v v' := by
  cases shown with
  | true => exact hle rfl ▸ h
  | false => exact h.eq ▸ .renamed v

theorem Alike.typeName {v v' : Value} (h : Alike π shown v v') :
    Text.Alike π v.typeName v'.typeName := by
  cases h with
  | renamed v => exact alike_typeName v
  | text | tuple => exact .refl _

theorem Alike.same_none {v v' : Value} (h : Alike π shown v v') :
    v'.same .none = v.same .none := by
  cases h with
  | renamed v => exact same_renamed v .none
  | text | tuple => rfl

theorem Alike.ofReport {report report' : Option Value}
    (h : Option.Rel (Alike π shown) report report') :
    Alike π shown (.ofReport report) (.ofReport report') := by
  cases h with
  | none => exact .renamed _
  | some h => exact .tuple _ (.cons (.renamed (.bool true)) (.cons h .nil))

/-! ### Making -/

namespace Making

theorem run_map {α β : Type} (f : α → β) (x : Making α) (serial : ℕ) :
    (f <$> x).run serial = ((x.run serial).1.map f, (x.run serial).2) := by
  rw [map_eq_pure_bind, Outcome.run_bind]
  cases x.run serial with
  | mk r next => cases r <;> rfl

/-- Whether two computations use up the same serial numbers, and end with related results. -/
def Alike {α β : Type} (π : Equiv.Perm String) (R : α → β → Prop) (x : Making α)
    (y : Making β) : Prop :=
  ∀ serial, (y.run serial).2 = (x.run serial).2 ∧
    Related (Fault.Alike π) R (x.run serial).1 (y.run serial).1

namespace Alike

variable {α α' β β' : Type} {R : α → α' → Prop} {S : β → β' → Prop}

theorem pure {a : α} {a' : α'} (h : R a a') : Alike π R (Pure.pure a) (Pure.pure a') :=
  fun _ => ⟨rfl, .succeeds h⟩

theorem bind {x : Making α} {x' : Making α'} {f : α → Making β} {f' : α' → Making β'}
    (hx : Alike π R x x') (hf : ∀ a a', R a a' → Alike π S (f a) (f' a')) :
    Alike π S (x >>= f) (x' >>= f') := by
  intro serial
  obtain ⟨hserial, hresult⟩ := hx serial
  rw [Outcome.run_bind, Outcome.run_bind]
  cases hr : x.run serial with
  | mk r serial' =>
    cases hr' : x'.run serial with
    | mk r' serial'' =>
      rw [hr, hr'] at hserial hresult
      obtain rfl : serial'' = serial' := hserial
      cases hresult with
      | fails h => exact ⟨rfl, .fails h⟩
      | succeeds h => exact hf _ _ h _

end Alike

end Making

mutual

/-- **Values that are alike are made alike**, with the same serial numbers. -/
theorem Alike.make : ∀ {v v' : Value}, Alike π shown v v' →
    Making.Alike π (Alike π shown) v.make v'.make
  | _, _, .renamed v => by
    intro serial
    rw [make_renamed, Making.run_map]
    refine ⟨rfl, ?_⟩
    cases (v.make.run serial).1 with
    | error f => exact .fails (.refl π f)
    | ok v => exact .succeeds (.renamed v)
  | _, _, .text h hs => .pure (.text h hs)
  | .tuple _ _, _, .tuple (.made serial) h => .pure (.tuple (.made serial) h)
  | .tuple _ _, _, .tuple .written h => by
    refine Making.Alike.bind (R := Eq) (fun _ => ⟨rfl, .succeeds rfl⟩) ?_
    rintro id _ rfl
    exact Making.Alike.bind (AllAlike.make h) fun _ _ h => .pure (.tuple id h)

theorem AllAlike.make : ∀ {vs vs' : List Value}, AllAlike π shown vs vs' →
    Making.Alike π (AllAlike π shown) (makeItems vs) (makeItems vs')
  | [], _, .nil => .pure .nil
  | _ :: _, _, .cons h hs =>
    .bind (Alike.make h) fun _ _ h => .bind (AllAlike.make hs) fun _ _ hs => .pure (.cons h hs)

end

/-! ### Joining -/

/-- Nothing but a tuple is joined to a tuple. -/
theorem related_tuple_plus {R : Value → Value → Prop} {b b' : Value}
    (h : Text.Alike π b.typeName b'.typeName) (hb : ∀ j ys, b ≠ .tuple j ys)
    (hb' : ∀ j ys, b' ≠ .tuple j ys) (i : Identity) (xs xs' : List Value) :
    Related (Fault.Alike π) R ((Value.tuple i xs).plus b) ((Value.tuple i xs').plus b') := by
  have hplus : ∀ (xs : List Value) (b : Value), (∀ j ys, b ≠ .tuple j ys) →
      (Value.tuple i xs).plus b = .error (.cannotContinue "tuple" b.typeName) := by
    intro xs b hb
    cases b with
    | tuple j ys => exact absurd rfl (hb j ys)
    | _ => cases xs <;> rfl
  rw [hplus xs b hb, hplus xs' b' hb']
  exact .fails (alike_cannotContinue h "tuple")

/-- Tuples are joined element by element, or one of them is the result. -/
theorem AllAlike.plus {xs xs' ys ys' : List Value} (h : AllAlike π shown xs xs')
    (h' : AllAlike π shown ys ys') (i j : Identity) :
    Related (Fault.Alike π) (Alike π shown) ((Value.tuple i xs).plus (.tuple j ys))
      ((Value.tuple i xs').plus (.tuple j ys')) := by
  cases h with
  | nil => exact .succeeds (.tuple j h')
  | cons h hs =>
    cases h' with
    | nil => exact .succeeds (.tuple i (.cons h hs))
    | cons h' hs' =>
      exact .succeeds (.tuple .written (AllAlike.append (.cons h' hs') (.cons h hs)))

/-- **Values that are alike are joined alike.** -/
theorem Alike.plus {a a' b b' : Value} (ha : Alike π shown a a') (hb : Alike π shown b b') :
    Related (Fault.Alike π) (Alike π shown) (a.plus b) (a'.plus b') := by
  -- texts and tuples are joined with what is of their own kind only
  cases ha with
  | renamed a =>
    cases hb with
    | renamed b => exact (renames_plus a b).imp fun v _ h => h ▸ .renamed v
    | text h hs =>
      cases a with
      | str s => exact .succeeds (.text h (Text.Alike.append (.refl s) hs))
      | tuple i xs =>
        refine related_tuple_plus (Text.Alike.refl "str") ?_ ?_ i _ _ <;>
          exact fun _ _ heq => nomatch heq
      | list => exact .fails (.refl π _)
      | bytes | bytearray => exact .fails (.refl π _)
      | _ =>
        exact .fails
          (alike_unsupportedOperands (alike_typeName _) (Text.Alike.refl "str") "+")
    | tuple j h =>
      cases a with
      | tuple i xs => exact (AllAlike.renamed π shown xs).plus h i j
      | str | list => exact .fails (.refl π _)
      | bytes | bytearray => exact .fails (.refl π _)
      | _ =>
        exact .fails
          (alike_unsupportedOperands (alike_typeName _) (Text.Alike.refl "tuple") "+")
  | text h hs =>
    cases hb with
    | renamed b =>
      cases b with
      | str t => exact .succeeds (.text h (Text.Alike.append hs (.refl t)))
      | _ => exact .fails (alike_cannotContinue (alike_typeName _) "str")
    | text h' ht => exact .succeeds (.text h (.append hs ht))
    | tuple => exact .fails (.refl π _)
  | tuple i h =>
    cases hb with
    | renamed b =>
      cases b with
      | tuple j ys => exact h.plus (AllAlike.renamed π shown ys) i j
      | _ =>
        refine related_tuple_plus (alike_typeName _) ?_ ?_ i _ _ <;>
          exact fun _ _ heq => nomatch heq
    | text h' ht =>
      refine related_tuple_plus (Text.Alike.refl "str") ?_ ?_ i _ _ <;>
        exact fun _ _ heq => nomatch heq
    | tuple j h' => exact h.plus h' i j

end Value

end TrackedEntity
