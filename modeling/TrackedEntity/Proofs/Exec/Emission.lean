import TrackedEntity.Proofs.Exec.Running

/-!
# How calls of handlers end

Handlers are called one after another.  Either all of them return (`Returned`), or one does not:
then those before it have returned, and those after it are not called.  `CallsEnd` says which of the
handlers were called, and `run_callHandlers_iff` that calls end in no other way.
-/

namespace TrackedEntity

variable (run : Runner) (emission : ℕ) (sender : Value) (name : String)

/-- Handlers that are called one after another on behalf of an emission and return, from the moment
before the first call to the moment after the last one. -/
inductive Returned : List Handler → Moment → Moment → Prop
  | nil (m : Moment) : Returned [] m m
  | cons {h : Handler} {hs : List Handler} {m m₁ m₂ : Moment} {w : Value}
      (body : (run h.body [sender, .str name]).run
        (m.after (.called emission h sender name m.entity)) = (.ok w, m₁))
      (rest : Returned hs m₁ m₂) : Returned (h :: hs) m m₂

/-- How calls of handlers end, and which of them were called: all have returned, or those before
some handler have, and the body of this one did not. -/
inductive CallsEnd (hs : List Handler) (m : Moment) :
    List Handler → Except Halt Unit → Moment → Prop
  | returned {m' : Moment} (h : Returned run emission sender name hs m m') :
      CallsEnd hs m hs (.ok ()) m'
  | halted {before after : List Handler} {h : Handler} {m₁ m' : Moment} {f : Halt}
      (split : hs = before ++ h :: after) (returned : Returned run emission sender name before m m₁)
      (body : (run h.body [sender, .str name]).run
        (m₁.after (.called emission h sender name m₁.entity)) = (.error f, m')) :
      CallsEnd hs m (before ++ [h]) (.error f) m'

variable {run emission sender name} {h : Handler} {hs called before after : List Handler}
  {m m₁ m' : Moment} {w : Value} {r : Except Halt Unit} {f : Halt}

theorem CallsEnd.cons
    (body : (run h.body [sender, .str name]).run
      (m.after (.called emission h sender name m.entity)) = (.ok w, m₁))
    (rest : CallsEnd run emission sender name hs m₁ called r m') :
    CallsEnd run emission sender name (h :: hs) m (h :: called) r m' := by
  cases rest with
  | returned hrest => exact .returned (.cons body hrest)
  | halted split hrest hbody => exact .halted (by rw [split]; rfl) (.cons body hrest) hbody

/-- If nothing halted, all the handlers were called. -/
theorem CallsEnd.called_eq (hend : CallsEnd run emission sender name hs m called (.ok ()) m') :
    called = hs := by
  cases hend with
  | returned _ => rfl

theorem Returned.run_callHandlers (hreturned : Returned run emission sender name before m m₁)
    (after : List Handler) :
    (callHandlers run emission sender name (before ++ after)).run m =
      (callHandlers run emission sender name after).run m₁ := by
  induction hreturned with
  | nil m => rfl
  | cons body _ ih =>
    rw [List.cons_append, run_callHandlers_cons, body]
    exact ih

theorem exists_callsEnd (hr : (callHandlers run emission sender name hs).run m = (r, m')) :
    ∃ called, CallsEnd run emission sender name hs m called r m' := by
  induction hs generalizing m with
  | nil =>
    obtain ⟨rfl, rfl⟩ := Prod.mk.inj hr
    exact ⟨[], .returned (.nil m)⟩
  | cons h hs ih =>
    rw [run_callHandlers_cons] at hr
    cases hb : (run h.body [sender, .str name]).run
        (m.after (.called emission h sender name m.entity)) with
    | mk r₁ m₁ =>
      rw [hb] at hr
      cases r₁ with
      | error f =>
        obtain ⟨rfl, rfl⟩ := Prod.mk.inj hr
        have hsplit : h :: hs = [] ++ h :: hs := rfl
        exact ⟨[h], .halted hsplit (.nil m) hb⟩
      | ok w =>
        obtain ⟨called, hrest⟩ := ih hr
        exact ⟨h :: called, .cons hb hrest⟩

/-- **Calls of handlers end in no other way.** -/
theorem run_callHandlers_iff :
    (callHandlers run emission sender name hs).run m = (r, m') ↔
      ∃ called, CallsEnd run emission sender name hs m called r m' := by
  constructor
  · exact exists_callsEnd
  · rintro ⟨called, hend⟩
    cases hend with
    | returned hreturned =>
      have hall := hreturned.run_callHandlers []
      rw [List.append_nil] at hall
      exact hall
    | halted split hreturned body =>
      rw [split, hreturned.run_callHandlers, run_callHandlers_cons, body]

end TrackedEntity
