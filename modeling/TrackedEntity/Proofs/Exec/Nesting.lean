import TrackedEntity.Proofs.Exec.Composition

/-!
# What an operation comes to

In the course of an operation others are run.  `Reaches` says that one is run at some moment in such
a way that nothing catches what it halts with: all that stands between are operations that run
before it and return, and ones that would follow.  So whatever the inner operation halts with, the
outer one halts with, at the same moment (`Reaches.halts`).

What has happened until then is composed of operations on the entity, hence keeps to any relation
that confines these (`Reaches.confined`).
-/

namespace TrackedEntity

/-- Whether an operation that is run at one moment comes to run another one, at a later moment, with
nothing between that catches what this one halts with. -/
inductive Exec.Reaches (scene : Scene) :
    {α β : Type} → Exec α → Moment → Exec β → Moment → Prop
  | here {α : Type} (x : Exec α) (m : Moment) : Reaches scene x m x m
  /-- In the first of two operations. -/
  | first {α β γ : Type} {x : Exec α} {f : α → Exec β} {y : Exec γ} {m m' : Moment}
      (h : Reaches scene x m y m') : Reaches scene (x >>= f) m y m'
  /-- In the second of two operations, after the first one has returned. -/
  | rest {α β γ : Type} {x : Exec α} {f : α → Exec β} {y : Exec γ} {a : α} {m m₁ m' : Moment}
      {run : Runner} (hrun : scene.Admits run) (hx : Composed run scene x)
      (hr : x.run m = (.ok a, m₁)) (h : Reaches scene (f a) m₁ y m') :
      Reaches scene (x >>= f) m y m'

namespace Exec.Reaches

variable {scene : Scene} {α β : Type} {x : Exec α} {y : Exec β} {m m' : Moment}

/-- **What an inner operation halts with** reaches the outer one, and nothing is done after that. -/
theorem halts (h : Reaches scene x m y m') {f : Halt} {m'' : Moment}
    (hy : y.run m' = (.error f, m'')) : x.run m = (.error f, m'') := by
  induction h with
  | here => exact hy
  | first _ ih => exact run_bind_error (ih hy)
  | rest _ _ hr _ ih => rw [run_bind_ok hr, ih hy]

/-- Until the inner operation is run, a relation that confines the elementary operations holds. -/
theorem confined (h : Reaches scene x m y m') {R : Moment → Moment → Prop}
    (hR : scene.Confines R) : R m m' := by
  induction h with
  | here x m => exact hR.refl m
  | first _ ih => exact ih
  | @rest _ _ _ x _ _ _ m _ _ _ hrun hx hr _ ih =>
    have hfirst := hR.composed hrun hx m
    rw [hr] at hfirst
    exact hR.trans hfirst ih

end Exec.Reaches

end TrackedEntity
