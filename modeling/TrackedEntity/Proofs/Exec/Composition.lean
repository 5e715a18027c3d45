import TrackedEntity.Proofs.Exec.Running
import TrackedEntity.Session.Step

/-!
# What operations are composed of

Every operation on an entity, and every body, is composed of few elementary ones: quiet operations,
entries in the log, runs of bodies, changes of the subscribers, and assignments through the setters
of the entity's type.  `Composed` is the closure of these under sequencing and under catching what
halts, so that it also has all the operations that a body could make of the others.

A `Runner` is *admitted* (`Scene.Admits`) when the bodies that it runs are composed in this way,
with a runner for nested bodies that is admitted in turn.  `Scene.run` is admitted at every depth
(`admits_run`), and so is any other way to run bodies that keeps to the operations of the entity.

The point is `Scene.Confines.composed`: a transitive relation between moments that holds across the
elementary operations holds across whatever is composed of them.  An assignment is the one
elementary operation that runs bodies itself, so its part may suppose that these keep to the
relation; the other parts are `Exec.Frames`.
-/

namespace TrackedEntity

open Exec

/-- Whether a setter belongs to a token of the scene. -/
def Scene.Sets (scene : Scene) (s : Setter) : Prop :=
  ∃ name token, scene.tokens.get? name = some token ∧ token.setter = some s

/-- Operations that are composed of elementary ones, when `run` runs the bodies. -/
inductive Exec.Composed (run : Runner) (scene : Scene) : {α : Type} → Exec α → Prop
  | quiet {α : Type} {x : Exec α} (h : Quiet x) : Composed run scene x
  | log (v : Value) : Composed run scene (log v)
  | body (e : Expr) (args : List Value) : Composed run scene (run e args)
  | edit (change : Edit Handler) : Composed run scene (Scene.editChannel change)
  | assign {s : Setter} (hs : scene.Sets s) (v : Value) : Composed run scene (s.assign run v)
  /-- One operation after another, which may depend on the result. -/
  | seq {α β : Type} {x : Exec α} {f : α → Exec β} (hx : Composed run scene x)
      (hf : ∀ a m m', x.run m = (.ok a, m') → Composed run scene (f a)) :
      Composed run scene (x >>= f)
  /-- An operation that takes over where another one halted. -/
  | recover {α : Type} {x : Exec α} {handle : Halt → Exec α} (hx : Composed run scene x)
      (hh : ∀ h, Composed run scene (handle h)) : Composed run scene (tryCatch x handle)

/-- Whether a piece of work tells the subscribers outright, with no assignment behind it. -/
def EntityWork.tells : EntityWork → Bool
  | .tell _ => true
  | _ => false

/-- Runners whose bodies are composed of elementary operations, to any depth. -/
inductive Scene.Admits (scene : Scene) : Runner → Prop
  | exhausted : Scene.Admits scene fun _ _ => throw .exhausted
  | nested {inner run : Runner} (hi : Scene.Admits scene inner)
      (h : ∀ body args, Composed inner scene (run body args)) : Scene.Admits scene run

/-! ### Relations that confine operations -/

/-- Whether a relation between moments holds across the elementary operations, assignments apart. -/
structure Exec.Frames (R : Moment → Moment → Prop) : Prop where
  trans : ∀ {a b c}, R a b → R b c → R a c
  quiet : ∀ m extras serial,
    R m { m with entity := { m.entity with extras }, nextSerial := serial }
  log : ∀ m v, R m (m.after (.logged v))
  edit : ∀ m change, R m (m.after (.edited change))

namespace Exec.Frames

variable {R : Moment → Moment → Prop} (h : Frames R)
include h

theorem refl (m : Moment) : R m m := h.quiet m m.entity.extras m.nextSerial

theorem of_quiet {α : Type} {x : Exec α} (hx : Quiet x) (m : Moment) : R m (x.run m).2 := by
  obtain ⟨extras, serial, hm⟩ := hx m
  rw [hm]
  exact h.quiet m extras serial

theorem seq {α β : Type} {x : Exec α} {f : α → Exec β} {m : Moment} (hx : R m (x.run m).2)
    (hf : ∀ a m', x.run m = (.ok a, m') → R m' ((f a).run m').2) : R m ((x >>= f).run m).2 := by
  rw [run_bind]
  cases hr : x.run m with
  | mk r m' =>
    rw [hr] at hx
    cases r with
    | error e => exact hx
    | ok a => exact h.trans hx (hf a m' hr)

variable {run : Runner} (hrun : ∀ body args m, R m ((run body args).run m).2)
include hrun

theorem call (hook : Hook) (args : List Value) (m : Moment) :
    R m ((hook.call run args).run m).2 := by
  unfold Hook.call
  split
  · exact h.refl m
  · exact hrun _ _ m

/-- Deciding about an assignment does no more than its hook does. -/
theorem goesAhead (s : Setter) (v : Value) (m : Moment) :
    R m ((s.goesAhead run v).run m).2 := by
  unfold Setter.goesAhead
  cases s.hook with
  | some hook =>
    refine h.seq (h.of_quiet Quiet.self m) fun self m' _ => ?_
    exact h.seq (h.call hrun hook _ m') fun w m'' _ => h.of_quiet (Quiet.isTrue w) m''
  | none =>
    refine h.seq (h.of_quiet (Quiet.readSlot _) m) fun current m' _ => ?_
    exact h.of_quiet (Quiet.bind (Quiet.ofExcept _) fun _ => Quiet.pure _) m'

/-- An assignment keeps to a relation if the rest of it does, wherever the decision has led. -/
theorem assign {s : Setter} {v : Value} (hfinish : ∀ m, R m ((s.finish run v).run m).2)
    (m : Moment) : R m ((s.assign run v).run m).2 := by
  have hdecide := h.goesAhead hrun s v m
  rw [Setter.run_assign]
  cases hr : (s.goesAhead run v).run m with
  | mk r m' =>
    rw [hr] at hdecide
    match r with
    | .error e => exact hdecide
    | .ok false => exact hdecide
    | .ok true => exact h.trans hdecide (hfinish m')

end Exec.Frames

/-- Whether a relation between moments holds across the elementary operations. -/
structure Scene.Confines (scene : Scene) (R : Moment → Moment → Prop) : Prop extends
    Exec.Frames R where
  assign : ∀ {run : Runner}, scene.Admits run → (∀ body args m, R m ((run body args).run m).2) →
    ∀ {s : Setter}, scene.Sets s → ∀ v m, R m ((s.assign run v).run m).2

namespace Scene.Confines

variable {scene : Scene} {R : Moment → Moment → Prop} (h : scene.Confines R)
include h

theorem of_composed {α : Type} {run : Runner} (hadmits : scene.Admits run)
    (hrun : ∀ body args m, R m ((run body args).run m).2) {x : Exec α}
    (hx : Composed run scene x) (m : Moment) : R m (x.run m).2 := by
  induction hx generalizing m with
  | quiet hx => exact h.of_quiet hx m
  | log v => exact h.log m v
  | body e args => exact hrun e args m
  | edit change => exact h.edit m change
  | assign hs v => exact h.assign hadmits hrun hs v m
  | seq _ _ ihx ihf => exact h.seq (ihx m) fun a m' hr => ihf a m m' hr m'
  | @recover _ x handle _ _ ihx ihh =>
    -- what was done before the halt stays done, so the handling goes on from there
    rw [run_tryCatch]
    have hfirst := ihx m
    cases hr : x.run m with
    | mk r m' =>
      rw [hr] at hfirst
      cases r with
      | error e => exact h.trans hfirst (ihh e m')
      | ok a => exact hfirst

/-- A relation that confines the elementary operations confines the bodies. -/
theorem of_admits {run : Runner} (hrun : scene.Admits run) (body : Expr) (args : List Value)
    (m : Moment) : R m ((run body args).run m).2 := by
  induction hrun generalizing body args m with
  | exhausted => exact h.refl m
  | nested hi hb ih => exact h.of_composed hi ih (hb body args) m

/-- **What is composed of elementary operations is confined**, if these are. -/
theorem composed {α : Type} {run : Runner} (hrun : scene.Admits run) {x : Exec α}
    (hx : Composed run scene x) (m : Moment) : R m (x.run m).2 :=
  h.of_composed hrun (h.of_admits hrun) hx m

end Scene.Confines

/-! ### The surface of an entity -/

namespace Exec.Composed

variable {run : Runner} {scene : Scene} {α β : Type}

theorem bind {x : Exec α} {f : α → Exec β} (hx : Composed run scene x)
    (hf : ∀ a, Composed run scene (f a)) : Composed run scene (x >>= f) :=
  seq hx fun a _ _ _ => hf a

/-- A quiet operation and then another one. -/
theorem after {x : Exec α} {f : α → Exec β} (hx : Quiet x) (hf : ∀ a, Composed run scene (f a)) :
    Composed run scene (x >>= f) :=
  bind (quiet hx) hf

theorem pure (a : α) : Composed run scene (Pure.pure a) := quiet (Quiet.pure a)

theorem fail (f : Fault) : Composed run scene (Exec.fail f : Exec α) := quiet (Quiet.fail f)

theorem call (h : Hook) (args : List Value) : Composed run scene (h.call run args) := by
  unfold Hook.call
  split
  · exact fail _
  · exact body _ _

theorem getter (g : Getter) : Composed run scene (g.read run) := by
  cases g with
  | slot ordinal => exact quiet (Quiet.readSlot ordinal)
  | unreadable property owner => exact fail _
  | hook h => exact after Quiet.self fun _ => call h _
  | hookWithSlot h ordinal =>
    exact after Quiet.self fun _ => after (Quiet.readSlot ordinal) fun _ => call h _
  | hookWithDefault h default => exact after Quiet.self fun _ => call h _

theorem reader (t : Token) : Composed run scene (t.read run) := by
  unfold Token.read
  split
  · exact getter _
  · exact getter _
  · exact quiet (Quiet.readSlot _)

theorem quiet_token? (key : Value) : Quiet (scene.token? key) :=
  Quiet.bind (Quiet.ofExcept _) fun _ => Quiet.pure _

theorem quiet_isMarked (t : Token) : Quiet (Scene.isMarked t) :=
  Quiet.bind Quiet.entity fun _ => Quiet.ofExcept _

theorem quiet_anyChanged (keys : List Value) : Quiet (scene.anyChanged keys) := by
  induction keys with
  | nil => exact Quiet.pure _
  | cons key keys ih =>
    refine Quiet.bind (quiet_token? key) fun t => ?_
    cases t with
    | none => exact ih
    | some t =>
      dsimp only
      split
      · refine Quiet.bind (quiet_isMarked t) fun b => ?_
        split
        · exact Quiet.pure _
        · exact ih
      · exact ih

theorem quiet_hasChanges (keys : List Value) : Quiet (scene.hasChanges keys) := by
  refine Quiet.bind ?_ fun b => ?_
  · match keys with
    | [] => exact Quiet.pure _
    | [key] => exact Quiet.ofExcept _
    | _ :: _ :: _ => exact Quiet.bind (Quiet.ofExcept _) fun _ => Quiet.pure _
  · split
    · exact Quiet.bind Quiet.entity fun _ => Quiet.pure _
    · exact quiet_anyChanged keys

theorem changesAt (ordinals : List Nat) : Composed run scene (scene.changesAt run ordinals) := by
  induction ordinals with
  | nil => exact pure _
  | cons ordinal ordinals ih =>
    unfold Scene.changesAt
    split
    · exact fail _
    · split
      · exact after Quiet.className fun _ => fail _
      · exact bind (reader _) fun _ => bind ih fun _ => pure _

theorem changes : Composed run scene (scene.changes run) := by
  refine after Quiet.entity fun e => ?_
  dsimp only
  split
  · exact changesAt _
  · exact pure _

theorem describe : Composed run scene (scene.describe run) :=
  bind changes fun _ => after Quiet.className fun _ =>
    after (Quiet.bind Quiet.entity fun _ => Quiet.pure _) fun _ => pure _

theorem tryGet (key : Value) : Composed run scene (scene.tryGet run key) := by
  refine after (quiet_token? key) fun t => ?_
  cases t with
  | none => exact pure _
  | some t =>
    have hread : Composed run scene (do return some (← t.read run)) :=
      bind (reader t) fun _ => pure _
    dsimp only
    split
    · refine after (quiet_isMarked t) fun b => ?_
      split
      · exact pure _
      · exact hread
    · exact hread

theorem sets_of_token? {key : Value} {t : Token} {s : Setter} {m m' : Moment}
    (h : (scene.token? key).run m = (.ok (some t), m')) (hs : t.setter = some s) :
    scene.Sets s := by
  unfold Scene.token? at h
  rw [run_bind, run_ofExcept] at h
  cases hk : key.requireHashable with
  | error f =>
    rw [hk] at h
    cases h
  | ok _ =>
    rw [hk] at h
    obtain ⟨name, -, ht⟩ := Option.bind_eq_some_iff.1 (Except.ok.inj (Prod.mk.inj h).1)
    exact ⟨name, t, ht, hs⟩

theorem trySet (key v : Value) : Composed run scene (scene.trySet run key v) := by
  -- not `bind`: that the setter belongs to the scene is known only from what the look-up gave
  refine seq (quiet (quiet_token? key)) fun t m m' ht => ?_
  split
  · exact pure _
  · rename_i s hs
    obtain ⟨t, rfl, hs⟩ := Option.bind_eq_some_iff.1 hs
    exact bind (assign (sets_of_token? ht hs) v) fun _ => pure _

theorem quiet_isChannel (name : String) : Quiet (Scene.isChannel name) :=
  Quiet.bind Quiet.entity fun _ => Quiet.pure _

theorem getAttribute (name : String) : Composed run scene (scene.getAttribute run name) := by
  unfold Scene.getAttribute
  split
  · exact getter _
  · refine after (quiet_isChannel name) fun b => ?_
    split
    · exact pure _
    · refine after Quiet.entity fun e => ?_
      dsimp only
      split
      · exact quiet (Quiet.make _)
      · exact after Quiet.className fun _ => fail _

/-- Changes of the further attributes are quiet, if what they are changed to is found out quietly
and without making objects. -/
theorem quiet_editExtras (name : String) {change : Table String Value → Exec (Table String Value)}
    (h : ∀ extras m, ((change extras).run m).2 = m) : Quiet (scene.editExtras name change) := by
  unfold Scene.editExtras
  intro m
  rw [run_bind_ok (run_entity m)]
  cases hx : m.entity.extras with
  | some extras =>
    dsimp only
    have hm := h extras m
    cases hr : (change extras).run m with
    | mk r m' =>
      rw [hr] at hm
      obtain rfl : m' = m := hm
      cases r with
      | error e =>
        rw [run_bind_error hr]
        exact ⟨m'.entity.extras, m'.nextSerial, rfl⟩
      | ok extras' =>
        rw [run_bind_ok hr, run_setEntity]
        exact ⟨some extras', m'.nextSerial, rfl⟩
  | none =>
    dsimp only
    split
    · exact ⟨m.entity.extras, m.nextSerial, rfl⟩
    · exact ⟨m.entity.extras, m.nextSerial, rfl⟩

theorem setAttribute (name : String) (v : Value) :
    Composed run scene (scene.setAttribute run name v) := by
  unfold Scene.setAttribute
  split
  · rename_i t ht
    split
    · rename_i s hs
      exact assign ⟨name, t, ht, hs⟩ v
    · exact after Quiet.className fun _ => fail _
  · have hextras : Quiet (scene.editExtras name fun extras => return extras.put name v) :=
      quiet_editExtras name fun _ _ => rfl
    refine after (quiet_isChannel name) fun b => ?_
    split
    · exact after Quiet.className fun _ => bind (fail _) fun _ => quiet hextras
    · exact quiet hextras

theorem channelFor (operation : String) : Composed run scene (scene.channelFor run operation) := by
  refine after Quiet.entity fun e => ?_
  split
  · exact pure _
  · exact bind (getAttribute _) fun _ => fail _

theorem subscribe (h : HandlerSpec) : Composed run scene (scene.subscribe run h) :=
  bind (channelFor _) fun _ => after (Quiet.ofExcept _) fun change => edit change

theorem unsubscribe (h : HandlerSpec) : Composed run scene (scene.unsubscribe run h) := by
  refine bind (channelFor _) fun c => after (Quiet.ofExcept _) fun change => ?_
  cases change with
  | some change => exact edit change
  | none => exact pure _

theorem subscribers : Composed run scene (scene.subscribers run) := by
  refine after Quiet.entity fun e => ?_
  split
  · exact pure _
  · exact bind (getAttribute _) fun _ => fail _

theorem deleteAttribute (name : String) :
    Composed run scene (scene.deleteAttribute name) := by
  have hextras : Quiet (scene.editExtras name fun extras => do
      if extras.has name then return extras.erase name
      Exec.fail (.noAttribute (← className) name)) := by
    refine quiet_editExtras name fun extras m => ?_
    split
    · rfl
    · rfl
  -- both branches go on in this way
  have hchannel : Composed run scene (do
      if ← Scene.isChannel name then Exec.fail (.noDeleter name (← className))
      scene.editExtras name fun extras => do
        if extras.has name then return extras.erase name
        Exec.fail (.noAttribute (← className) name)) := by
    refine after (quiet_isChannel name) fun b => ?_
    split
    · exact after Quiet.className fun _ => bind (fail _) fun _ => quiet hextras
    · exact quiet hextras
  unfold Scene.deleteAttribute
  split
  · exact after Quiet.className fun _ => bind (fail _) fun _ => hchannel
  · exact hchannel

/-! ### Bodies -/

theorem subject (args : List Value) : Composed run scene (Expr.subject args) := by
  unfold Expr.subject
  split
  · exact fail _
  · exact pure _

theorem argument (args : List Value) (position : ℤ) :
    Composed run scene (Expr.argument args position) := by
  unfold Expr.argument
  split
  · exact fail _
  · split
    · exact pure _
    · exact fail _

theorem onEntity {args : List Value} {name : String} {work : Exec α}
    (h : Composed run scene work) : Composed run scene (Expr.onEntity args name work) := by
  refine bind (subject args) fun v => ?_
  split
  · exact h
  · exact fail _

theorem quiet_makeAll (vs : List Value) : Quiet (vs.mapM Exec.make) := by
  induction vs with
  | nil => exact Quiet.pure _
  | cons v vs ih =>
    rw [List.mapM_cons]
    exact Quiet.bind (Quiet.make v) fun _ => Quiet.bind ih fun _ => Quiet.pure _

theorem make (v : Value) : Composed run scene (Exec.make v) := quiet (Quiet.make v)

mutual

/-- **Evaluating a body is composed** of elementary operations. -/
theorem eval (args : List Value) :
    ∀ e : Expr, Composed run scene (e.eval run scene args)
  | .const v => make v
  | .arg i => argument args i
  | .argCount => pure _
  | .get name => by
    unfold Expr.eval
    refine bind (subject args) fun v => ?_
    split
    · exact getAttribute name
    · exact after (Quiet.ofExcept _) fun _ => make _
  | .tryGet name => onEntity (bind (tryGet _) fun _ => make _)
  | .changes => onEntity (bind changes fun _ => make _)
  | .hasChanges keys =>
    onEntity (after (quiet_makeAll keys) fun keys => after (quiet_hasChanges keys) fun _ => pure _)
  | .set name e =>
    bind (eval args e) fun v => bind (onEntity (setAttribute name v)) fun _ => pure _
  | .trySet name e => onEntity (bind (eval args e) fun v => bind (trySet _ v) fun _ => pure _)
  | .equals a b =>
    bind (eval args a) fun _ => bind (eval args b) fun _ => after (Quiet.ofExcept _) fun _ => pure _
  | .isNone e => bind (eval args e) fun _ => pure _
  | .not e => bind (eval args e) fun v => after (Quiet.isTrue v) fun _ => pure _
  | .and a b => by
    unfold Expr.eval
    refine bind (eval args a) fun v => after (Quiet.isTrue v) fun t => ?_
    split
    · exact eval args b
    · exact pure _
  | .or a b => by
    unfold Expr.eval
    refine bind (eval args a) fun v => after (Quiet.isTrue v) fun t => ?_
    split
    · exact pure _
    · exact eval args b
  | .ite c a b => by
    unfold Expr.eval
    refine bind (eval args c) fun v => after (Quiet.isTrue v) fun t => ?_
    split
    · exact eval args a
    · exact eval args b
  | .plus a b =>
    bind (eval args a) fun _ => bind (eval args b) fun _ => after (Quiet.ofExcept _) fun _ => make _
  | .atLeast a b =>
    bind (eval args a) fun _ => bind (eval args b) fun _ => after (Quiet.ofExcept _) fun _ => pure _
  | .strip e => bind (eval args e) fun _ => after (Quiet.ofExcept _) fun _ => make _
  | .tuple es => bind (evalAll args es) fun _ => make _
  | .log e => bind (eval args e) fun v => bind (log v) fun _ => pure _
  | .seq es => bind (evalAll args es) fun _ => pure _
  | .raise kind text => fail _
  | .subscribe name => bind (subscribe _) fun _ => pure _
  | .unsubscribe name => bind (unsubscribe _) fun _ => pure _
  | .describe => bind describe fun _ => pure _
  | .newObject => make _
termination_by structural e => e

/-- Evaluating bodies in order is composed of elementary operations. -/
theorem evalAll (args : List Value) :
    ∀ es : List Expr, Composed run scene (Expr.evalAll run scene args es)
  | [] => pure _
  | e :: es => bind (eval args e) fun _ => bind (evalAll args es) fun _ => pure _
termination_by structural es => es

end

/-! ### Work on an entity -/

/-- Work on an entity is composed of elementary operations, except for telling the subscribers
outright. -/
theorem perform {work : EntityWork} (h : work.tells = false) :
    Composed run scene (work.perform run scene) := by
  cases work with
  | get name => exact bind (getAttribute name) fun _ => pure _
  | set name v => exact bind (make v) fun v => bind (setAttribute name v) fun _ => pure _
  | delete name => exact bind (deleteAttribute name) fun _ => pure _
  | hasChanges keys =>
    exact after (quiet_makeAll keys) fun keys => after (quiet_hasChanges keys) fun _ => pure _
  | changes => exact bind changes fun _ => pure _
  | tryGet key =>
    exact bind (make key) fun key => bind (tryGet key) fun _ => bind (make _) fun _ => pure _
  | trySet key v =>
    exact bind (make key) fun key => bind (make v) fun v => bind (trySet key v) fun _ => pure _
  | describe => exact bind describe fun _ => pure _
  | subscribe handler => exact bind (subscribe _) fun _ => pure _
  | unsubscribe handler => exact bind (unsubscribe _) fun _ => pure _
  | tell name => cases h
  | handlers => exact bind subscribers fun _ => pure _
  | nature => exact after Quiet.className fun _ => pure _

end Exec.Composed

/-- **Running bodies to a depth is admitted**, whatever the depth. -/
theorem Scene.admits_run (scene : Scene) (depth : ℕ) : scene.Admits (scene.run depth) := by
  induction depth with
  | zero => exact .exhausted
  | succ depth ih => exact .nested ih fun body args => Composed.eval args body

end TrackedEntity
