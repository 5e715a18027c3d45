import TrackedEntity.Proofs.Exec.Running
import TrackedEntity.Proofs.Hook.Binding
import TrackedEntity.Proofs.Value.Comparison
import TrackedEntity.Session.Step

/-!
# Calls that can be bound

A hook that is called with arguments that it cannot take is a fault of its own
(`Fault.isMiscall`).  An operation `Binds` if it never ends with this fault.  The only place where
the fault comes up is `Hook.call`, so whatever is made of other operations binds, and a call does if
the hook takes as many arguments as it is given (`Exec.Binds.call`).

Getters call their hooks with one argument or with two and setters theirs with two.  Where the hooks
of all tokens fit that (`Scene.Fits`), no operation on an entity ends with the fault
(`Exec.Binds.perform`), however deeply bodies call each other (`Scene.binds_run`).
-/

namespace TrackedEntity

open Outcome Exec

/-- Whether a fault is that of a hook which was called with arguments that it cannot take. -/
def Fault.isMiscall : Fault → Bool
  | .wrongArguments _ => true
  | _ => false

/-! ### Computations with values -/

/-- Whether a computation never fails because of a call with arguments that cannot be taken. -/
def Outcome.Binds (x : Except Fault α) : Prop := FailsWith (fun f => f.isMiscall = false) x

namespace Outcome.Binds

variable {α β : Type} {x : Except Fault α}

theorem ok (a : α) : Outcome.Binds (.ok a) := FailsWith.ok _ a

theorem error {f : Fault} (h : f.isMiscall = false) : Outcome.Binds (.error f : Except Fault α) :=
  FailsWith.error h

theorem raised (h : FailsWith Fault.IsRaised x) : Outcome.Binds x :=
  h.mono fun f hf => by
    obtain ⟨kind, text, rfl⟩ := hf
    rfl

theorem unordered (h : FailsWith Fault.IsUnordered x) : Outcome.Binds x :=
  h.mono fun f hf => by
    rcases hf with ⟨kind, text, rfl⟩ | ⟨relation, left, right, rfl⟩
    · rfl
    · rfl

theorem requireHashable (v : Value) : Outcome.Binds v.requireHashable := by
  unfold Value.requireHashable
  split
  · exact error rfl
  · exact ok _

theorem part (v : Value) (name : String) : Outcome.Binds (v.part name) := by
  unfold Value.part
  split
  all_goals first
    | exact ok _
    | exact error rfl

theorem strip (v : Value) : Outcome.Binds v.strip := by
  unfold Value.strip
  split
  · exact ok _
  · exact ok _
  · exact ok _
  · exact error rfl

theorem float? {v : Value} {x : Except Fault Binary64} (h : v.float? = some x) :
    Outcome.Binds x := by
  unfold Value.float? at h
  split at h
  · obtain rfl := Option.some.inj h
    exact ok _
  · obtain ⟨n, -, rfl⟩ := Option.map_eq_some_iff.1 h
    split
    · exact error rfl
    · exact ok _

theorem complex? {v : Value} {z : Except Fault (Binary64 × Binary64)}
    (h : v.complex? = some z) : Outcome.Binds z := by
  unfold Value.complex? at h
  split at h
  · obtain rfl := Option.some.inj h
    exact ok _
  · obtain ⟨x, hx, rfl⟩ := Option.map_eq_some_iff.1 h
    exact (float? hx).map

theorem sum? {a b : Value} {x : Except Fault Value} (h : a.sum? b = some x) : Outcome.Binds x := by
  unfold Value.sum? at h
  split at h
  · obtain rfl := Option.some.inj h
    exact ok _
  · split at h
    · next hx hy =>
      obtain rfl := Option.some.inj h
      exact FailsWith.bind (float? hx) fun _ => FailsWith.bind (float? hy) fun _ => ok _
    · split at h
      · next hz hw =>
        obtain rfl := Option.some.inj h
        exact FailsWith.bind (complex? hz) fun _ => FailsWith.bind (complex? hw) fun _ => ok _
      · cases h

theorem plus (a b : Value) : Outcome.Binds (a.plus b) := by
  have hsum : Outcome.Binds
      ((a.sum? b).getD (.error (.unsupportedOperands "+" a.typeName b.typeName))) := by
    cases h : a.sum? b with
    | none => exact error rfl
    | some x => exact sum? h
  unfold Value.plus
  split
  all_goals first
    | exact ok _
    | exact error rfl
    | exact hsum

theorem byteIndex (length : ℕ) (byte : ℤ) : Outcome.Binds (Mask.byteIndex length byte) := by
  unfold Mask.byteIndex
  split
  · exact error rfl
  · split
    · exact error rfl
    · exact ok _

theorem isSet (mask : Mask) (ordinal : ℤ) : Outcome.Binds (mask.isSet ordinal) := by
  cases mask with
  | scalar bits =>
    unfold Mask.isSet
    dsimp only
    split
    · exact error rfl
    · exact ok _
  | bytes data => exact (byteIndex _ _).map

theorem mark (mask : Mask) (ordinal : ℤ) : Outcome.Binds (mask.mark ordinal) := by
  cases mask with
  | scalar bits =>
    unfold Mask.mark
    dsimp only
    split
    · exact error rfl
    split
    · exact error rfl
    split
    · exact error rfl
    · exact ok _
  | bytes data => exact (byteIndex _ _).map

theorem addition (describe : Value → String) (h : HandlerSpec) :
    Outcome.Binds (h.addition describe) := by
  cases h with
  | callable h => exact ok _
  | value v => exact error rfl

theorem removal? (subscribed : List Handler) (h : HandlerSpec) :
    Outcome.Binds (h.removal? subscribed) := by
  cases h with
  | callable h => exact ok _
  | value v =>
    unfold HandlerSpec.removal?
    dsimp only
    split
    · exact FailsWith.bind (raised (Value.raised_askRight v)) fun _ => ok _
    · exact ok _

end Outcome.Binds

/-! ### Making objects -/

/-- Whether making objects never fails because of a call with arguments that cannot be taken. -/
def Value.Making.Binds (x : Value.Making α) : Prop := ∀ serial, Outcome.Binds (x.run serial).1

namespace Value.Making.Binds

variable {α β : Type}

theorem pure (a : α) : Binds (Pure.pure a) := fun _ => Outcome.Binds.ok a

theorem bind {x : Value.Making α} {f : α → Value.Making β} (hx : Binds x) (hf : ∀ a, Binds (f a)) :
    Binds (x >>= f) := by
  intro serial
  have hx := hx serial
  show Outcome.Binds ((ExceptT.bindCont f (x.run serial).1).run (x.run serial).2).1
  cases hr : x.run serial with
  | mk r next =>
    rw [hr] at hx
    cases r with
    | error f => exact Outcome.Binds.error (hx f rfl)
    | ok a => exact hf a next

theorem ofExcept {r : Except Fault α} (hr : Outcome.Binds r) : Binds (Making.ofExcept r) := by
  intro serial
  cases r with
  | error f => exact hr
  | ok a => exact Outcome.Binds.ok a

theorem newIdentity : Binds newIdentity := fun _ => Outcome.Binds.ok _

theorem makeIdentity (id : Identity) : Binds (makeIdentity id) := by
  cases id with
  | written => exact newIdentity
  | made serial => exact pure _

theorem setItems (items : List Value) : Binds (setItems items) := by
  have hforM : Outcome.Binds (items.forM Value.requireHashable) := by
    induction items with
    | nil => exact Outcome.Binds.ok _
    | cons v items ih =>
      show Outcome.Binds (v.requireHashable >>= fun _ => items.forM Value.requireHashable)
      exact FailsWith.bind (Outcome.Binds.requireHashable v) fun _ => ih
  exact bind (ofExcept hforM) fun _ => pure _

mutual

theorem make : ∀ v : Value, Binds v.make
  | .float id _ | .complex id _ _ | .bytearray id _ | .sentinel id _ | .function id _
  | .method id _ | .object id => bind (makeIdentity id) fun _ => pure _
  | .list .written items => bind newIdentity fun _ => bind (makeItems items) fun _ => pure _
  | .tuple .written items => bind newIdentity fun _ => bind (makeItems items) fun _ => pure _
  | .set .written items =>
    bind newIdentity fun _ => bind (makeItems items) fun _ => bind (setItems _) fun _ => pure _
  | .frozenset .written items =>
    bind newIdentity fun _ => bind (makeItems items) fun _ => bind (setItems _) fun _ => pure _
  | .dict .written entries => bind newIdentity fun _ => bind (makeEntries entries) fun _ => pure _
  | .point .written _ x y =>
    bind newIdentity fun _ => bind (make x) fun _ => bind (make y) fun _ => pure _
  | .comparer .written _ (.answers result) =>
    bind newIdentity fun _ => bind (make result) fun _ => pure _
  | .comparer .written _ (.raises _ _) | .comparer .written _ .undecided
  | .comparer .written _ .abstains => bind newIdentity fun _ => pure _
  | .none | .bool _ | .int _ | .str _ | .bytes _ | .entity _ | .channel
  | .list (.made _) _ | .tuple (.made _) _ | .set (.made _) _ | .frozenset (.made _) _
  | .dict (.made _) _ | .point (.made _) _ _ _ | .comparer (.made _) _ _ => pure _
termination_by structural v => v

theorem makeItems : ∀ vs : List Value, Binds (Value.makeItems vs)
  | [] => pure _
  | v :: vs => bind (make v) fun _ => bind (makeItems vs) fun _ => pure _
termination_by structural vs => vs

theorem makeEntries : ∀ es : List (Value × Value), Binds (Value.makeEntries es)
  | [] => pure _
  | (k, v) :: es =>
    bind (make k) fun k => bind (make v) fun _ =>
      bind (ofExcept (Outcome.Binds.requireHashable k)) fun _ =>
        bind (makeEntries es) fun _ => pure _
termination_by structural es => es

end

end Value.Making.Binds

/-! ### Operations -/

/-- Whether an operation never ends because of a call with arguments that cannot be taken. -/
def Exec.Binds (x : Exec α) : Prop := ∀ m f, (x.run m).1 = .error (.fault f) → f.isMiscall = false

namespace Exec.Binds

variable {α β : Type}

theorem pure (a : α) : Binds (Pure.pure a) := fun m f h => by cases h

theorem fail {f : Fault} (h : f.isMiscall = false) : Binds (Exec.fail f : Exec α) := by
  rintro m _ ⟨⟩
  exact h

theorem bind {x : Exec α} {f : α → Exec β} (hx : Binds x) (hf : ∀ a, Binds (f a)) :
    Binds (x >>= f) := by
  intro m
  have hx := hx m
  rw [run_bind]
  cases hr : x.run m with
  | mk r m' =>
    rw [hr] at hx
    cases r with
    | error h =>
      intro f hf
      exact hx f (congrArg Except.error (Except.error.inj hf))
    | ok a => exact hf a m'

theorem ofExcept {r : Except Fault α} (hr : Outcome.Binds r) : Binds (Exec.ofExcept r) := by
  cases r with
  | error f => exact fail (hr f rfl)
  | ok a => exact pure a

theorem entity : Binds Exec.entity := fun m f h => by cases h

theorem className : Binds Exec.className := bind entity fun _ => pure _

theorem self : Binds Exec.self := bind className fun _ => pure _

theorem setEntity (e : EntityState) : Binds (Exec.setEntity e) := fun m f h => by cases h

theorem place : Binds Exec.place := fun m f h => by cases h

theorem record (event : Event) : Binds (Exec.record event) := fun m f h => by cases h

theorem isTrue (v : Value) : Binds (Exec.isTrue v) := by
  refine bind entity fun e => ?_
  split
  · exact pure _
  · exact pure _

theorem make (v : Value) : Binds (Exec.make v) := by
  intro m f h
  refine ofExcept (Value.Making.Binds.make v m.nextSerial)
    { m with nextSerial := (v.make.run m.nextSerial).2 } f ?_
  exact h

theorem readSlot (ordinal : ℤ) : Binds (Exec.readSlot ordinal) := by
  unfold Exec.readSlot
  split
  on_goal 1 => refine bind (fail rfl) fun _ => ?_
  all_goals
    refine bind entity fun e => ?_
    split
    · exact fail rfl
    · exact pure _

theorem writeSlot (ordinal : ℤ) (v : Value) : Binds (Exec.writeSlot ordinal v) := by
  unfold Exec.writeSlot
  split
  on_goal 1 => refine bind (fail rfl) fun _ => ?_
  all_goals
    refine bind entity fun e => ?_
    split
    · exact fail rfl
    · exact setEntity _

theorem mark (ordinal : ℤ) : Binds (Exec.mark ordinal) :=
  bind entity fun _ => bind (ofExcept (Outcome.Binds.mark _ _)) fun _ => setEntity _

end Exec.Binds

/-! ### Hooks that fit -/

/-- Whether the hook of a getter, if it has one, takes what it is called with. -/
def Getter.Fits : Getter → Prop
  | .slot _ | .unreadable _ _ => True
  | .hook h => h.Takes 1
  | .hookWithSlot h _ | .hookWithDefault h _ => h.Takes 2

/-- Whether the hooks of a token take what they are called with. -/
structure Token.Fits (t : Token) : Prop where
  getter : t.getter.Fits
  setter : ∀ s hook, t.setter = some s → s.hook = some hook → hook.Takes 2

/-- Whether the hooks of all tokens take what they are called with. -/
def Scene.Fits (scene : Scene) : Prop :=
  ∀ name t, scene.tokens.get? name = some t → t.Fits

/-- Whether bodies that are run never end because of a call with arguments that cannot be taken. -/
def Runner.Binds (run : Runner) : Prop := ∀ body args, Exec.Binds (run body args)

namespace Exec.Binds

variable {α β : Type} {run : Runner} (hrun : run.Binds)
include hrun

/-- **A call can be bound** if the hook takes as many arguments as it is given. -/
theorem call {hook : Hook} {args : List Value} (h : hook.Takes args.length) :
    Binds (hook.call run args) := by
  obtain ⟨seen, hseen⟩ := Option.isSome_iff_exists.1 (h args rfl)
  rw [Hook.call, hseen]
  exact hrun hook.body seen

theorem getter {g : Getter} (h : g.Fits) : Binds (g.read run) := by
  cases g with
  | slot ordinal => exact readSlot ordinal
  | unreadable property owner => exact fail rfl
  | hook hook => exact bind self fun _ => call hrun h
  | hookWithSlot hook ordinal => exact bind self fun _ => bind (readSlot _) fun _ => call hrun h
  | hookWithDefault hook default => exact bind self fun _ => call hrun h

theorem goesAhead {s : Setter} (h : ∀ hook, s.hook = some hook → hook.Takes 2) (v : Value) :
    Binds (s.goesAhead run v) := by
  unfold Setter.goesAhead
  cases hhook : s.hook with
  | some hook => exact bind self fun _ => bind (call hrun (h hook hhook)) fun w => isTrue w
  | none =>
    refine bind (readSlot _) fun current => bind (ofExcept ?_) fun _ => pure _
    split
    · exact Outcome.Binds.raised (Value.raised_equals _ _)
    · exact Outcome.Binds.raised (Value.raised_identityFirst _ _)

theorem callHandlers (emission : ℕ) (sender : Value) (name : String) (hs : List Handler) :
    Binds (callHandlers run emission sender name hs) := by
  induction hs with
  | nil => exact pure _
  | cons h hs ih => exact bind entity fun _ => bind (record _) fun _ => bind (hrun _ _) fun _ => ih

theorem notify (sender : Value) (name : String) : Binds (notify run sender name) := by
  refine bind entity fun e => ?_
  split
  · exact fail rfl
  · exact bind place fun _ => bind (record _) fun _ => callHandlers hrun _ _ _ _

theorem assign {s : Setter} (h : ∀ hook, s.hook = some hook → hook.Takes 2) (v : Value) :
    Binds (s.assign run v) := by
  refine bind (goesAhead hrun h v) fun b => ?_
  split
  · refine bind (writeSlot _ _) fun _ => bind (record _) fun _ => bind (mark _) fun _ => ?_
    split
    · exact bind self fun _ => notify hrun _ _
    · exact pure _
  · exact pure _

theorem reader {t : Token} (h : t.Fits) : Binds (t.read run) := by
  unfold Token.read
  split
  · exact getter hrun h.getter
  · exact getter hrun h.getter
  · exact readSlot _

/-! ### The surface of an entity -/

omit hrun

variable {scene : Scene}

/-- Looking a token up binds, and the token that is found fits. -/
theorem token? {f : Option Token → Exec α} (hscene : scene.Fits) (key : Value)
    (hf : ∀ t, (∀ token, t = some token → token.Fits) → Binds (f t)) :
    Binds (scene.token? key >>= f) := by
  have hfound : Binds (f (key.str?.bind scene.tokens.get?)) := by
    refine hf _ fun token htoken => ?_
    obtain ⟨name, -, htoken⟩ := Option.bind_eq_some_iff.1 htoken
    exact hscene name token htoken
  unfold Scene.token?
  rw [bind_assoc]
  exact bind (ofExcept (Outcome.Binds.requireHashable key)) fun _ => hfound

theorem isMarked (t : Token) : Binds (Scene.isMarked t) :=
  bind entity fun _ => ofExcept (Outcome.Binds.isSet _ _)

theorem anyChanged (hscene : scene.Fits) (keys : List Value) : Binds (scene.anyChanged keys) := by
  induction keys with
  | nil => exact pure _
  | cons key keys ih =>
    refine token? hscene key fun t _ => ?_
    cases t with
    | none => exact ih
    | some t =>
      dsimp only
      split
      · refine bind (isMarked t) fun b => ?_
        split
        · exact pure _
        · exact ih
      · exact ih

theorem hasChanges (hscene : scene.Fits) (keys : List Value) : Binds (scene.hasChanges keys) := by
  have hasks : Binds (Scene.asksForAny keys) := by
    have hidentity : ∀ key, Binds (Exec.ofExcept (Value.identityFirst key .none)) := fun key =>
      ofExcept (Outcome.Binds.raised (Value.raised_identityFirst _ _))
    match keys with
    | [] => exact pure _
    | [key] => exact hidentity key
    | key :: _ :: _ => exact bind (hidentity key) fun _ => pure _
  refine bind hasks fun b => ?_
  split
  · exact bind entity fun _ => pure _
  · exact anyChanged hscene keys

theorem isChannel (name : String) : Binds (Scene.isChannel name) := bind entity fun _ => pure _

theorem editExtras (name : String) {change : Table String Value → Exec (Table String Value)}
    (h : ∀ extras, Binds (change extras)) : Binds (scene.editExtras name change) := by
  refine bind entity fun e => ?_
  split
  · exact bind (h _) fun _ => setEntity _
  · dsimp only
    split
    · exact bind (fail rfl) fun _ => fail rfl
    · exact fail rfl

theorem editChannel (change : Edit Handler) : Binds (Scene.editChannel change) :=
  bind entity fun _ => bind (setEntity _) fun _ => record _

theorem deleteAttribute (name : String) : Binds (scene.deleteAttribute name) := by
  have hextras : Binds (scene.editExtras name fun extras => do
      if extras.has name then return extras.erase name
      Exec.fail (.noAttribute (← Exec.className) name)) := by
    refine editExtras name fun extras => ?_
    split
    · exact pure _
    · exact bind className fun _ => fail rfl
  -- both branches go on in this way
  have hchannel : Binds (do
      if ← Scene.isChannel name then Exec.fail (.noDeleter name (← Exec.className))
      scene.editExtras name fun extras => do
        if extras.has name then return extras.erase name
        Exec.fail (.noAttribute (← Exec.className) name)) := by
    refine bind (isChannel name) fun b => ?_
    split
    · exact bind className fun _ => bind (fail rfl) fun _ => hextras
    · exact hextras
  unfold Scene.deleteAttribute
  split
  · exact bind className fun _ => bind (fail rfl) fun _ => hchannel
  · exact hchannel

variable (hscene : scene.Fits)
include hrun hscene

theorem changesAt (ordinals : List ℕ) : Binds (scene.changesAt run ordinals) := by
  induction ordinals with
  | nil => exact pure _
  | cons ordinal ordinals ih =>
    unfold Scene.changesAt
    split
    · exact fail rfl
    · split
      · exact bind className fun _ => fail rfl
      · next name t ht =>
        exact bind (reader hrun (hscene _ t ht)) fun _ => bind ih fun _ => pure _

theorem changes : Binds (scene.changes run) := by
  refine bind entity fun e => ?_
  dsimp only
  split
  · exact changesAt hrun hscene _
  · exact pure _

theorem describe : Binds (scene.describe run) :=
  bind (changes hrun hscene) fun _ => bind className fun _ =>
    bind (bind entity fun _ => pure _) fun _ => pure _

theorem tryGet (key : Value) : Binds (scene.tryGet run key) := by
  refine token? hscene key fun t ht => ?_
  cases t with
  | none => exact pure _
  | some t =>
    have hread : Binds (do return some (← t.read run)) :=
      bind (reader hrun (ht t rfl)) fun _ => pure _
    dsimp only
    split
    · refine bind (isMarked t) fun b => ?_
      split
      · exact pure _
      · exact hread
    · exact hread

theorem trySet (key v : Value) : Binds (scene.trySet run key v) := by
  refine token? hscene key fun t ht => ?_
  split
  · exact pure _
  · next s hs =>
    obtain ⟨token, rfl, hs⟩ := Option.bind_eq_some_iff.1 hs
    exact bind (assign hrun (fun hook => (ht token rfl).setter s hook hs) v) fun _ => pure _

theorem getAttribute (name : String) : Binds (scene.getAttribute run name) := by
  unfold Scene.getAttribute
  split
  · next t ht => exact getter hrun (hscene name t ht).getter
  · refine bind (isChannel name) fun b => ?_
    split
    · exact pure _
    · refine bind entity fun e => ?_
      dsimp only
      split
      · exact make _
      · exact bind className fun _ => fail rfl

theorem setAttribute (name : String) (v : Value) : Binds (scene.setAttribute run name v) := by
  unfold Scene.setAttribute
  split
  · next t ht =>
    split
    · next s hs => exact assign hrun (fun hook => (hscene name t ht).setter s hook hs) v
    · exact bind className fun _ => fail rfl
  · have hextras : Binds (scene.editExtras name fun extras => return extras.put name v) :=
      editExtras name fun _ => pure _
    refine bind (isChannel name) fun b => ?_
    split
    · exact bind className fun _ => bind (fail rfl) fun _ => hextras
    · exact hextras

theorem channelFor (operation : String) : Binds (scene.channelFor run operation) := by
  refine bind entity fun e => ?_
  split
  · exact pure _
  · exact bind (getAttribute hrun hscene _) fun _ => fail rfl

theorem subscribe (h : HandlerSpec) : Binds (scene.subscribe run h) :=
  bind (channelFor hrun hscene _) fun _ =>
    bind (ofExcept (Outcome.Binds.addition _ h)) fun change => editChannel change

theorem unsubscribe (h : HandlerSpec) : Binds (scene.unsubscribe run h) := by
  refine bind (channelFor hrun hscene _) fun c =>
    bind (ofExcept (Outcome.Binds.removal? _ h)) fun change => ?_
  cases change with
  | some change => exact editChannel change
  | none => exact pure _

theorem tell (name : String) : Binds (scene.tell run name) :=
  bind (channelFor hrun hscene _) fun _ => bind self fun _ => notify hrun _ _

theorem subscribers : Binds (scene.subscribers run) := by
  refine bind entity fun e => ?_
  split
  · exact pure _
  · exact bind (getAttribute hrun hscene _) fun _ => fail rfl

/-! ### Bodies -/

omit hrun hscene

theorem subject (args : List Value) : Binds (Expr.subject args) := by
  unfold Expr.subject
  split
  · exact fail rfl
  · exact pure _

theorem argument (args : List Value) (position : ℤ) : Binds (Expr.argument args position) := by
  unfold Expr.argument
  split
  · exact fail rfl
  · split
    · exact pure _
    · exact fail rfl

theorem onEntity {args : List Value} {name : String} {work : Exec α} (h : Binds work) :
    Binds (Expr.onEntity args name work) := by
  refine bind (subject args) fun v => ?_
  split
  · exact h
  · exact fail rfl

theorem makeAll (vs : List Value) : Binds (vs.mapM Exec.make) := by
  induction vs with
  | nil => exact pure _
  | cons v vs ih =>
    rw [List.mapM_cons]
    exact bind (make v) fun _ => bind ih fun _ => pure _

mutual

/-- **Evaluating a body binds.** -/
theorem eval (hrun : run.Binds) (hscene : scene.Fits) (args : List Value) :
    ∀ e : Expr, Binds (e.eval run scene args)
  | .const v => make v
  | .arg i => argument args i
  | .argCount => pure _
  | .get name => by
    unfold Expr.eval
    refine bind (subject args) fun v => ?_
    split
    · exact getAttribute hrun hscene name
    · exact bind (ofExcept (Outcome.Binds.part _ _)) fun _ => make _
  | .tryGet name => onEntity (bind (tryGet hrun hscene _) fun _ => make _)
  | .changes => onEntity (bind (changes hrun hscene) fun _ => make _)
  | .hasChanges keys =>
    onEntity (bind (makeAll keys) fun keys => bind (hasChanges hscene keys) fun _ => pure _)
  | .set name e =>
    bind (eval hrun hscene args e) fun v =>
      bind (onEntity (setAttribute hrun hscene name v)) fun _ => pure _
  | .trySet name e =>
    onEntity (bind (eval hrun hscene args e) fun v => bind (trySet hrun hscene _ v) fun _ => pure _)
  | .equals a b =>
    bind (eval hrun hscene args a) fun x => bind (eval hrun hscene args b) fun y =>
      bind (ofExcept (Outcome.Binds.raised (Value.raised_equals x y))) fun _ => pure _
  | .isNone e => bind (eval hrun hscene args e) fun _ => pure _
  | .not e => bind (eval hrun hscene args e) fun v => bind (isTrue v) fun _ => pure _
  | .and a b => by
    unfold Expr.eval
    refine bind (eval hrun hscene args a) fun v => bind (isTrue v) fun t => ?_
    split
    · exact eval hrun hscene args b
    · exact pure _
  | .or a b => by
    unfold Expr.eval
    refine bind (eval hrun hscene args a) fun v => bind (isTrue v) fun t => ?_
    split
    · exact pure _
    · exact eval hrun hscene args b
  | .ite c a b => by
    unfold Expr.eval
    refine bind (eval hrun hscene args c) fun v => bind (isTrue v) fun t => ?_
    split
    · exact eval hrun hscene args a
    · exact eval hrun hscene args b
  | .plus a b =>
    bind (eval hrun hscene args a) fun x => bind (eval hrun hscene args b) fun y =>
      bind (ofExcept (Outcome.Binds.plus x y)) fun _ => make _
  | .atLeast a b =>
    bind (eval hrun hscene args a) fun x => bind (eval hrun hscene args b) fun y =>
      bind (ofExcept (Outcome.Binds.unordered (Value.unordered_atLeast x y))) fun _ => pure _
  | .strip e =>
    bind (eval hrun hscene args e) fun v => bind (ofExcept (Outcome.Binds.strip v)) fun _ => make _
  | .tuple es => bind (evalAll hrun hscene args es) fun _ => make _
  | .log e => bind (eval hrun hscene args e) fun v => bind (record _) fun _ => pure _
  | .seq es => bind (evalAll hrun hscene args es) fun _ => pure _
  | .raise kind text => fail rfl
  | .subscribe name => bind (subscribe hrun hscene _) fun _ => pure _
  | .unsubscribe name => bind (unsubscribe hrun hscene _) fun _ => pure _
  | .describe => bind (describe hrun hscene) fun _ => pure _
  | .newObject => make _
termination_by structural e => e

theorem evalAll (hrun : run.Binds) (hscene : scene.Fits) (args : List Value) :
    ∀ es : List Expr, Binds (Expr.evalAll run scene args es)
  | [] => pure _
  | e :: es =>
    bind (eval hrun hscene args e) fun _ => bind (evalAll hrun hscene args es) fun _ => pure _
termination_by structural es => es

end

/-- **Work on an entity binds**, whatever it is. -/
theorem perform (hrun : run.Binds) (hscene : scene.Fits) (work : EntityWork) :
    Binds (work.perform run scene) := by
  cases work with
  | get name => exact bind (getAttribute hrun hscene name) fun _ => pure _
  | set name v =>
    exact bind (make v) fun v => bind (setAttribute hrun hscene name v) fun _ => pure _
  | delete name => exact bind (deleteAttribute name) fun _ => pure _
  | hasChanges keys =>
    exact bind (makeAll keys) fun keys => bind (hasChanges hscene keys) fun _ => pure _
  | changes => exact bind (changes hrun hscene) fun _ => pure _
  | tryGet key =>
    exact bind (make key) fun key => bind (tryGet hrun hscene key) fun _ =>
      bind (make _) fun _ => pure _
  | trySet key v =>
    exact bind (make key) fun key => bind (make v) fun v =>
      bind (trySet hrun hscene key v) fun _ => pure _
  | describe => exact bind (describe hrun hscene) fun _ => pure _
  | subscribe handler => exact bind (subscribe hrun hscene _) fun _ => pure _
  | unsubscribe handler => exact bind (unsubscribe hrun hscene _) fun _ => pure _
  | tell name => exact bind (tell hrun hscene name) fun _ => pure _
  | handlers => exact bind (subscribers hrun hscene) fun _ => pure _
  | nature => exact bind className fun _ => pure _

end Exec.Binds

/-- **Bodies bind to any depth**, if the hooks fit. -/
theorem Scene.binds_run {scene : Scene} (hscene : scene.Fits) (depth : ℕ) :
    (scene.run depth).Binds := by
  induction depth with
  | zero => exact fun body args m f h => by cases h
  | succ depth ih => exact fun body args => Exec.Binds.eval ih hscene args body

end TrackedEntity
