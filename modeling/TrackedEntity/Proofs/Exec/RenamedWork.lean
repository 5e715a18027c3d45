import TrackedEntity.Proofs.Channel.Subscribers
import TrackedEntity.Proofs.Exec.Renaming
import TrackedEntity.Session.Step

/-!
# Work under other class names

Whatever can be asked of an entity ends alike under another class name, if its hooks and handlers
are discreet, and also where its class has another documentation and another module.  This is shown
operation by operation; for bodies (`Exec.Alike.eval`) it is an induction on the expression, and for
bodies that call bodies (`Scene.alike_run`) on the depth.  So work on entities ends alike
(`Exec.Alike.perform`).
-/

namespace TrackedEntity

open Outcome Exec

variable {δ : Discretion} {π : Equiv.Perm String} {shown : Bool}

/-- Whether the constants of another class suit a discretion: there are the same ones as in the
scene, and those that may be read have the same values. -/
structure Discretion.Suits (δ : Discretion) (scene : Scene) (constants : Table String Value) :
    Prop where
  get?_eq : ∀ name, δ.reads name → scene.tokens.get? name = none →
    constants.get? name = scene.constants.get? name
  isSome_eq : ∀ name, (constants.get? name).isSome = (scene.constants.get? name).isSome
  channel : δ.reads Scene.channelAttribute

namespace Exec

namespace Alike

variable {α α' : Type} {R : α → α' → Prop} {run run' : Runner} {scene : Scene}
  {constants : Table String Value}

/-! ### The surface of an entity -/

theorem isMarked (t : Token) : Alike δ π Eq (Scene.isMarked t) (Scene.isMarked t) := by
  refine bind entity ?_
  rintro e _ ⟨-, rfl⟩
  exact ofExcept_self _

theorem isChannel (name : String) :
    Alike δ π Eq (Scene.isChannel name) (Scene.isChannel name) := by
  refine bind entity ?_
  rintro e _ ⟨-, rfl⟩
  exact pure rfl

theorem asksForAny (keys : List Value) :
    Alike δ π Eq (Scene.asksForAny keys) (Scene.asksForAny (Value.renamedItems π keys)) := by
  have hidentity : ∀ key : Value, Alike δ π Eq (Exec.ofExcept (Value.identityFirst key .none))
      (Exec.ofExcept (Value.identityFirst (key.renamed π) .none)) := by
    intro key
    have hsame : Value.identityFirst (key.renamed π) .none = Value.identityFirst key .none :=
      Value.identityFirst_renamed key .none
    rw [hsame]
    exact ofExcept_self _
  match keys with
  | [] => exact pure rfl
  | [key] => exact hidentity key
  | key :: _ :: _ => exact bind (hidentity key) fun _ _ _ => pure rfl

theorem editChannel {change : Edit Handler} (h : ∀ handler, change = .add handler →
    handler.body.Discreet δ true) :
    Alike δ π Eq (Scene.editChannel change) (Scene.editChannel change) := by
  refine bind entity ?_
  rintro e _ ⟨hdiscreet, rfl⟩
  refine bind (setEntity (e := { e with channel := e.channel.map (·.edit change) }) ?_)
    fun _ _ _ => record (.renamed (.edited change))
  intro c hc handler hmem
  obtain ⟨c', hc', rfl⟩ := Option.map_eq_some_iff.1 hc
  rw [Edit.handlers_edit] at hmem
  cases change with
  | add added =>
    rcases List.mem_append.1 hmem with hmem | hmem
    · exact hdiscreet c' hc' handler hmem
    · exact h handler (congrArg Edit.add (List.mem_singleton.1 hmem).symm)
  | remove passes =>
    exact hdiscreet c' hc' handler ((onList_remove_sublist passes _).subset hmem)

theorem editExtras (hconstants : δ.Suits scene constants) (name : String)
    {change change' : Table String Value → Exec (Table String Value)}
    (h : ∀ extras, Alike δ π (fun t t' => t' = Value.renamedNamed π t) (change extras)
      (change' (Value.renamedNamed π extras))) :
    Alike δ π Eq (scene.editExtras name change)
      (Scene.editExtras { scene with constants } name change') := by
  refine bind entity ?_
  rintro e _ ⟨hdiscreet, rfl⟩
  have hextras : (e.renamed π).extras = e.extras.map (Value.renamedNamed π) := rfl
  have hpresent : (Scene.classAttribute? { scene with constants } name).isSome =
      (scene.classAttribute? name).isSome := by
    unfold Scene.classAttribute?
    split
    · rfl
    · exact hconstants.isSome_eq name
  rw [hextras, hpresent]
  cases e.extras with
  | some extras =>
    refine bind (h extras) ?_
    rintro t _ rfl
    exact setEntity (e := { e with extras := some t }) hdiscreet
  | none =>
    dsimp only [Option.map_none]
    have hmissing : Alike δ π Eq (Exec.fail (α := Unit) (.noAttribute e.className name))
        (Exec.fail (.noAttribute (e.renamed π).className name)) :=
      fail (Value.alike_noAttribute (.name _) name)
    split
    · exact bind (R := Eq) (fail (alike_fixedAttribute _ name)) fun _ _ _ => hmissing
    · exact hmissing

theorem deleteAttribute (hconstants : δ.Suits scene constants)
    (name : String) :
    Alike δ π Eq (scene.deleteAttribute name)
      (Scene.deleteAttribute { scene with constants } name) := by
  have hextras : Alike δ π Eq (scene.editExtras name fun extras => do
        if extras.has name then return extras.erase name
        Exec.fail (.noAttribute (← Exec.className) name))
      (Scene.editExtras { scene with constants } name fun extras => do
        if extras.has name then return extras.erase name
        Exec.fail (.noAttribute (← Exec.className) name)) := by
    refine editExtras hconstants name fun extras => ?_
    rw [Value.has_renamedNamed]
    split
    · exact pure (Value.erase_renamedNamed extras name)
    · refine bind className ?_
      rintro _ _ rfl
      exact fail (Value.alike_noAttribute (.name _) name)
  -- both branches go on in this way
  have hchannel : Alike δ π Eq (do
        if ← Scene.isChannel name then Exec.fail (.noDeleter name (← Exec.className))
        scene.editExtras name fun extras => do
          if extras.has name then return extras.erase name
          Exec.fail (.noAttribute (← Exec.className) name))
      (do
        if ← Scene.isChannel name then Exec.fail (.noDeleter name (← Exec.className))
        Scene.editExtras { scene with constants } name fun extras => do
          if extras.has name then return extras.erase name
          Exec.fail (.noAttribute (← Exec.className) name)) := by
    refine bind (isChannel name) ?_
    rintro channel _ rfl
    split
    · refine bind className ?_
      rintro _ _ rfl
      exact bind (R := Eq) (fail (alike_noDeleter name _)) fun _ _ _ => hextras
    · exact hextras
  unfold Scene.deleteAttribute
  dsimp only
  split
  · refine bind className ?_
    rintro _ _ rfl
    exact bind (R := Eq) (fail (alike_notDeletable name _)) fun _ _ _ => hchannel
  · exact hchannel

variable (hrun : Runner.Alike δ π run run') (hscene : scene.Discreet δ)
include hscene

theorem token? (key : Value) :
    Alike δ π (fun t t' => t = t' ∧ ∀ token, t = some token → ∃ name, key.str? = some name ∧
      token.Discreet δ (δ.shows name)) (scene.token? key)
      (Scene.token? { scene with constants } (key.renamed π)) := by
  unfold Scene.token?
  rw [Value.requireHashable_renamed, Value.str?_renamed]
  refine bind (ofExcept_self _) fun _ _ _ => pure ⟨rfl, fun token htoken => ?_⟩
  obtain ⟨name, hname, htoken⟩ := Option.bind_eq_some_iff.1 htoken
  exact ⟨name, hname, hscene.tokens name token htoken⟩

theorem anyChanged (keys : List Value) :
    Alike δ π Eq (scene.anyChanged keys)
      (Scene.anyChanged { scene with constants } (Value.renamedItems π keys)) := by
  induction keys with
  | nil => exact pure rfl
  | cons key keys ih =>
    refine bind (token? hscene key) ?_
    rintro t _ ⟨rfl, -⟩
    cases t with
    | none => exact ih
    | some t =>
      dsimp only
      split
      · refine bind (isMarked t) ?_
        rintro marked _ rfl
        split
        · exact pure rfl
        · exact ih
      · exact ih

theorem hasChanges (keys : List Value) :
    Alike δ π Eq (scene.hasChanges keys)
      (Scene.hasChanges { scene with constants } (Value.renamedItems π keys)) := by
  refine bind (asksForAny keys) ?_
  rintro asks _ rfl
  split
  · refine bind entity ?_
    rintro e _ ⟨-, rfl⟩
    exact pure rfl
  · exact anyChanged hscene keys

include hrun

theorem changesAt (ordinals : List ℕ) :
    Alike δ π (fun changes changes' => changes' = Value.renamedNamed π changes)
      (scene.changesAt run ordinals)
      (Scene.changesAt run' { scene with constants } ordinals) := by
  induction ordinals with
  | nil => exact pure rfl
  | cons ordinal ordinals ih =>
    unfold Scene.changesAt
    dsimp only
    split
    · exact fail (.refl π _)
    · next name hname =>
      cases ht : scene.tokens.get? name with
      | none =>
        refine bind className ?_
        rintro _ _ rfl
        exact fail (Value.alike_noAttribute (.name _) name)
      | some t =>
        have hgetter := hscene.reports name (List.mem_of_getElem? hname) t ht
        refine bind_plain (reader hrun hgetter) fun v => ?_
        refine bind ih ?_
        rintro rest _ rfl
        exact pure rfl

theorem changes :
    Alike δ π (fun changes changes' => changes' = Value.renamedNamed π changes)
      (scene.changes run) (Scene.changes run' { scene with constants }) := by
  refine bind entity ?_
  rintro e _ ⟨-, rfl⟩
  have hmask : (e.renamed π).mask = e.mask := rfl
  rw [hmask]
  dsimp only
  split
  · exact changesAt hrun hscene _
  · exact pure rfl

theorem describe :
    Alike δ π (Text.Alike π) (scene.describe run)
      (Scene.describe run' { scene with constants }) := by
  refine bind (changes hrun hscene) ?_
  rintro changes _ rfl
  refine bind className ?_
  rintro name _ rfl
  refine bind (R := Eq) ?_ ?_
  · refine bind entity ?_
    rintro e _ ⟨-, rfl⟩
    exact pure rfl
  · rintro channel _ rfl
    have htexts : Text.Alike π (Scene.changesText channel changes)
        (Scene.changesText channel (Value.renamedNamed π changes)) := by
      refine .intercalate ?_ _
      rw [Value.renamedNamed, List.map_map]
      induction changes with
      | nil => exact .nil
      | cons change changes ih =>
        exact .cons ((Text.Alike.refl _).append (Value.alike_describeWith channel _)) ih
    exact pure ((((Text.Alike.name name).append (.refl _)).append htexts).append (.refl _))

theorem tryGet (key : Value)
    (hkey : ∀ name, key.str? = some name → δ.shows name = true → shown = true) :
    Alike δ π (Option.Rel (Value.Alike π shown)) (scene.tryGet run key)
      (Scene.tryGet run' { scene with constants } (key.renamed π)) := by
  refine bind (token? hscene key) ?_
  rintro t _ ⟨rfl, ht⟩
  cases t with
  | none => exact pure .none
  | some t =>
    obtain ⟨name, hname, hdiscreet⟩ := ht t rfl
    have hread : Alike δ π (Option.Rel (Value.Alike π shown))
        (do return some (← t.read run)) (do return some (← t.read run')) :=
      bind (reader hrun fun _ => hdiscreet.getter) fun _ _ hv =>
        pure (.some (hv.mono (hkey name hname)))
    dsimp only
    split
    · refine bind (isMarked t) ?_
      rintro marked _ rfl
      split
      · exact pure .none
      · exact hread
    · exact hread

theorem trySet (key v : Value) :
    Alike δ π Eq (scene.trySet run key v)
      (Scene.trySet run' { scene with constants } (key.renamed π) (v.renamed π)) := by
  refine bind (token? hscene key) ?_
  rintro t _ ⟨rfl, ht⟩
  cases hs : t.bind (·.setter) with
  | none => exact pure rfl
  | some s =>
    obtain ⟨token, htoken, hs⟩ := Option.bind_eq_some_iff.1 hs
    obtain ⟨name, -, hdiscreet⟩ := ht token htoken
    exact bind (assign hrun (fun hook => hdiscreet.setter s hook hs) v) fun _ _ _ => pure rfl

variable (hconstants : δ.Suits scene constants)
include hconstants

theorem getAttribute {name : String} (hname : δ.reads name) :
    Alike δ π (Value.Alike π (δ.shows name)) (scene.getAttribute run name)
      (Scene.getAttribute run' { scene with constants } name) := by
  unfold Scene.getAttribute
  dsimp only
  cases ht : scene.tokens.get? name with
  | some t => exact getter hrun (hscene.tokens name t ht).getter
  | none =>
    refine bind (isChannel name) ?_
    rintro channel _ rfl
    split
    · exact pure (.renamed .channel)
    · refine bind entity ?_
      rintro e _ ⟨-, rfl⟩
      -- what the class has is the same, what the entity has is renamed
      have hclass : Scene.classAttribute? { scene with constants } name =
          (scene.classAttribute? name).map (Value.renamed π) := by
        unfold Scene.classAttribute?
        split
        · rfl
        · rw [hconstants.get?_eq name hname ht]
          cases hv : scene.constants.get? name with
          | none => rfl
          | some v => exact congrArg some (hscene.constants name v hname hv π).symm
      have hown : ((e.renamed π).extras.bind fun extras => extras.get? name) =
          (e.extras.bind fun extras => extras.get? name).map (Value.renamed π) := by
        show ((e.extras.map (Value.renamedNamed π)).bind fun extras => extras.get? name) = _
        cases e.extras with
        | none => rfl
        | some extras => exact Value.get?_renamedNamed extras name
      rw [hclass, hown, ← Option.map_or]
      cases (e.extras.bind fun extras => extras.get? name).or (scene.classAttribute? name) with
      | some v => exact make (.renamed v)
      | none =>
        refine bind className ?_
        rintro _ _ rfl
        exact fail (Value.alike_noAttribute (.name _) name)

theorem setAttribute (name : String) (v : Value) :
    Alike δ π Eq (scene.setAttribute run name v)
      (Scene.setAttribute run' { scene with constants } name (v.renamed π)) := by
  unfold Scene.setAttribute
  dsimp only
  cases ht : scene.tokens.get? name with
  | some t =>
    dsimp only
    cases hs : t.setter with
    | some s => exact assign hrun (fun hook => (hscene.tokens name t ht).setter s hook hs) v
    | none =>
      refine bind className ?_
      rintro _ _ rfl
      exact fail (alike_noSetter name _)
  | none =>
    have hextras : Alike δ π Eq
        (scene.editExtras name fun extras => return extras.put name v)
        (Scene.editExtras { scene with constants } name fun extras =>
          return extras.put name (v.renamed π)) :=
      editExtras hconstants name fun extras => pure (Value.put_renamedNamed extras name v)
    refine bind (isChannel name) ?_
    rintro channel _ rfl
    split
    · refine bind className ?_
      rintro _ _ rfl
      exact bind (R := Eq) (fail (alike_noSetter name _)) fun _ _ _ => hextras
    · exact hextras

/-- Whatever an entity shows in the place of its channel is of one type, names apart. -/
theorem failAtChannel {α α' : Type} {R : α → α' → Prop} {fault : String → Fault}
    (h : ∀ {name name' : String}, Text.Alike π name name' →
      Fault.Alike π (fault name) (fault name')) :
    Alike δ π R
      (do Exec.fail (fault (← scene.getAttribute run Scene.channelAttribute).typeName))
      (do Exec.fail (fault
        (← Scene.getAttribute run' { scene with constants } Scene.channelAttribute).typeName)) :=
  bind (getAttribute hrun hscene hconstants hconstants.channel) fun _ _ hv =>
    fail (h hv.typeName)

theorem channelFor (operation : String) :
    Alike δ π (fun c c' => c = c' ∧ ∀ h ∈ c.handlers, h.body.Discreet δ true)
      (scene.channelFor run operation)
      (Scene.channelFor run' { scene with constants } operation) := by
  refine bind entity ?_
  rintro e _ ⟨hdiscreet, rfl⟩
  have hchannel : (e.renamed π).channel = e.channel := rfl
  rw [hchannel]
  cases hc : e.channel with
  | some c => exact pure ⟨rfl, hdiscreet c hc⟩
  | none =>
    exact failAtChannel hrun hscene hconstants fun h => Value.alike_noAttribute h operation

theorem subscribers :
    Alike δ π Eq (scene.subscribers run) (Scene.subscribers run' { scene with constants }) := by
  refine bind entity ?_
  rintro e _ ⟨-, rfl⟩
  have hchannel : (e.renamed π).channel = e.channel := rfl
  rw [hchannel]
  cases e.channel with
  | some c => exact pure rfl
  | none =>
    exact failAtChannel hrun hscene hconstants fun h =>
      ⟨rfl, ((Text.Alike.refl _).append h).append (.refl _), rfl⟩

theorem subscribe (name : String) :
    Alike δ π Eq (scene.subscribe run (scene.handler name))
      (Scene.subscribe run' { scene with constants } (scene.handler name)) := by
  refine bind (channelFor hrun hscene hconstants "add") ?_
  rintro c _ ⟨rfl, -⟩
  refine bind (ofExcept_of_ok
    (P := fun change => ∀ h, change = .add h → h.body.Discreet δ true) ?_) ?_
  · -- what subscribes is a handler of the scene
    intro change hchange h hadd
    subst hadd
    refine hscene.handlers name h ?_
    rw [Scene.handler] at hchange
    cases hget : scene.handlers.get? name with
    | none =>
      rw [hget] at hchange
      cases hchange
    | some spec =>
      rw [hget] at hchange
      cases spec with
      | callable h' =>
        cases hchange
        rfl
      | value v => cases hchange
  · rintro change _ ⟨rfl, hchange⟩
    exact editChannel hchange

theorem unsubscribe (h : HandlerSpec) :
    Alike δ π Eq (scene.unsubscribe run h)
      (Scene.unsubscribe run' { scene with constants } h) := by
  refine bind (channelFor hrun hscene hconstants "remove") ?_
  rintro c _ ⟨rfl, -⟩
  refine bind (ofExcept_of_ok (P := fun change => ∀ h, change ≠ some (.add h)) ?_) ?_
  · -- nothing is added by a removal
    rintro change hchange added rfl
    cases h with
    | callable h => cases hchange
    | value v =>
      unfold HandlerSpec.removal? at hchange
      dsimp only at hchange
      split at hchange
      · obtain ⟨asked, -, hchange⟩ := Outcome.bind_eq_ok.1 hchange
        cases asked <;> cases hchange
      · cases hchange
  · rintro change _ ⟨rfl, hchange⟩
    cases change with
    | none => exact pure rfl
    | some change => exact editChannel fun h hadd => absurd (congrArg some hadd) (hchange h)

theorem tell (name : String) :
    Alike δ π Eq (scene.tell run name) (Scene.tell run' { scene with constants } name) := by
  refine bind (channelFor hrun hscene hconstants "emit") fun _ _ _ => ?_
  refine bind self ?_
  rintro sender _ rfl
  exact notify hrun sender name

/-! ### Bodies -/

omit hscene hrun hconstants

theorem subject (args : List Value) :
    Alike δ π (Value.Becomes π) (Expr.subject args) (Expr.subject (Value.renamedItems π args)) := by
  cases args with
  | nil => exact fail (.refl π _)
  | cons v args => exact pure rfl

theorem argument (args : List Value) (position : ℤ) :
    Alike δ π (Value.Becomes π) (Expr.argument args position)
      (Expr.argument (Value.renamedItems π args) position) := by
  unfold Expr.argument
  split
  · exact fail (.refl π _)
  · rw [Value.length_renamedItems, Value.renamedItems_eq_map]
    simp only [List.getElem?_map]
    cases Position.fromEnds? args.length position with
    | none => exact fail (.refl π _)
    | some i =>
      dsimp only [Option.bind_some]
      cases args[i]? with
      | none => exact fail (.refl π _)
      | some v => exact pure rfl

theorem onEntity {args : List Value} {name : String} {work : Exec α} {work' : Exec α'}
    (h : Alike δ π R work work') :
    Alike δ π R (Expr.onEntity args name work)
      (Expr.onEntity (Value.renamedItems π args) name work') := by
  refine bind (subject args) ?_
  rintro v _ rfl
  cases v with
  | entity className => exact h
  | _ => exact fail (Value.alike_noAttribute (Value.alike_typeName _) name)

theorem makeAll (vs : List Value) :
    Alike δ π (fun made made' => made' = Value.renamedItems π made) (vs.mapM Exec.make)
      ((Value.renamedItems π vs).mapM Exec.make) := by
  induction vs with
  | nil => exact pure rfl
  | cons v vs ih =>
    rw [Value.renamedItems, List.mapM_cons, List.mapM_cons]
    refine bind (make_renamed v) ?_
    rintro made _ rfl
    refine bind ih ?_
    rintro rest _ rfl
    exact pure rfl

/-- The truth of a value decides which of two operations comes next. -/
theorem choose {x y : Exec α} {x' y' : Exec α'} (v : Value) (hx : Alike δ π R x x')
    (hy : Alike δ π R y y') :
    Alike δ π R (do if ← Exec.isTrue v then x else y)
      (do if ← Exec.isTrue (v.renamed π) then x' else y') := by
  refine bind (isTrue v) ?_
  rintro truth _ rfl
  split
  · exact hx
  · exact hy

mutual

/-- **Evaluating a discreet body ends alike.** -/
theorem eval (hrun : Runner.Alike δ π run run') (hscene : scene.Discreet δ)
    (hconstants : δ.Suits scene constants) (args : List Value) :
    ∀ (e : Expr) {shown : Bool}, e.Discreet δ shown →
    Alike δ π (Value.Alike π shown) (e.eval run scene args)
      (e.eval run' { scene with constants } (Value.renamedItems π args))
  | .const v, _, h => make (.of_nameless h)
  | .arg i, _, _ => (argument args i).imp fun _ _ => Value.Becomes.alike
  | .argCount, _, _ => by
    have hlength : Value.Becomes π (.int args.length) (.int (Value.renamedItems π args).length) :=
      congrArg (fun n : ℕ => Value.int n) (Value.length_renamedItems args)
    exact pure hlength.alike
  | .get name, shown, h => by
    refine bind (subject args) ?_
    rintro v _ rfl
    have hpart : Alike δ π (Value.Alike π shown) (do Exec.make (← Exec.ofExcept (v.part name)))
        (do Exec.make (← Exec.ofExcept ((v.renamed π).part name))) :=
      bind (ofExcept (Value.renames_part v name)) fun _ _ hpart => make hpart.alike
    cases v with
    | entity className =>
      exact (getAttribute hrun hscene hconstants h.1).imp fun _ _ hv => hv.mono h.2
    | _ => exact hpart
  | .tryGet name, _, h => by
    refine onEntity (bind (tryGet hrun hscene (.str name) fun _ hname => ?_) fun _ _ hreport =>
      make (.ofReport hreport))
    exact Option.some.inj hname ▸ h
  | .changes, _, _ => by
    refine onEntity (bind (changes hrun hscene) ?_)
    rintro changes _ rfl
    rw [← Value.ofChanges_renamed]
    exact make (.renamed _)
  | .hasChanges keys, _, h => by
    have hmake := makeAll (δ := δ) (π := π) keys
    rw [Value.renamedItems_of_nameless h] at hmake
    refine onEntity (bind hmake ?_)
    rintro made _ rfl
    refine bind (hasChanges hscene made) ?_
    rintro b _ rfl
    exact pure (.renamed (.bool b))
  | .set name e, _, h => by
    refine bind_plain (eval hrun hscene hconstants args e h) fun v => ?_
    exact bind (onEntity (setAttribute hrun hscene hconstants name v)) fun _ _ _ =>
      pure (.renamed .none)
  | .trySet name e, _, h => by
    refine onEntity (bind_plain (eval hrun hscene hconstants args e h) fun v => ?_)
    refine bind (trySet hrun hscene (.str name) v) ?_
    rintro b _ rfl
    exact pure (.renamed (.bool b))
  | .equals a b, _, h => by
    refine bind_plain (eval hrun hscene hconstants args a h.1) fun x => ?_
    refine bind_plain (eval hrun hscene hconstants args b h.2) fun y => ?_
    rw [Value.equals_renamed]
    refine bind (ofExcept_self _) ?_
    rintro equal _ rfl
    exact pure (.renamed (.bool equal))
  | .isNone e, _, h => by
    refine bind (eval hrun hscene hconstants args e h) ?_
    rintro v v' hv
    rw [hv.same_none]
    exact pure (.renamed (.bool _))
  | .not e, _, h => by
    refine bind_plain (eval hrun hscene hconstants args e h) fun v => ?_
    refine bind (isTrue v) ?_
    rintro truth _ rfl
    exact pure (.renamed (.bool !truth))
  | .and a b, _, h => by
    refine bind_plain (eval hrun hscene hconstants args a h.1) fun v => ?_
    exact choose v (eval hrun hscene hconstants args b h.2) (pure (.renamed v))
  | .or a b, _, h => by
    refine bind_plain (eval hrun hscene hconstants args a h.1) fun v => ?_
    exact choose v (pure (.renamed v)) (eval hrun hscene hconstants args b h.2)
  | .ite c a b, _, h => by
    refine bind_plain (eval hrun hscene hconstants args c h.1) fun v => ?_
    exact choose v (eval hrun hscene hconstants args a h.2.1)
      (eval hrun hscene hconstants args b h.2.2)
  | .plus a b, _, h =>
    bind (eval hrun hscene hconstants args a h.1) fun _ _ hx =>
      bind (eval hrun hscene hconstants args b h.2) fun _ _ hy =>
        bind (ofExcept (hx.plus hy)) fun _ _ hsum => make hsum
  | .atLeast a b, _, h => by
    refine bind_plain (eval hrun hscene hconstants args a h.1) fun x => ?_
    refine bind_plain (eval hrun hscene hconstants args b h.2) fun y => ?_
    refine bind (ofExcept (Value.agrees_atLeast x y)) ?_
    rintro answer _ rfl
    exact pure (.renamed (.bool answer))
  | .strip e, _, h => by
    refine bind_plain (eval hrun hscene hconstants args e h) fun v => ?_
    exact bind (ofExcept (Value.renames_strip v)) fun _ _ hstripped => make hstripped.alike
  | .tuple es, shown, h =>
    bind (evalAll hrun hscene hconstants args es id h) fun _ _ hvs =>
      make (.tuple .written hvs.1)
  | .log e, shown, h =>
    bind (eval hrun hscene hconstants args e h) fun _ _ hv =>
      bind (record (.logged (hv.mono fun _ => rfl))) fun _ _ _ => pure hv
  | .seq es, _, h =>
    bind (evalAll hrun hscene hconstants args es (fun _ => rfl) h) fun _ _ hvs =>
      pure (hvs.2 .none .none fun _ => .renamed .none)
  | .raise kind text, _, _ => fail (.refl π _)
  | .subscribe name, _, _ =>
    bind (subscribe hrun hscene hconstants name) fun _ _ _ => pure (.renamed .none)
  | .unsubscribe name, _, _ =>
    bind (unsubscribe hrun hscene hconstants (scene.handler name)) fun _ _ _ =>
      pure (.renamed .none)
  | .describe, _, h => bind (describe hrun hscene) fun _ _ htext => pure (.text h htext)
  | .newObject, _, _ => make (.renamed (.object .written))
termination_by structural e => e

/-- The values are alike, and so is the last one of them, at a level of its own. -/
theorem evalAll (hrun : Runner.Alike δ π run run') (hscene : scene.Discreet δ)
    (hconstants : δ.Suits scene constants) (args : List Value) :
    ∀ (es : List Expr) {shown last : Bool}, (last = true → shown = true) →
    Expr.AllDiscreet δ es shown last →
    Alike δ π (fun vs vs' => Value.AllAlike π shown vs vs' ∧ ∀ v v',
        (es = [] → Value.Alike π last v v') → Value.Alike π last (vs.getLastD v) (vs'.getLastD v'))
      (Expr.evalAll run scene args es)
      (Expr.evalAll run' { scene with constants } (Value.renamedItems π args) es)
  | [], _, _, _, _ => pure ⟨.nil, fun _ _ h => h rfl⟩
  | e :: es, shown, last, hle, h => by
    refine bind (eval hrun hscene hconstants args e h.1) ?_
    intro v v' hv
    refine bind (evalAll hrun hscene hconstants args es hle h.2) ?_
    rintro vs vs' ⟨hvs, hlast⟩
    refine pure ⟨.cons (hv.mono fun hshown => ?_) hvs, fun w w' _ => ?_⟩
    · split at hshown
      · exact hle hshown
      · exact hshown
    · -- the last value is this one, if there are no more
      rw [List.getLastD_cons, List.getLastD_cons]
      refine hlast v v' ?_
      rintro rfl
      exact hv
termination_by structural es => es

end

end Alike

end Exec

/-- **Discreet bodies run alike to any depth.** -/
theorem Scene.alike_run {scene : Scene} {constants : Table String Value}
    (hscene : scene.Discreet δ) (hconstants : δ.Suits scene constants) (depth : ℕ) :
    Runner.Alike δ π (scene.run depth) (Scene.run { scene with constants } depth) := by
  induction depth with
  | zero => exact fun _ _ _ _ _ _ hm => ⟨hm, .fails .exhausted⟩
  | succ depth ih =>
    exact fun _ body args hbody => Exec.Alike.eval ih hscene hconstants args body hbody

/-! ### Work -/

/-- Work with other class names: entities that it hands over are entities of the class with the
other name. -/
def EntityWork.renamed (π : Equiv.Perm String) : EntityWork → EntityWork
  | .set name v => .set name (v.renamed π)
  | .hasChanges keys => .hasChanges (Value.renamedItems π keys)
  | .tryGet key => .tryGet (key.renamed π)
  | .trySet key v => .trySet (key.renamed π) (v.renamed π)
  | w => w

/-- Whether a piece of work reads only what may be read. -/
def EntityWork.Discreet (δ : Discretion) : EntityWork → Prop
  | .get name => δ.reads name
  | _ => True

/-- Whether two answers to work on an entity are the same, names apart. -/
inductive Answer.Alike (π : Equiv.Perm String) : Answer → Answer → Prop
  | nothing : Alike π .nothing .nothing
  | value {v v' : Value} (h : Value.Alike π true v v') : Alike π (.value v) (.value v')
  | text {s s' : String} (h : Text.Alike π s s') : Alike π (.text s) (.text s')
  | truth (b : Bool) : Alike π (.truth b) (.truth b)
  | changes (changes : List (String × Value)) :
    Alike π (.changes changes) (.changes (Value.renamedNamed π changes))
  | names (names : List String) : Alike π (.names names) (.names names)
  | nature (tracks derives : Bool) (className : String) :
    Alike π (.nature tracks derives className) (.nature tracks derives (π className))

/-- **Work on an entity ends alike** under another class name, also where the class has another
documentation and another module. -/
theorem Exec.Alike.perform {run run' : Runner} {scene : Scene} {constants : Table String Value}
    (hrun : Runner.Alike δ π run run') (hscene : scene.Discreet δ)
    (hconstants : δ.Suits scene constants) {work : EntityWork} (h : work.Discreet δ) :
    Exec.Alike δ π (Answer.Alike π) (work.perform run scene)
      ((work.renamed π).perform run' { scene with constants }) := by
  cases work with
  | get name =>
    exact bind (getAttribute hrun hscene hconstants h) fun _ _ hv =>
      pure (.value (hv.mono fun _ => rfl))
  | set name v =>
    refine bind (make_renamed v) ?_
    rintro v _ rfl
    exact bind (setAttribute hrun hscene hconstants name v) fun _ _ _ => pure .nothing
  | delete name => exact bind (deleteAttribute hconstants name) fun _ _ _ => pure .nothing
  | hasChanges keys =>
    refine bind (makeAll keys) ?_
    rintro keys _ rfl
    refine bind (hasChanges hscene keys) ?_
    rintro b _ rfl
    exact pure (.truth b)
  | changes =>
    refine bind (changes hrun hscene) ?_
    rintro changes _ rfl
    exact pure (.changes changes)
  | tryGet key =>
    refine bind (make_renamed key) ?_
    rintro key _ rfl
    exact bind (tryGet hrun hscene key fun _ _ _ => rfl) fun _ _ hreport =>
      bind (make (.ofReport hreport)) fun _ _ hv => pure (.value hv)
  | trySet key v =>
    refine bind (make_renamed key) ?_
    rintro key _ rfl
    refine bind (make_renamed v) ?_
    rintro v _ rfl
    refine bind (trySet hrun hscene key v) ?_
    rintro b _ rfl
    exact pure (.truth b)
  | describe => exact bind (describe hrun hscene) fun _ _ h => pure (.text h)
  | subscribe handler =>
    exact bind (subscribe hrun hscene hconstants handler) fun _ _ _ => pure .nothing
  | unsubscribe handler =>
    exact bind (unsubscribe hrun hscene hconstants _) fun _ _ _ => pure .nothing
  | tell name => exact bind (tell hrun hscene hconstants name) fun _ _ _ => pure .nothing
  | handlers =>
    refine bind (subscribers hrun hscene hconstants) ?_
    rintro handlers _ rfl
    exact pure (.names _)
  | nature =>
    refine bind className ?_
    rintro name _ rfl
    exact pure (.nature true true name)

end TrackedEntity
