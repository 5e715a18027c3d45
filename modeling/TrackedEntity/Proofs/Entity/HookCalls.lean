import TrackedEntity.Proofs.Contract.Flattening
import TrackedEntity.Proofs.Entity.Invariant
import TrackedEntity.Proofs.Exec.Calls

/-!
# Hooks are called as they can be

What analysis finds out about a hook once is what all calls to it need later.  The hooks of a
property of an analyzed contract come from a directory that resolved them, so they take as many
arguments as the accessors of the compiled type give them (`CompiledType.fits_of_compile`), and no
operation on an entity fails for want of arguments or for having too many of them.
-/

namespace TrackedEntity

/-- Whether the hooks of all directories have lists of parameters that can be written. -/
def HookCatalog.Valid (hooks : HookCatalog) : Prop := ∀ name, (hooks.find name).Valid

/-- The hooks of a property come from a directory that resolved them. -/
theorem Property.Takes.exists_resolve {hooks : HookCatalog} {p : Property}
    {e : Owner × Declaration} (h : p.Takes hooks e) {x : Extension} (hx : p.extension = some x) :
    ∃ directory, (hooks.find directory).resolve p.name p.mutable = .ok x := by
  have hextension := h.extension
  cases hmarker : e.2.marker with
  | none =>
    rw [hmarker, hx] at hextension
    cases hextension
  | some directory =>
    rw [hmarker, Option.mapM_some] at hextension
    obtain ⟨x', hresolve, hsome⟩ := Outcome.bind_eq_ok.1 hextension
    rw [hx] at hsome
    obtain rfl := Option.some.inj (Except.ok.inj hsome)
    exact ⟨directory, by rw [h.name, h.mutable, hresolve]⟩

/-- The token of a property whose hooks were resolved calls them with arguments that they take. -/
theorem Property.fits_compiledToken {p : Property} {notifies : Bool}
    (h : ∀ x, p.extension = some x → ∃ d : HookDirectory, d.Valid ∧
      d.resolve p.name p.mutable = .ok x) :
    (p.compiledToken notifies).Fits := by
  cases hx : p.extension with
  | none =>
    constructor
    · show p.getter.Fits
      rw [getter, hx]
      dsimp only
      split
      · exact trivial
      · exact trivial
    · intro s hook hs hhook
      simp only [compiledToken] at hs
      split at hs
      · obtain rfl := Option.some.inj hs
        simp [compiledSetter, hx] at hhook
      · cases hs
  | some x =>
    obtain ⟨d, hvalid, hresolve⟩ := h x hx
    obtain ⟨-, -, htakes, hpasses, -, hsetter⟩ :=
      (HookDirectory.resolve_eq_ok_iff hvalid).1 hresolve
    constructor
    · show p.getter.Fits
      rw [getter, hx]
      dsimp only
      cases hcurrent : x.passesCurrent with
      | false =>
        -- a getter that does not get the current value cannot take it
        refine htakes.resolve_right fun htwo => ?_
        rw [hpasses.2 htwo] at hcurrent
        cases hcurrent
      | true =>
        have htwo := hpasses.1 hcurrent
        cases p.mutable with
        | true => exact htwo
        | false => exact htwo
    · intro s hook hs hhook
      simp only [compiledToken] at hs
      split at hs
      · obtain rfl := Option.some.inj hs
        simp only [compiledSetter, hx, Option.bind_some] at hhook
        exact (hsetter hook hhook).1
      · cases hs

namespace CompiledType

variable {catalog : Catalog} {settings : Settings} {contract : Contract} {t : CompiledType}

/-- **The hooks of a compiled type take what its accessors give them.** -/
theorem fits_of_compile (hhooks : catalog.hooks.Valid)
    (h : catalog.compile settings contract = .ok t) (handlers : Table String HandlerSpec) :
    (t.scene handlers).Fits := by
  intro name token htoken
  obtain ⟨p, hp, -, rfl⟩ := (aligned_of_compile h).token_iff.1 htoken
  refine Property.fits_compiledToken fun x hx => ?_
  -- the property is one of the schema, and analysis has resolved its hooks
  cases contract with
  | ofValue v => cases h
  | ofClass ref =>
    obtain ⟨schema, hschema, h⟩ := Outcome.bind_eq_ok.1 h
    obtain ⟨layout, -, h⟩ := Outcome.bind_eq_ok.1 h
    obtain ⟨tokens, -, h⟩ := Outcome.bind_eq_ok.1 h
    obtain rfl := Except.ok.inj h
    obtain ⟨c, -, d, -, htakes⟩ := Catalog.exists_declared_of_mem hschema hp
    obtain ⟨directory, hresolve⟩ := htakes.exists_resolve hx
    exact ⟨_, hhooks directory, hresolve⟩

end CompiledType

/-- **Hooks are resolved exactly if they can be called, and are called only as they can be.**

A getter is found if it takes one argument or two, and it is given the current value if it takes
two.  A setter is looked at only where the property can be set; if there is one, it takes two
arguments and its declared result is a truth value.  So the hooks of a compiled type take what its
accessors give them, and no work on an entity ends with a hook that was called otherwise, whatever
the hooks and handlers do. -/
theorem HookDirectory.hooks_bind :
    (∀ (d : HookDirectory) (property : String) (settable : Bool), d.Valid →
      ((∃ x, d.resolve property settable = .ok x) ↔
        (∃ getter, d.member? ("get_" ++ property) = some (.callable getter) ∧
          (getter.Takes 1 ∨ getter.Takes 2)) ∧
        (settable = true → ∀ m, d.member? ("set_" ++ property) = some m →
          ∃ setter, m = .callable setter ∧ setter.Takes 2 ∧ setter.DeclaresTruth)) ∧
      ∀ x, d.resolve property settable = .ok x →
        d.member? ("get_" ++ property) = some (.callable x.getter) ∧
        (x.passesCurrent = true ↔ x.getter.Takes 2) ∧
        (if settable then d.member? ("set_" ++ property) else none) =
          x.setter.map HookMember.callable) ∧
    (∀ (d d' : HookDirectory) (property : String), d'.source = d.source →
      d'.member? ("get_" ++ property) = d.member? ("get_" ++ property) →
      d'.resolve property false = d.resolve property false) ∧
    ∀ (catalog : Catalog) (settings : Settings) (contract : Contract) (t : CompiledType),
      catalog.hooks.Valid → catalog.compile settings contract = .ok t →
      ∀ handlers, (t.scene handlers).Fits ∧
        (∀ depth, ((t.scene handlers).run depth).Binds) ∧
        ∀ run : Runner, run.Binds → ∀ (work : EntityWork) (e : EntityState) (traces : Traces) (f),
          (((work.perform run (t.scene handlers)).runOn e).run traces).1.1 = .error (.fault f) →
            f.isMiscall = false := by
  refine ⟨fun d property settable hd => ⟨exists_resolve_iff_takes hd, fun x hx => ?_⟩,
    fun d d' property hsource hgetter => resolve_false_congr hsource hgetter,
    fun catalog settings contract t hhooks ht handlers => ?_⟩
  · obtain ⟨-, hgetter, -, hpasses, hsetter, -⟩ := (resolve_eq_ok_iff hd).1 hx
    exact ⟨hgetter, hpasses, hsetter⟩
  · have hfits := CompiledType.fits_of_compile hhooks ht handlers
    refine ⟨hfits, Scene.binds_run hfits, fun run hrun work e traces f hf => ?_⟩
    exact Exec.Binds.perform hrun hfits work ⟨e, traces.history, traces.nextSerial⟩ f hf

namespace Sample

theorem valid_heightHooks : heightHooks.Valid := by
  refine HookDirectory.valid_of_members ?_
  simp only [heightHooks, List.mem_cons, List.not_mem_nil, or_false, forall_eq_or_imp, forall_eq,
    HookMember.callable.injEq, forall_eq']
  exact ⟨⟨by decide, by decide⟩, by decide, by decide⟩

theorem valid_hooks_shapes : shapes.hooks.Valid := by
  intro name
  rw [HookCatalog.find, shapes, Table.get?_cons]
  split
  · exact valid_heightHooks
  · exact HookDirectory.valid_of_members fun e he => nomatch he

end Sample

open Sample in
/-- The hooks of a height are resolved, and assigning it calls them as they can be called. -/
theorem HookDirectory.hooks_bind_shape :
    (∃ x, heightHooks.resolve "height" true = .ok x ∧ (x.passesCurrent = true ↔ x.getter.Takes 2)) ∧
    (shapeType.scene []).Fits ∧
    ∀ f, ((((EntityWork.set "height" (.int 5)).perform ((shapeType.scene []).run 3)
      (shapeType.scene [])).runOn newShape).run ⟨[], 0⟩).1.1 = .error (.fault f) →
        f.isMiscall = false := by
  obtain ⟨hresolve, -, hcalls⟩ := hooks_bind
  obtain ⟨x, hx⟩ : ∃ x, heightHooks.resolve "height" true = .ok x := ⟨_, rfl⟩
  obtain ⟨hfits, hruns, hwork⟩ := hcalls shapes _ _ _ valid_hooks_shapes compile_shape []
  exact ⟨⟨x, hx, ((hresolve _ _ _ valid_heightHooks).2 x hx).2.1⟩, hfits, hwork _ (hruns 3) _ _ _⟩

end TrackedEntity
