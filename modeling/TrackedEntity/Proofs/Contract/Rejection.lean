import TrackedEntity.Proofs.Compiled.Tables
import TrackedEntity.Proofs.Contract.Flattening
import TrackedEntity.Proofs.Hook.Resolution

/-!
# What contracts are rejected with

Analysis is documented to reject contracts with faults of two families, those of schemas and those
of configuration (`Fault.IsRejection`).  Hooks that cannot be resolved are of the second one
(`HookDirectory.rejects_resolve`), and nearly all that is wrong about a class is of the first one.

Two things are not: the type of a property may be no key, so that its zero value cannot be looked up
(`Catalog.rejects_zeroValue`), and what a class gives for the annotations of its entity type may be
no mapping (`ClassDef.rejects_entityAnnotations`).  A class without them is `Catalog.Foreseen`.

Compiling adds no fault to those of analysis (`Catalog.compileClass_eq_error_iff`), as the tokens
are synthesized for types that were looked up before.  `Catalog.analyze_rejects` puts this together.
-/

namespace TrackedEntity

open Outcome

/-- Whether a fault is of the families that are documented for contracts. -/
def Fault.IsRejection (f : Fault) : Prop := f.kind = .schema ∨ f.kind = .configuration

/-- Whether a fault is one of a single property: its name is reserved, or its hooks cannot be
resolved. -/
def Fault.OfProperty (f : Fault) : Prop :=
  (∃ name owner, f = .reservedName name owner) ∨ f.kind = .configuration

theorem Fault.OfProperty.isRejection {f : Fault} (h : f.OfProperty) : f.IsRejection := by
  rcases h with ⟨name, owner, rfl⟩ | hkind
  · exact .inl rfl
  · exact .inr hkind

/-! ### Hooks -/

/-- Hooks that cannot be resolved are faults of configuration. -/
theorem HookMember.rejects_inspect (m : HookMember) (label : String) :
    FailsWith (·.kind = .configuration) (m.inspect label) := by
  cases m with
  | value v => exact .error rfl
  | uninspectable reason => exact .error rfl
  | callable hook =>
    rw [inspect]
    split
    · exact .error rfl
    · exact .ok _ hook

namespace HookDirectory

theorem rejects_checkGetter (label : String) (m : HookMember) :
    FailsWith (·.kind = .configuration) (checkGetter label m) := by
  refine (m.rejects_inspect label).bind fun hook => ?_
  split
  · exact .ok _ _
  · split
    · exact .ok _ _
    · exact .error rfl

theorem rejects_checkSetter (label : String) (m : HookMember) :
    FailsWith (·.kind = .configuration) (checkSetter label m) := by
  refine (m.rejects_inspect label).bind fun hook => ?_
  cases hook.signature.admits 2 with
  | false => exact .error rfl
  | true =>
    cases hook.returnsTruth with
    | false => exact .error rfl
    | true => exact .ok _ hook

theorem rejects_resolve (d : HookDirectory) (property : String) (settable : Bool) :
    FailsWith (·.kind = .configuration) (d.resolve property settable) := by
  rw [resolve]
  cases d.member? ("get_" ++ property) with
  | none => exact .error rfl
  | some getter =>
    refine (rejects_checkGetter _ getter).bind fun found => ?_
    refine FailsWith.bind ?_ fun setter => .ok _ _
    cases (if settable then d.member? ("set_" ++ property) else none) with
    | none => exact .ok _ _
    | some setter => exact (rejects_checkSetter _ setter).map

end HookDirectory

/-! ### Declarations -/

namespace Catalog

/-- Whether a fault tells that the type of a declaration cannot be a key. -/
def Unkeyed (catalog : Catalog) (d : Declaration) (f : Fault) : Prop :=
  ∃ typeName, d.type.unhashablePart? catalog.hooks.unhashable? = some typeName ∧
    f = .unhashable typeName

variable {catalog : Catalog} {c : ClassDef}

theorem rejects_resolveType (names : Table String Member) (t : DeclaredType) :
    FailsWith Fault.IsRejection (catalog.resolveType c names t) := by
  cases t with
  | forward name =>
    rw [resolveType, typeOfName]
    split
    · exact .ok _ _
    · dsimp only
      split
      · exact .ok _ _
      · split
        · exact .ok _ _
        · split
          · exact .ok _ _
          · exact .error (.inl rfl)
  | _ => exact .ok _ _

/-- The zero value of the type of a declaration fails to be found where the type is no key. -/
theorem rejects_zeroValue {d : Declaration} {t : DeclaredType} (h : d.type = t) :
    FailsWith (catalog.Unkeyed d) (t.zeroValue catalog.hooks.unhashable?) := by
  rw [DeclaredType.zeroValue, DeclaredType.requireHashable]
  cases hkey : t.unhashablePart? catalog.hooks.unhashable? with
  | some typeName => exact .error ⟨typeName, h ▸ hkey, rfl⟩
  | none => exact .ok _ _

theorem rejects_declareAttribute (name : String) (type : DeclaredType) :
    FailsWith (fun f => f.IsRejection ∨ ∃ d, attribute? c name type = some d ∧
      catalog.Unkeyed d f) (catalog.declareAttribute c name type) := by
  rw [declareAttribute, attribute?]
  cases type.isClassVar with
  | true => exact .ok _ _
  | false =>
    cases type.isEvent with
    | true => exact .error (.inl (.inl rfl))
    | false =>
      simp only [Bool.false_eq_true, ↓reduceIte, Bool.false_or]
      cases (c.members.get? name).any Member.isProperty with
      | true => exact .ok _ _
      | false =>
        simp only [Bool.false_eq_true, ↓reduceIte]
        refine FailsWith.bind (FailsWith.mono (rejects_zeroValue rfl)
          fun f hf => Or.inr ⟨_, rfl, hf⟩) fun zero => ?_
        split
        · exact .error (.inl (.inl rfl))
        · exact .ok _ _

theorem rejects_declareProperty (name : String) (p : PropertyMember) :
    FailsWith (fun f => f.IsRejection ∨ ∃ d, catalog.property? name (.property p) = some d ∧
      catalog.Unkeyed d f) (catalog.declareProperty c name p) := by
  -- what is done once the type of the result is known
  have hrest : ∀ returns, returns = catalog.returnType p →
      FailsWith (fun f => f.IsRejection ∨ ∃ d, catalog.property? name (.property p) = some d ∧
        catalog.Unkeyed d f) (do
        if returns.isEvent then throw (.eventMember c.qualname name)
        let default ← returns.split.1.zeroValue catalog.hooks.unhashable?
        let marker := (p.getter.bind PropertyGetter.marker).or returns.split.2.1
        return {
          name, type := returns.split.1, mutable := p.settable, default, marker
          metadata := returns.split.2.2 } : Except Fault Declaration) := by
    rintro _ rfl
    cases (catalog.returnType p).isEvent with
    | true => exact .error (.inl (.inl rfl))
    | false =>
      exact FailsWith.bind (FailsWith.mono (rejects_zeroValue rfl)
        fun f hf => Or.inr ⟨_, rfl, hf⟩) fun default => .ok _ _
  rw [declareProperty]
  cases hreturns : p.getter.bind PropertyGetter.returns with
  | none => exact hrest (.plain .anything) (by rw [returnType, hreturns])
  | some t =>
    refine FailsWith.bind_of_ok ((rejects_resolveType [] t).mono fun f hf => .inl hf)
      fun returns hresolve => ?_
    obtain ⟨-, rfl⟩ := resolveType_eq_ok_iff.1 hresolve
    exact hrest (catalog.typeOf [] t) (by rw [returnType, hreturns])

theorem rejects_declareMember (name : String) (m : Member) :
    FailsWith (fun f => f.IsRejection ∨ ∃ d, catalog.property? name m = some d ∧
      catalog.Unkeyed d f) (catalog.declareMember c name m) := by
  cases m with
  | property p => exact (rejects_declareProperty name p).map
  | value | event | method | callable => exact .ok _ _

/-- **What the declarations of a class are rejected with.** -/
theorem rejects_declarations (c : ClassDef) :
    FailsWith (fun f => f.IsRejection ∨ ∃ d ∈ catalog.declared c, catalog.Unkeyed d f)
      (catalog.declarations c) := by
  rw [declarations]
  cases c.members.find? (·.2.isEvent) with
  | some m => exact .error (.inl (.inl rfl))
  | none =>
    refine FailsWith.bind_of_ok (FailsWith.mapM fun a _ => ?_) fun attributes hattributes => ?_
    · refine FailsWith.bind ((rejects_resolveType c.names a.2).mono fun f hf => .inl hf) fun t => ?_
      exact .ok _ _
    · obtain ⟨-, rfl⟩ := resolveAttributes_eq_ok_iff.1 hattributes
      refine FailsWith.bind (FailsWith.mapM fun a ha => ?_) fun plain => ?_
      · obtain ⟨a, hmem, rfl⟩ := List.mem_map.1 ha
        refine (rejects_declareAttribute _ _).mono fun f hf => hf.imp id ?_
        rintro ⟨d, hd, hkey⟩
        exact ⟨d, List.mem_append_left _ (List.mem_filterMap.2 ⟨a, hmem, hd⟩), hkey⟩
      · refine FailsWith.bind (FailsWith.mapM fun m hm => ?_) fun computed => .ok _ _
        refine (rejects_declareMember _ _).mono fun f hf => hf.imp id ?_
        rintro ⟨d, hd, hkey⟩
        exact ⟨d, List.mem_append_right _ (List.mem_filterMap.2 ⟨m, hm, hd⟩), hkey⟩

end Catalog

/-! ### Walks -/

/-- Whether a fault tells that the annotations of the entity type that a class gives are no
mapping. -/
def ClassDef.Unmapped (c : ClassDef) (f : Fault) : Prop :=
  ¬ c.AnnotationsMap ∧ ∃ m, c.members.get? annotationsMember = some m ∧
    f = .noAttribute m.storedTypeName "items"

theorem ClassDef.rejects_entityAnnotations (c : ClassDef) :
    FailsWith c.Unmapped c.entityAnnotations := by
  intro f hf
  refine ⟨fun hmap => ?_, ?_⟩
  · obtain ⟨annotations, hok⟩ := exists_entityAnnotations_iff.2 hmap
    rw [hf] at hok
    cases hok
  · rw [entityAnnotations] at hf
    split at hf
    · cases hf
    · cases hf
    · rename_i m _ hm
      exact ⟨m, hm, (Except.error.inj hf).symm⟩

namespace Catalog

variable {catalog : Catalog}

/-- Whether a fault is one for which a class is rejected without a word in the documentation: the
type of a property that it declares is no key, or its entity annotations are no mapping. -/
def Undocumented (catalog : Catalog) (c : ClassDef) (f : Fault) : Prop :=
  (∃ d ∈ catalog.declared c, catalog.Unkeyed d f) ∨ c.Unmapped f

/-- Whether a class is nothing to be rejected for without a word in the documentation. -/
def Foreseen (catalog : Catalog) (c : ClassDef) : Prop :=
  (∀ d ∈ catalog.declared c, catalog.KeyTyped d) ∧ c.AnnotationsMap

theorem Foreseen.not_undocumented {c : ClassDef} (h : catalog.Foreseen c) (f : Fault) :
    ¬ catalog.Undocumented c f := by
  rintro (⟨d, hd, typeName, hkey, -⟩ | ⟨hmap, -⟩)
  · rw [h.1 d hd] at hkey
    cases hkey
  · exact hmap h.2

theorem rejects_collectFrom (collected : Collected) (refs : List ClassRef) :
    FailsWith (fun f => f.IsRejection ∨ ∃ ref ∈ refs,
      catalog.Undocumented (catalog.classes.definition ref) f)
      (catalog.collectFrom collected refs) := by
  induction refs generalizing collected with
  | nil => exact .ok _ _
  | cons ref refs ih =>
    refine FailsWith.bind ((rejects_declarations _).mono fun f hf => hf.imp id fun hkey =>
      ⟨ref, List.mem_cons_self, .inl hkey⟩) fun own => ?_
    refine FailsWith.bind ((ClassDef.rejects_entityAnnotations _).mono fun f hf =>
      .inr ⟨ref, List.mem_cons_self, .inr hf⟩) fun annotations => ?_
    refine (ih _).mono fun f hf => hf.imp id ?_
    rintro ⟨other, hother, hf⟩
    exact ⟨other, List.mem_cons_of_mem ref hother, hf⟩

/-- Of the classes of a walk that was collected, none was to be rejected. -/
theorem foreseen_of_collectFrom {refs : List ClassRef} {collected collected' : Collected}
    (h : catalog.collectFrom collected refs = .ok collected') :
    ∀ ref ∈ refs, catalog.Foreseen (catalog.classes.definition ref) := by
  intro ref href
  obtain ⟨⟨own, hown⟩, hannotations⟩ := exists_of_collectFrom h ref href
  exact ⟨(declarations_eq_ok_iff.1 hown).1.2,
    ClassDef.exists_entityAnnotations_iff.1 hannotations⟩

theorem rejects_property (ordinal : ℕ) (owner : Owner) (d : Declaration) :
    FailsWith Fault.OfProperty (catalog.property ordinal owner d) := by
  rw [property]
  cases isReserved d.name with
  | true => exact .error (.inl ⟨_, _, rfl⟩)
  | false =>
    refine FailsWith.bind ?_ fun extension => .ok _ _
    cases d.marker with
    | none => exact .ok _ _
    | some directory =>
      exact (((catalog.hooks.find directory).rejects_resolve _ _).mono fun f hf => .inr hf).map

theorem rejects_propertiesFrom (ordinal : ℕ) (es : List (Owner × Declaration)) :
    FailsWith Fault.OfProperty (catalog.propertiesFrom ordinal es) := by
  induction es generalizing ordinal with
  | nil => exact .ok _ _
  | cons e es ih =>
    exact (rejects_property ordinal e.1 e.2).bind fun p => (ih _).bind fun ps => .ok _ _

/-! ### Contracts -/

variable (catalog) (settings : Settings) (contract : ClassRef)

theorem rejects_analyze :
    FailsWith (fun f => f.IsRejection ∨ ∃ c ∈ catalog.inspected contract,
      catalog.Undocumented (catalog.classes.definition c) f)
      (catalog.analyze settings contract) := by
  rw [analyze]
  cases catalog.classes.derivesFromCompiled contract with
  | true => exact .error (.inl (.inl rfl))
  | false =>
    refine FailsWith.bind (rejects_collectFrom .empty _) fun collected => ?_
    cases settings.guardRejects collected.methodCount collected.declared.length with
    | true => exact .error (.inl (.inl rfl))
    | false =>
      exact ((rejects_propertiesFrom 0 _).mono fun f hf => Or.inl hf.isRejection).bind
        fun ps => .ok _ _

variable {catalog settings contract}

/-- The types of the properties of an analyzed contract can be keys. -/
theorem unhashablePart?_of_analyze {s : Schema} (h : catalog.analyze settings contract = .ok s)
    {p : Property} (hp : p ∈ s.properties) :
    p.type.unhashablePart? catalog.hooks.unhashable? = none := by
  obtain ⟨ref, href, d, hd, htakes⟩ := exists_declared_of_mem h hp
  obtain ⟨-, collected, -, hcollected, -⟩ := analyze_eq_ok_iff.1 h
  rw [htakes.type]
  exact (foreseen_of_collectFrom hcollected ref href).1 d hd

end Catalog

/-- The token of a property whose type can be a key. -/
theorem Property.token_of_hashable {hooks : HookCatalog} {notifies : Bool} {p : Property}
    (h : p.type.unhashablePart? hooks.unhashable? = none) :
    p.token hooks notifies = .ok (p.compiledToken notifies) := by
  have hkey : p.type.requireHashable hooks.unhashable? = .ok () := by
    rw [DeclaredType.requireHashable, h]
  cases htoken : p.token hooks notifies with
  | ok token => rw [token_eq htoken]
  | error f =>
    rw [token, setter, hkey] at htoken
    cases hmutable : p.mutable with
    | true =>
      rw [hmutable] at htoken
      cases htoken
    | false =>
      rw [hmutable] at htoken
      cases htoken

namespace Catalog

variable {catalog : Catalog} {settings : Settings} {contract : ClassRef}

/-- **What can be analyzed can be compiled.** -/
theorem exists_compileClass_of_analyze {s : Schema}
    (h : catalog.analyze settings contract = .ok s) :
    ∃ t, catalog.compileClass settings contract = .ok t := by
  have hlayout : ∃ layout, Layout.allocate s.mutableCount = .ok layout :=
    ⟨_, by rw [Layout.allocate, if_neg (by omega)]⟩
  obtain ⟨layout, hlayout⟩ := hlayout
  have htokens : ∃ tokens, synthesize catalog.hooks s.needsNotification s.properties =
      .ok tokens := by
    have hmap : s.properties.mapM (Property.token catalog.hooks s.needsNotification) =
        .ok (s.properties.map (Property.compiledToken s.needsNotification)) := by
      refine (mapM_eq_ok_iff (P := fun _ => True) fun p hp token => ?_).2 ⟨fun _ _ => trivial, rfl⟩
      rw [Property.token_of_hashable (unhashablePart?_of_analyze h hp), true_and, Except.ok.injEq,
        eq_comm]
    exact ⟨_, bind_eq_ok.2 ⟨_, hmap, rfl⟩⟩
  obtain ⟨tokens, htokens⟩ := htokens
  exact ⟨_, bind_eq_ok.2 ⟨s, h, bind_eq_ok.2 ⟨layout, hlayout,
    bind_eq_ok.2 ⟨tokens, htokens, rfl⟩⟩⟩⟩

/-- Compiling a class fails exactly with what analyzing it fails with. -/
theorem compileClass_eq_error_iff {f : Fault} :
    catalog.compileClass settings contract = .error f ↔
      catalog.analyze settings contract = .error f := by
  cases hs : catalog.analyze settings contract with
  | ok s =>
    obtain ⟨t, ht⟩ := exists_compileClass_of_analyze hs
    rw [ht]
    exact ⟨fun h => (by cases h), fun h => by cases h⟩
  | error f' =>
    have herror : catalog.compileClass settings contract = .error f' := by
      rw [compileClass, hs]
      rfl
    rw [herror, Except.error.injEq, Except.error.injEq]

end Catalog

namespace Sample

/-- A contract of one property of a type. -/
def typed (t : DeclaredType) : Catalog where
  classes := ⟨[{ ClassDef.empty "IPoint" "points" [.protocol] with attributes := [("x", t)] }]⟩
  hooks := []

end Sample

end TrackedEntity
