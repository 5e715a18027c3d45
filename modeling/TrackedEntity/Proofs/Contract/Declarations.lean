import TrackedEntity.Contract.Declaration
import TrackedEntity.Proofs.Outcome
import TrackedEntity.Proofs.Table

/-!
# What a class may declare

`Catalog.declarations` succeeds for the classes that are `Catalog.Declarable`, and what it gives
then is `Catalog.declared` (`Catalog.declarations_eq_ok_iff`).  Neither mentions faults, and so
neither depends on the order in which they are looked for.

As the zero value of a type is looked up by the type, the types of the declarations must be keys
besides (`Catalog.KeyTyped`).  They are where all types that a class writes can be keys
(`Catalog.HashableTypes.keyTyped`).
-/

namespace TrackedEntity

open Outcome

namespace Catalog

variable (catalog : Catalog)

/-! ### Types written as text -/

/-- The type that a name stands for, if it stands for one: among the given names, among the classes,
or among the types known from the start. -/
def named? (names : Table String Member) (name : String) : Option DeclaredType :=
  if name = "None" then some (.plain .absent)
  else
    let name := Text.compatibilityForm name
    ((names.get? name).map Member.asType).or
      ((if catalog.classes.names name then some (.contract name) else none).or
        (knownTypes.get? name))

/-- The type behind one written as text, if it names one; other types stand for themselves. -/
def resolved? (names : Table String Member) : DeclaredType → Option DeclaredType
  | .forward name => catalog.named? names name
  | t => some t

/-- The type behind one that names something. -/
def typeOf (names : Table String Member) (t : DeclaredType) : DeclaredType :=
  (catalog.resolved? names t).getD t

variable {catalog} {c : ClassDef} {names : Table String Member} {t t' : DeclaredType}

theorem typeOfName_eq_ok_iff {name : String} :
    catalog.typeOfName c names name = .ok t ↔ catalog.named? names name = some t := by
  rw [typeOfName, named?]
  by_cases hnone : name = "None"
  · simp [hnone]
  · simp only [beq_iff_eq, hnone, if_false]
    cases names.get? (Text.compatibilityForm name) with
    | some m => simp
    | none =>
      cases catalog.classes.names (Text.compatibilityForm name) with
      | true => simp
      | false =>
        cases Table.get? knownTypes (Text.compatibilityForm name) with
        | some known => simp
        | none => simp

theorem resolveType_eq_ok_iff :
    catalog.resolveType c names t = .ok t' ↔
      (catalog.resolved? names t).isSome = true ∧ t' = catalog.typeOf names t := by
  have hresolved :
      catalog.resolveType c names t = .ok t' ↔ catalog.resolved? names t = some t' := by
    cases t with
    | forward name => exact typeOfName_eq_ok_iff
    | plain | event | classVar | applied | annotated | literal | contract | value =>
      simp [resolveType, resolved?]
  rw [hresolved, typeOf]
  cases catalog.resolved? names t with
  | none => simp
  | some u =>
    rw [Option.some.injEq, Option.getD_some]
    exact ⟨fun h => ⟨rfl, h.symm⟩, fun h => h.2.symm⟩

end Catalog

/-- A type has a zero value if it can be a key. -/
theorem DeclaredType.zeroValue_eq_ok_iff {directory : String → Option String} {t : DeclaredType}
    {v : Value} :
    t.zeroValue directory = .ok v ↔ t.unhashablePart? directory = none ∧ v = t.zero := by
  rw [zeroValue, requireHashable]
  cases t.unhashablePart? directory with
  | some part => exact ⟨fun h => (by cases h), fun h => by cases h.1⟩
  | none => exact ⟨fun h => ⟨rfl, (Except.ok.inj h).symm⟩, fun h => congrArg Except.ok h.2.symm⟩

theorem DeclaredType.hasUnhashableType_zero (t : DeclaredType) :
    t.zero.hasUnhashableType = false := by
  cases t with
  | plain p => cases p <;> rfl
  | event | classVar | applied | annotated | literal | contract | forward | value => rfl

/-- A default is the value of a member, or a zero value. -/
theorem DeclaredType.hasUnhashableType_default_iff {v? : Option Value} {t : DeclaredType} :
    (v?.getD t.zero).hasUnhashableType = false ↔
      ∀ v, v? = some v → v.hasUnhashableType = false := by
  cases v? with
  | none => simp [hasUnhashableType_zero]
  | some v => simp

/-- A property is no default. -/
theorem Member.asDefault?_eq_none {m? : Option Member} (h : m?.any isProperty = true) :
    m?.bind asDefault? = none := by
  cases m? with
  | none => rfl
  | some m =>
    cases m with
    | property p => rfl
    | value | event | method | callable => cases h

namespace Catalog

/-- Whether the type of a declaration can be a key. -/
def KeyTyped (catalog : Catalog) (d : Declaration) : Prop :=
  d.type.unhashablePart? catalog.hooks.unhashable? = none

/-! ### Attributes -/

/-- The property that an attribute of a type declares, if it declares one. -/
def attribute? (c : ClassDef) (name : String) (type : DeclaredType) : Option Declaration :=
  if type.isClassVar || (c.members.get? name).any Member.isProperty then none
  else some {
    name, type := type.split.1, mutable := true
    default := ((c.members.get? name).bind Member.asDefault?).getD type.split.1.zero
    marker := type.split.2.1, metadata := type.split.2.2 }

/-- Whether an attribute of a type declares nothing that no contract may declare. -/
def AllowsAttribute (c : ClassDef) (name : String) (type : DeclaredType) : Prop :=
  type.isClassVar = false → type.isEvent = false ∧
    ∀ v, (c.members.get? name).bind Member.asDefault? = some v → v.hasUnhashableType = false

theorem declareAttribute_eq_ok_iff {catalog : Catalog} {c : ClassDef} {name : String}
    {type : DeclaredType} {d? : Option Declaration} :
    catalog.declareAttribute c name type = .ok d? ↔
      (AllowsAttribute c name type ∧ ∀ d, attribute? c name type = some d → catalog.KeyTyped d) ∧
        d? = attribute? c name type := by
  rw [declareAttribute, AllowsAttribute, attribute?]
  by_cases hvar : type.isClassVar = true
  · rw [if_pos hvar, if_pos (by simp [hvar]), Except.ok.injEq]
    exact ⟨fun h => ⟨⟨fun hnot => by simp [hvar] at hnot, fun d hd => by cases hd⟩, h.symm⟩,
      fun h => h.2.symm⟩
  rw [Bool.not_eq_true] at hvar
  rw [hvar, if_neg Bool.false_ne_true, Bool.false_or]
  by_cases hevent : type.isEvent = true
  · rw [if_pos hevent]
    constructor
    · intro h
      cases h
    · intro h
      cases hevent.symm.trans (h.1.1 rfl).1
  rw [Bool.not_eq_true] at hevent
  rw [hevent, if_neg Bool.false_ne_true]
  by_cases hproperty : (c.members.get? name).any Member.isProperty = true
  · -- the name is declared again as a property
    rw [Member.asDefault?_eq_none hproperty]
    simp only [hproperty, if_true, Except.ok.injEq]
    exact ⟨fun h => ⟨⟨fun _ => ⟨trivial, fun v hv => by cases hv⟩, fun d hd => by cases hd⟩, h.symm⟩,
      fun h => h.2.symm⟩
  · rw [Bool.not_eq_true] at hproperty
    simp only [hproperty, Bool.false_eq_true, if_false, true_and, true_implies, bind_eq_ok,
      DeclaredType.zeroValue_eq_ok_iff, and_assoc, exists_and_left, exists_eq_left,
      Option.some.injEq, forall_eq', KeyTyped,
      ← DeclaredType.hasUnhashableType_default_iff (t := type.split.1)]
    generalize ((c.members.get? name).bind Member.asDefault?).getD type.split.1.zero = default
    cases hdefault : default.hasUnhashableType with
    | true => exact ⟨fun h => (by cases h.2), fun h => by cases h.1⟩
    | false =>
      exact ⟨fun h => ⟨rfl, h.1, (Except.ok.inj h.2).symm⟩,
        fun h => ⟨h.2.1, congrArg Except.ok h.2.2.symm⟩⟩

/-! ### Property members -/

variable (catalog : Catalog)

/-- The declared type of the result of a property member, where text is resolved. -/
def returnType (p : PropertyMember) : DeclaredType :=
  match p.getter.bind PropertyGetter.returns with
  | none => .plain .anything
  | some t => catalog.typeOf [] t

/-- The property that a member declares, if it declares one. -/
def property? (name : String) : Member → Option Declaration
  | .property p => some {
      name, type := (catalog.returnType p).split.1, mutable := p.settable
      default := (catalog.returnType p).split.1.zero
      marker := (p.getter.bind PropertyGetter.marker).or (catalog.returnType p).split.2.1
      metadata := (catalog.returnType p).split.2.2 }
  | _ => none

/-- Whether a property member declares nothing that no contract may declare. -/
def AllowsProperty (p : PropertyMember) : Prop :=
  (∀ t, p.getter.bind PropertyGetter.returns = some t → (catalog.resolved? [] t).isSome = true) ∧
    (catalog.returnType p).isEvent = false

variable {catalog}

theorem declareProperty_eq_ok_iff {c : ClassDef} {name : String} {p : PropertyMember}
    {d : Declaration} :
    catalog.declareProperty c name p = .ok d ↔
      (catalog.AllowsProperty p ∧ catalog.KeyTyped d) ∧
        some d = catalog.property? name (.property p) := by
  -- what is done once the type of the result is known
  have hrest : ∀ returns, returns = catalog.returnType p →
      ((do
        if returns.isEvent then throw (.eventMember c.qualname name)
        let default ← returns.split.1.zeroValue catalog.hooks.unhashable?
        let marker := (p.getter.bind PropertyGetter.marker).or returns.split.2.1
        return {
          name, type := returns.split.1, mutable := p.settable, default, marker
          metadata := returns.split.2.2 } : Except Fault Declaration) = .ok d ↔
        (catalog.returnType p).isEvent = false ∧ catalog.KeyTyped d ∧
          some d = catalog.property? name (.property p)) := by
    rintro _ rfl
    rw [property?, Option.some.injEq]
    cases hevent : (catalog.returnType p).isEvent with
    | true => exact ⟨fun h => (by cases h), fun h => by cases h.1⟩
    | false =>
      simp only [Bool.false_eq_true, if_false, bind_eq_ok, DeclaredType.zeroValue_eq_ok_iff,
        and_assoc, exists_and_left, exists_eq_left, true_and]
      constructor
      · rintro ⟨hkey, hd⟩
        obtain rfl := Except.ok.inj hd
        exact ⟨hkey, rfl⟩
      · rintro ⟨hkey, rfl⟩
        exact ⟨hkey, rfl⟩
  rw [declareProperty, AllowsProperty, and_assoc, and_assoc]
  cases hreturns : p.getter.bind PropertyGetter.returns with
  | none =>
    refine (hrest (.plain .anything) (by rw [returnType, hreturns])).trans ?_
    exact (and_iff_right fun t ht => by cases ht).symm
  | some t =>
    simp only [Option.some.injEq, forall_eq']
    cases hresolve : catalog.resolveType c [] t with
    | error f =>
      have hnot : ¬ (catalog.resolved? [] t).isSome = true := fun hsome => by
        rw [resolveType_eq_ok_iff.2 ⟨hsome, rfl⟩] at hresolve
        cases hresolve
      exact ⟨fun h => (by cases h), fun h => absurd h.1 hnot⟩
    | ok returns =>
      obtain ⟨hsome, rfl⟩ := resolveType_eq_ok_iff.1 hresolve
      refine (hrest (catalog.typeOf [] t) (by rw [returnType, hreturns])).trans ?_
      exact (and_iff_right hsome).symm

/-! ### Whole classes -/

variable (catalog)

/-- The properties that a class declares itself, in order. -/
def declared (c : ClassDef) : List Declaration :=
  c.attributes.filterMap (fun a => attribute? c a.1 (catalog.typeOf c.names a.2)) ++
    c.members.filterMap fun m => catalog.property? m.1 m.2

/-- **Whether a class declares nothing that no contract may declare.** -/
structure Declarable (c : ClassDef) : Prop where
  attributes_resolve : ∀ a ∈ c.attributes, (catalog.resolved? c.names a.2).isSome = true
  returns_resolve : ∀ m ∈ c.members, ∀ p t, m.2 = .property p →
    p.getter.bind PropertyGetter.returns = some t → (catalog.resolved? [] t).isSome = true
  members_no_event : ∀ m ∈ c.members, m.2.isEvent = false
  attributes_no_event : ∀ a ∈ c.attributes, (catalog.typeOf c.names a.2).isClassVar = false →
    (catalog.typeOf c.names a.2).isEvent = false
  returns_no_event : ∀ m ∈ c.members, ∀ p, m.2 = .property p →
    (catalog.returnType p).isEvent = false
  defaults_hashable : ∀ a ∈ c.attributes, (catalog.typeOf c.names a.2).isClassVar = false →
    ∀ v, (c.members.get? a.1).bind Member.asDefault? = some v → v.hasUnhashableType = false

/-- Whether the types that a class declares can be keys. -/
structure HashableTypes (c : ClassDef) : Prop where
  attributes : ∀ a ∈ c.attributes,
    (catalog.typeOf c.names a.2).split.1.unhashablePart? catalog.hooks.unhashable? = none
  returns : ∀ m ∈ c.members, ∀ p, m.2 = .property p →
    (catalog.returnType p).split.1.unhashablePart? catalog.hooks.unhashable? = none

variable {catalog}

theorem declareMember_eq_ok_iff {c : ClassDef} {name : String} {m : Member}
    {d? : Option Declaration} :
    catalog.declareMember c name m = .ok d? ↔
      ((∀ p, m = .property p → catalog.AllowsProperty p) ∧
        ∀ d, catalog.property? name m = some d → catalog.KeyTyped d) ∧
      d? = catalog.property? name m := by
  cases m with
  | property p =>
    have hmap : (catalog.declareProperty c name p).map some = .ok d? ↔
        ∃ d, catalog.declareProperty c name p = .ok d ∧ some d = d? := by
      cases catalog.declareProperty c name p with
      | error f => simp [Except.map]
      | ok d => simp [Except.map]
    rw [declareMember, hmap]
    simp only [declareProperty_eq_ok_iff]
    constructor
    · rintro ⟨d, ⟨⟨hallows, hkey⟩, hd⟩, rfl⟩
      refine ⟨⟨?_, fun d' hd' => ?_⟩, hd⟩
      · rintro _ ⟨⟩
        exact hallows
      · rwa [Option.some.inj (hd'.symm.trans hd.symm)]
    · rintro ⟨⟨hallows, hkey⟩, rfl⟩
      exact ⟨_, ⟨⟨hallows p rfl, hkey _ rfl⟩, rfl⟩, rfl⟩
  | value | event | method | callable =>
    exact ⟨fun h => ⟨⟨fun p hp => (by cases hp), fun d hd => by cases hd⟩, (Except.ok.inj h).symm⟩,
      fun h => congrArg Except.ok h.2.symm⟩

theorem declarable_iff {c : ClassDef} :
    catalog.Declarable c ↔
      (∀ m ∈ c.members, m.2.isEvent = false) ∧
      (∀ a ∈ c.attributes, (catalog.resolved? c.names a.2).isSome = true) ∧
      (∀ a ∈ c.attributes, AllowsAttribute c a.1 (catalog.typeOf c.names a.2)) ∧
      ∀ m ∈ c.members, ∀ p, m.2 = .property p → catalog.AllowsProperty p := by
  constructor
  · intro h
    exact ⟨h.members_no_event, h.attributes_resolve,
      fun a ha hvar => ⟨h.attributes_no_event a ha hvar, h.defaults_hashable a ha hvar⟩,
      fun m hm p hp => ⟨fun t => h.returns_resolve m hm p t hp, h.returns_no_event m hm p hp⟩⟩
  · rintro ⟨hevents, hresolve, hattributes, hproperties⟩
    exact {
      attributes_resolve := hresolve
      returns_resolve := fun m hm p t hp => (hproperties m hm p hp).1 t
      members_no_event := hevents
      attributes_no_event := fun a ha hvar => (hattributes a ha hvar).1
      returns_no_event := fun m hm p hp => (hproperties m hm p hp).2
      defaults_hashable := fun a ha hvar => (hattributes a ha hvar).2 }

theorem resolveAttributes_eq_ok_iff {c : ClassDef} {attributes : Table String DeclaredType} :
    (c.attributes.mapM fun (name, t) => do
      return (name, ← catalog.resolveType c c.names t) : Except Fault _) = .ok attributes ↔
      (∀ a ∈ c.attributes, (catalog.resolved? c.names a.2).isSome = true) ∧
        attributes = c.attributes.map fun a => (a.1, catalog.typeOf c.names a.2) := by
  refine mapM_eq_ok_iff fun a _ b => ?_
  rw [bind_eq_ok]
  simp only [resolveType_eq_ok_iff]
  constructor
  · rintro ⟨t, ⟨hsome, rfl⟩, hb⟩
    exact ⟨hsome, (Except.ok.inj hb).symm⟩
  · rintro ⟨hsome, rfl⟩
    exact ⟨_, ⟨hsome, rfl⟩, rfl⟩

theorem declareAttributes_eq_ok_iff {c : ClassDef} {plain : List (Option Declaration)} :
    ((c.attributes.map fun a => (a.1, catalog.typeOf c.names a.2)).mapM
      fun (name, t) => catalog.declareAttribute c name t) = .ok plain ↔
      (∀ a ∈ c.attributes, AllowsAttribute c a.1 (catalog.typeOf c.names a.2) ∧
        ∀ d, attribute? c a.1 (catalog.typeOf c.names a.2) = some d → catalog.KeyTyped d) ∧
      plain = c.attributes.map fun a => attribute? c a.1 (catalog.typeOf c.names a.2) := by
  rw [mapM_eq_ok_iff fun _ _ _ => declareAttribute_eq_ok_iff, List.forall_mem_map, List.map_map]
  rfl

theorem declareMembers_eq_ok_iff {c : ClassDef} {computed : List (Option Declaration)} :
    (c.members.mapM fun (name, m) => catalog.declareMember c name m) = .ok computed ↔
      (∀ m ∈ c.members, (∀ p, m.2 = .property p → catalog.AllowsProperty p) ∧
        ∀ d, catalog.property? m.1 m.2 = some d → catalog.KeyTyped d) ∧
      computed = c.members.map fun m => catalog.property? m.1 m.2 :=
  mapM_eq_ok_iff fun _ _ _ => declareMember_eq_ok_iff

/-- The types of what a class declares are among the types that it writes. -/
theorem HashableTypes.keyTyped {c : ClassDef} (h : catalog.HashableTypes c) :
    ∀ d ∈ catalog.declared c, catalog.KeyTyped d := by
  intro d hd
  rcases List.mem_append.1 hd with hd | hd
  · obtain ⟨a, ha, hd⟩ := List.mem_filterMap.1 hd
    have hkey := h.attributes a ha
    rw [attribute?] at hd
    split at hd
    · cases hd
    · obtain rfl := Option.some.inj hd
      exact hkey
  · obtain ⟨⟨name, m⟩, hm, hd⟩ := List.mem_filterMap.1 hd
    cases m with
    | property p =>
      have hkey := h.returns _ hm p rfl
      obtain rfl := Option.some.inj hd
      exact hkey
    | value | event | method | callable => cases hd

/-- **When a class declares properties, and which.** -/
theorem declarations_eq_ok_iff {c : ClassDef} {ds : List Declaration} :
    catalog.declarations c = .ok ds ↔
      (catalog.Declarable c ∧ ∀ d ∈ catalog.declared c, catalog.KeyTyped d) ∧
        ds = catalog.declared c := by
  have hdeclared : (c.attributes.map fun a =>
        attribute? c a.1 (catalog.typeOf c.names a.2)).filterMap id ++
      (c.members.map fun m => catalog.property? m.1 m.2).filterMap id = catalog.declared c := by
    rw [declared, List.filterMap_map, List.filterMap_map]
    rfl
  have hkeys : (∀ d ∈ catalog.declared c, catalog.KeyTyped d) ↔
      (∀ a ∈ c.attributes, ∀ d, attribute? c a.1 (catalog.typeOf c.names a.2) = some d →
        catalog.KeyTyped d) ∧
      ∀ m ∈ c.members, ∀ d, catalog.property? m.1 m.2 = some d → catalog.KeyTyped d := by
    rw [declared, List.forall_mem_append]
    simp only [List.mem_filterMap, forall_exists_index, and_imp]
    exact and_congr ⟨fun h a ha d hd => h d a ha hd, fun h d a ha hd => h a ha d hd⟩
      ⟨fun h m hm d hd => h d m hm hd, fun h d m hm hd => h m hm d hd⟩
  rw [declarable_iff, declarations, hkeys]
  cases hfind : c.members.find? (·.2.isEvent) with
  | some m =>
    have hevent : m.2.isEvent = true := by simpa using List.find?_some hfind
    refine ⟨fun h => (by cases h), fun h => ?_⟩
    rw [h.1.1.1 m (List.mem_of_find?_eq_some hfind)] at hevent
    cases hevent
  | none =>
    have hnone : ∀ m ∈ c.members, m.2.isEvent = false := by simpa using List.find?_eq_none.1 hfind
    constructor
    · intro hok
      obtain ⟨attributes, hresolve, hok⟩ := bind_eq_ok.1 hok
      obtain ⟨hresolved, rfl⟩ := resolveAttributes_eq_ok_iff.1 hresolve
      obtain ⟨plain, hplain, hok⟩ := bind_eq_ok.1 hok
      obtain ⟨hattributes, rfl⟩ := declareAttributes_eq_ok_iff.1 hplain
      obtain ⟨computed, hcomputed, hok⟩ := bind_eq_ok.1 hok
      obtain ⟨hproperties, rfl⟩ := declareMembers_eq_ok_iff.1 hcomputed
      exact ⟨⟨⟨hnone, hresolved, fun a ha => (hattributes a ha).1,
          fun m hm => (hproperties m hm).1⟩,
        fun a ha => (hattributes a ha).2, fun m hm => (hproperties m hm).2⟩,
        (Except.ok.inj hok).symm.trans hdeclared⟩
    · rintro ⟨⟨⟨-, hresolved, hattributes, hproperties⟩, hplain, hcomputed⟩, rfl⟩
      rw [← hdeclared]
      exact bind_eq_ok.2 ⟨_, resolveAttributes_eq_ok_iff.2 ⟨hresolved, rfl⟩, bind_eq_ok.2 ⟨_,
        declareAttributes_eq_ok_iff.2 ⟨fun a ha => ⟨hattributes a ha, hplain a ha⟩, rfl⟩,
        bind_eq_ok.2 ⟨_,
          declareMembers_eq_ok_iff.2 ⟨fun m hm => ⟨hproperties m hm, hcomputed m hm⟩, rfl⟩, rfl⟩⟩⟩

end Catalog

end TrackedEntity
