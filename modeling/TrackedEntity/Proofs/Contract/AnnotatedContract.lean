import TrackedEntity.Proofs.Contract.Annotating
import TrackedEntity.Proofs.Contract.Extension
import TrackedEntity.Proofs.Contract.Flattening

/-!
# Contracts of which a type is annotated

What becomes of a contract when the type of one attribute of one declared class is annotated
(`Catalog.retype`).  The graph stays the same but for that class, so the walk goes the same way.  It
collects the same declarations, but for marker and metadata of those that the attribute makes
(`Catalog.collectFrom_retype`), and the properties made of them are the same but for hooks and
metadata (`Catalog.propertiesFrom_annotated`).

Put together, annotating changes nothing else about a contract (`Catalog.analyze_annotated`), as
long as the type is not that of a class variable; annotating the type of a class variable makes a
property of it (`Catalog.annotated_classVar_is_property`).
-/

namespace TrackedEntity

open Outcome

/-! ### The graph -/

namespace ClassGraph

/-- The graph with another type for an attribute of a declared class. -/
def retype (g : ClassGraph) (i : ℕ) (name : String) (t : DeclaredType) : ClassGraph :=
  ⟨g.classes.modify i (·.retype name t)⟩

variable {g : ClassGraph} {i : ℕ} {name : String} {t : DeclaredType} {c : ClassRef}

theorem definition_retype :
    (g.retype i name t).definition c =
      if c = .declared i then (g.definition c).retype name t else g.definition c := by
  cases c with
  | declared j =>
    show (g.classes.modify i (·.retype name t)).getD j _ = _
    rw [List.getD_eq_getElem?_getD, List.getElem?_modify]
    by_cases hij : i = j
    · subst hij
      rw [if_pos rfl]
      show _ = ClassDef.retype (g.classes.getD i (.empty "" "" [])) name t
      rw [List.getD_eq_getElem?_getD]
      cases g.classes[i]? with
      | none => rfl
      | some c => simp
    · rw [if_neg fun heq => hij (ClassRef.declared.inj heq).symm]
      show _ = g.classes.getD j (.empty "" "" [])
      rw [List.getD_eq_getElem?_getD]
      simp [hij]
  | object | protocol | generic | abstract | notifyPropertyChanged | dataEntity | entityBase =>
    exact (if_neg fun heq => by cases heq).symm

/-- Whatever of a class does not depend on the types of its attributes is as before. -/
theorem definition_retype_congr {α : Type u} {f : ClassDef → α}
    (hf : ∀ c : ClassDef, f (c.retype name t) = f c) :
    f ((g.retype i name t).definition c) = f (g.definition c) := by
  rw [definition_retype]
  split
  · exact hf _
  · rfl

theorem bases_retype : (g.retype i name t).bases = g.bases :=
  funext fun _ => definition_retype_congr fun _ => rfl

theorem refs_retype : (g.retype i name t).refs = g.refs := by
  rw [refs, refs, retype, List.length_modify]

theorem edges_retype : (g.retype i name t).edges = g.edges := by
  rw [edges, edges, refs_retype, bases_retype]

theorem contracts_retype : (g.retype i name t).contracts c = g.contracts c := by
  have hbases : (g.retype i name t).contractBases = g.contractBases := by
    funext a
    rw [contractBases, contractBases, bases_retype]
  rw [contracts, contracts, hbases, edges_retype]

theorem derivesFromCompiled_retype :
    (g.retype i name t).derivesFromCompiled c = g.derivesFromCompiled c := by
  have hcompiled : ∀ a, ((g.retype i name t).definition a).isCompiled =
      (g.definition a).isCompiled := fun a => definition_retype_congr fun _ => rfl
  simp only [derivesFromCompiled, ancestors, bases_retype, edges_retype, hcompiled]

theorem names_retype : (g.retype i name t).names = g.names := by
  funext other
  have hkeys : (g.classes.modify i (·.retype name t)).map (fun c => (c.name, c.bases)) =
      g.classes.map fun c => (c.name, c.bases) := by
    refine List.ext_getElem? fun j => ?_
    rw [List.getElem?_map, List.getElem?_map, List.getElem?_modify]
    cases g.classes[j]? with
    | none => rfl
    | some c =>
      by_cases hij : i = j
      · simp [hij, ClassDef.retype]
      · simp [hij]
  have hnamed : ∀ classes : List ClassDef,
      (classes.any fun c => c.name == other && !c.bases.contains .entityBase) =
        (classes.map fun c => (c.name, c.bases)).any
          fun e => e.1 == other && !e.2.contains .entityBase := by
    intro classes
    rw [List.any_map]
    rfl
  rw [names, names, hnamed, hnamed, retype, hkeys]

end ClassGraph

/-! ### Walks -/

/-- What was collected, with the declarations changed. -/
def Collected.mapDeclared (f : Owner × Declaration → Owner × Declaration) (c : Collected) :
    Collected :=
  { c with declared := c.declared.map fun e => (e.1, f e.2) }

/-- Adding a class commutes with changes that keep owners, names, and whether properties are
mutable. -/
theorem Collected.add_mapDeclared {f : Owner × Declaration → Owner × Declaration}
    {g : Declaration → Declaration} {ref : ClassRef} {c c' : ClassDef}
    (hqualname : c'.qualname = c.qualname) (hmethods : c'.methodCount = c.methodCount)
    (hf : ∀ d, f (⟨ref, c.qualname⟩, d) = (⟨ref, c.qualname⟩, g d))
    (hname : ∀ d, (g d).name = d.name) (collected : Collected) (own : List Declaration)
    (annotations : List (Value × Value)) :
    (collected.mapDeclared f).add ref c' (own.map g) annotations =
      (collected.add ref c own annotations).mapDeclared f := by
  have hfold : ∀ t : Table String (Owner × Declaration),
      (own.map g).foldl (fun t d => Table.putNew t d.name (⟨ref, c.qualname⟩, d))
          (t.map fun e => (e.1, f e.2)) =
        (own.foldl (fun t d => Table.putNew t d.name (⟨ref, c.qualname⟩, d)) t).map
          fun e => (e.1, f e.2) := by
    induction own with
    | nil => exact fun t => rfl
    | cons d own ih =>
      intro t
      rw [List.map_cons, List.foldl_cons, List.foldl_cons, hname, ← hf, Table.putNew_map_values]
      exact ih _
  rw [Collected.add, hqualname, hmethods]
  exact congrArg (Collected.mk · _ _) (hfold collected.declared)

/-- The accessors that declarations stand for depend on which of them are mutable. -/
theorem Collected.methodCount_mapDeclared {f : Owner × Declaration → Owner × Declaration}
    (hf : ∀ e, (f e).2.mutable = e.2.mutable) (collected : Collected) :
    (collected.mapDeclared f).methodCount = collected.methodCount := by
  have hmutable : ((collected.mapDeclared f).declared.filter (·.2.2.mutable)).length =
      (collected.declared.filter (·.2.2.mutable)).length := by
    rw [mapDeclared, List.filter_map, List.length_map]
    exact congrArg List.length (List.filter_congr fun e _ => hf e.2)
  rw [methodCount, methodCount, accessorCount, accessorCount, hmutable, mapDeclared,
    List.length_map]

namespace Catalog

/-- The catalog with another type for an attribute of a declared class. -/
def retype (catalog : Catalog) (i : ℕ) (name : String) (t : DeclaredType) : Catalog :=
  { catalog with classes := catalog.classes.retype i name t }

/-- Whether a property of a name comes from the attribute of a declared class. -/
def IsAttribute (catalog : Catalog) (i : ℕ) (name : String) (owner : Owner) (other : String) :
    Prop :=
  owner.ref = .declared i ∧ other = name ∧
    (catalog.classes.definition (.declared i)).computes name = false

instance (catalog : Catalog) (i : ℕ) (name : String) (owner : Owner) (other : String) :
    Decidable (catalog.IsAttribute i name owner other) :=
  inferInstanceAs (Decidable (_ ∧ _ ∧ _))

/-- A declaration of a walk after the type of an attribute was annotated. -/
def annotated (catalog : Catalog) (i : ℕ) (name : String) (metadata : List Metadata)
    (e : Owner × Declaration) : Owner × Declaration :=
  if catalog.IsAttribute i name e.1 e.2.name then (e.1, e.2.annotated metadata) else e

variable {catalog : Catalog} {t t' : DeclaredType} {metadata : List Metadata} {i : ℕ}
  {name : String}

/-- What annotating the type of an attribute changes in the declarations of a class. -/
theorem annotated_owned (owner : Owner) (d : Declaration) :
    catalog.annotated i name metadata (owner, d) = (owner,
      if owner.ref = .declared i then
        d.annotatedIn (catalog.classes.definition (.declared i)) name metadata
      else d) := by
  rw [annotated, Declaration.annotatedIn]
  by_cases href : owner.ref = .declared i
  · rw [if_pos href]
    split
    · next hboth => rw [if_pos hboth.2]
    · next hnot => rw [if_neg fun hboth => hnot ⟨href, hboth⟩]
  · rw [if_neg href, if_neg fun hboth => href hboth.1]

variable (catalog i name metadata) in
theorem annotated_name (e : Owner × Declaration) :
    (catalog.annotated i name metadata e).2.name = e.2.name := by
  rw [annotated]
  split
  · exact e.2.annotated_name metadata
  · rfl

theorem annotated_mutable (e : Owner × Declaration) :
    (catalog.annotated i name metadata e).2.mutable = e.2.mutable := by
  rw [annotated]
  split
  · exact e.2.annotated_mutable metadata
  · rfl

variable (h : t.annotate metadata = .ok t') (htext : ∀ text, t ≠ .forward text)
  (habsent : t ≠ .plain .absent) (hvariable : t.isClassVar = false)
  (hattribute : ∀ a ∈ (catalog.classes.definition (.declared i)).attributes, a.1 = name → a.2 = t)
  (hmembers : (Table.keys (catalog.classes.definition (.declared i)).members).Nodup)
include h htext habsent hvariable hattribute hmembers

/-- What the classes of a walk declare after the type of an attribute was annotated. -/
theorem declarations_definition_retype (ref : ClassRef) :
    (catalog.retype i name t').declarations
        ((catalog.retype i name t').classes.definition ref) =
      (catalog.declarations (catalog.classes.definition ref)).map (List.map fun d =>
        if ref = .declared i then
          d.annotatedIn (catalog.classes.definition (.declared i)) name metadata
        else d) := by
  have hsame : ∀ c, (catalog.retype i name t').declarations c = catalog.declarations c :=
    declarations_congr rfl ClassGraph.names_retype
  rw [hsame, retype, ClassGraph.definition_retype]
  by_cases href : ref = .declared i
  · subst href
    simp only [if_true]
    exact declarations_retype h habsent htext hvariable hattribute hmembers
  · simp only [if_neg href]
    cases catalog.declarations (catalog.classes.definition ref) with
    | error f => rfl
    | ok own => exact (congrArg Except.ok (List.map_id own)).symm

/-- **A walk collects the same as before**, apart from marker and metadata of the one property. -/
theorem collectFrom_retype (collected : Collected) (refs : List ClassRef) :
    (catalog.retype i name t').collectFrom
        (collected.mapDeclared (catalog.annotated i name metadata)) refs =
      (catalog.collectFrom collected refs).map
        (Collected.mapDeclared (catalog.annotated i name metadata)) := by
  induction refs generalizing collected with
  | nil => rfl
  | cons ref refs ih =>
    have hannotations : ((catalog.retype i name t').classes.definition ref).entityAnnotations =
        (catalog.classes.definition ref).entityAnnotations :=
      ClassGraph.definition_retype_congr fun _ => rfl
    rw [collectFrom, collectFrom, hannotations,
      declarations_definition_retype h htext habsent hvariable hattribute hmembers]
    cases catalog.declarations (catalog.classes.definition ref) with
    | error f => rfl
    | ok own =>
      cases (catalog.classes.definition ref).entityAnnotations with
      | error f => rfl
      | ok annotations =>
        refine Eq.trans (congrArg (Catalog.collectFrom _ · refs) ?_) (ih _)
        refine Collected.add_mapDeclared ?_ ?_ (fun d => annotated_owned _ d) (fun d => ?_) _ _ _
        · exact ClassGraph.definition_retype_congr fun _ => rfl
        · exact ClassGraph.definition_retype_congr fun _ => rfl
        · have hsame := annotated_name catalog metadata i name
            (⟨ref, (catalog.classes.definition ref).qualname⟩, d)
          rwa [annotated_owned] at hsame

end Catalog

/-! ### Properties -/

/-- Whether a property is what another one becomes when the type of its attribute is annotated: all
is as before but its hooks and its metadata.  A property with hooks keeps them, and all that is new
is metadata; for one without them, the first new marker names the hooks. -/
structure Property.Annotates (hooks : HookCatalog) (metadata : List Metadata) (p p' : Property) :
    Prop where
  same : p' = { p with extension := p'.extension, metadata := p'.metadata }
  marked : p.extension.isSome = true →
    p'.extension = p.extension ∧ p'.metadata = p.metadata ++ metadata
  unmarked : p.extension = none →
    (DeclaredType.splitMarker metadata).1.mapM (fun directory =>
      (hooks.find directory).resolve p.name p.mutable) = .ok p'.extension ∧
    p'.metadata = p.metadata ++ (DeclaredType.splitMarker metadata).2

namespace Catalog

variable {catalog : Catalog} {metadata : List Metadata}

theorem property_of_reserved {ordinal : ℕ} {owner : Owner} {d : Declaration}
    (h : isReserved d.name = true) :
    catalog.property ordinal owner d = .error (.reservedName d.name owner.qualname) := by
  rw [property, if_pos h]
  rfl

theorem property_of_not_reserved {ordinal : ℕ} {owner : Owner} {d : Declaration}
    (h : isReserved d.name = false) :
    catalog.property ordinal owner d =
      (d.marker.mapM fun directory =>
        (catalog.hooks.find directory).resolve d.name d.mutable) >>= fun extension => .ok {
          name := d.name, type := d.type, mutable := d.mutable
          ordinal := if d.mutable then ordinal else untracked
          default := d.default, extension, metadata := d.metadata, owner := some owner } := by
  rw [property, if_neg (by simpa using h)]
  rfl

/-- **The property of an annotated declaration.** -/
theorem property_annotated (ordinal : ℕ) (owner : Owner) (d : Declaration) :
    Follows (fun f => d.marker = none ∧ ∃ directory,
        (DeclaredType.splitMarker metadata).1 = some directory ∧
        (catalog.hooks.find directory).resolve d.name d.mutable = .error f)
      (Property.Annotates catalog.hooks metadata) (catalog.property ordinal owner d)
      (catalog.property ordinal owner (d.annotated metadata)) := by
  have hname := d.annotated_name metadata
  cases hreserved : isReserved d.name with
  | true =>
    rw [property_of_reserved hreserved, property_of_reserved (by rw [hname, hreserved]), hname]
    exact .fails _
  | false =>
    rw [property_of_not_reserved hreserved, property_of_not_reserved (by rw [hname, hreserved])]
    cases hmarker : d.marker with
    | some directory =>
      -- the marker decides, before and after
      rw [Declaration.annotated_of_marked (by rw [hmarker]; rfl)]
      simp only [hmarker, Option.mapM_some]
      cases (catalog.hooks.find directory).resolve d.name d.mutable with
      | error f => exact .fails f
      | ok extension =>
        exact .succeeds ⟨rfl, fun _ => ⟨rfl, rfl⟩, fun hnone => by cases hnone⟩
    | none =>
      rw [Declaration.annotated_of_unmarked hmarker]
      cases hfirst : (DeclaredType.splitMarker metadata).1 with
      | none =>
        refine .succeeds ⟨rfl, fun hsome => (by cases hsome), fun _ => ⟨?_, rfl⟩⟩
        rw [hfirst]
        rfl
      | some directory =>
        simp only [Option.mapM_some]
        cases hresolve : (catalog.hooks.find directory).resolve d.name d.mutable with
        | error f => exact .strays ⟨trivial, directory, rfl, hresolve⟩
        | ok extension =>
          refine .succeeds ⟨rfl, fun hsome => (by cases hsome), fun _ => ⟨?_, rfl⟩⟩
          rw [hfirst, Option.mapM_some]
          show (catalog.hooks.find directory).resolve d.name d.mutable >>= _ = _
          rw [hresolve]
          rfl

variable {t t' : DeclaredType} {i : ℕ} {name : String}

/-- Whether a fault is that of the hooks which a marker among new metadata names for a property,
where there was no marker before. -/
def NewHooksFail (catalog : Catalog) (name : String) (marker : Option String)
    (metadata : List Metadata) (f : Fault) : Prop :=
  marker = none ∧ ∃ directory, (DeclaredType.splitMarker metadata).1 = some directory ∧
    (catalog.hooks.find directory).resolve name true = .error f

/-- Whether a property is what another one becomes when the type of an attribute is annotated: it
`Annotates` the property of the attribute, and is the same as any other one. -/
def Reannotates (catalog : Catalog) (i : ℕ) (name : String) (metadata : List Metadata)
    (p p' : Property) : Prop :=
  if p.owner.any (fun owner => catalog.IsAttribute i name owner p.name) then
    p.Annotates catalog.hooks metadata p'
  else p' = p

variable (metadata) in
/-- One property after the type of an attribute was annotated. -/
theorem property_reannotated {marker : Option String} {owner : Owner} {d : Declaration}
    (h : catalog.IsAttribute i name owner d.name → d.marker = marker ∧ d.mutable = true)
    (ordinal : ℕ) :
    Follows (catalog.NewHooksFail name marker metadata) (catalog.Reannotates i name metadata)
      (catalog.property ordinal owner d)
      (catalog.property ordinal owner (catalog.annotated i name metadata (owner, d)).2) := by
  have hany : ∀ p, catalog.property ordinal owner d = .ok p →
      p.owner.any (fun owner => catalog.IsAttribute i name owner p.name) =
        decide (catalog.IsAttribute i name owner d.name) := by
    intro p hp
    have htakes := takes_of_property hp
    rw [htakes.owner, Option.any_some, htakes.name]
  rw [annotated]
  by_cases hattribute : catalog.IsAttribute i name owner d.name
  · obtain ⟨hmarker, hmutable⟩ := h hattribute
    rw [if_pos hattribute]
    refine (property_annotated ordinal owner d).imp ?_ fun p p' hp hannotates => ?_
    · rintro f ⟨hnone, directory, hfirst, hresolve⟩
      rw [hattribute.2.1, hmutable] at hresolve
      exact ⟨hmarker.symm.trans hnone, directory, hfirst, hresolve⟩
    · rwa [Reannotates, hany p hp, decide_eq_true hattribute, if_pos rfl]
  · rw [if_neg hattribute]
    refine .refl fun p hp => ?_
    rw [Reannotates, hany p hp, decide_eq_false hattribute, if_neg Bool.false_ne_true]

variable (metadata) in
/-- **The properties of a walk** after the type of an attribute was annotated. -/
theorem propertiesFrom_annotated {marker : Option String} {es : List (Owner × Declaration)}
    (hes : ∀ e ∈ es, catalog.IsAttribute i name e.1 e.2.name →
      e.2.marker = marker ∧ e.2.mutable = true) (ordinal : ℕ) :
    Follows (catalog.NewHooksFail name marker metadata)
      (List.Forall₂ (catalog.Reannotates i name metadata)) (catalog.propertiesFrom ordinal es)
      (catalog.propertiesFrom ordinal (es.map (catalog.annotated i name metadata))) := by
  induction es generalizing ordinal with
  | nil => exact .succeeds .nil
  | cons e es ih =>
    obtain ⟨he, hrest⟩ := List.forall_mem_cons.1 hes
    obtain ⟨owner, d⟩ := e
    have hfirst := property_reannotated metadata he ordinal
    have hmutable : (catalog.annotated i name metadata (owner, d)).2.mutable = d.mutable :=
      annotated_mutable _
    have hpair : catalog.annotated i name metadata (owner, d) =
        (owner, (catalog.annotated i name metadata (owner, d)).2) := by rw [annotated_owned]
    rw [List.map_cons, hpair, propertiesFrom, propertiesFrom, hmutable]
    refine hfirst.bind fun p p' hp => ?_
    refine (ih hrest _).bind fun ps ps' hps => ?_
    exact .succeeds (.cons hp hps)

/-! ### Contracts -/

/-- What a class declares under the name of an attribute comes from the attribute, if no property
member takes its place. -/
theorem attribute?_of_mem_declared {c : ClassDef} (htext : ∀ text, t ≠ .forward text)
    (hattribute : ∀ a ∈ c.attributes, a.1 = name → a.2 = t)
    (hmembers : (Table.keys c.members).Nodup) {d : Declaration} (hd : d ∈ catalog.declared c)
    (hname : d.name = name) (hcomputes : c.computes name = false) :
    attribute? c name t = some d := by
  rcases List.mem_append.1 hd with hd | hd
  · obtain ⟨a, ha, hd⟩ := List.mem_filterMap.1 hd
    obtain rfl : a.1 = name := (name_of_attribute? hd).1.symm.trans hname
    rwa [hattribute a ha rfl, typeOf_eq_self htext] at hd
  · obtain ⟨⟨other, member⟩, hm, hd⟩ := List.mem_filterMap.1 hd
    cases member with
    | property p =>
      obtain rfl := Option.some.inj hd
      obtain rfl : other = name := hname
      rw [ClassDef.computes, (Table.get?_eq_some_iff hmembers).2 hm] at hcomputes
      cases hcomputes
    | value | event | method | callable => cases hd

/-- What a walk collects for the attribute has the marker of its type. -/
theorem marker_of_collected (htext : ∀ text, t ≠ .forward text) (hvariable : t.isClassVar = false)
    (hattribute : ∀ a ∈ (catalog.classes.definition (.declared i)).attributes,
      a.1 = name → a.2 = t)
    (hmembers : (Table.keys (catalog.classes.definition (.declared i)).members).Nodup)
    {contract : ClassRef} {collected : Collected}
    (hok : catalog.collectFrom .empty (catalog.inspected contract) = .ok collected) :
    ∀ e ∈ collected.declared.map (·.2), catalog.IsAttribute i name e.1 e.2.name →
      e.2.marker = t.split.2.1 ∧ e.2.mutable = true := by
  intro e he hattributes
  rw [(collected_eq_kept hok).1] at he
  obtain ⟨ref, -, he⟩ := List.mem_flatMap.1 (List.mem_of_find?_eq_some (mem_kept_iff.1 he))
  obtain ⟨d, hd, rfl⟩ := List.mem_map.1 he
  obtain ⟨rfl, hname, hcomputes⟩ := hattributes
  have hd := attribute?_of_mem_declared htext hattribute hmembers hd hname hcomputes
  rw [attribute?, hvariable] at hd
  split at hd
  · cases hd
  · obtain rfl := Option.some.inj hd
    exact ⟨rfl, rfl⟩

/-- **Annotating the type of an attribute changes nothing but hooks and metadata of the property.**
Take a type that is neither a text nor the absence of a value nor that of a class variable.  In
every class, an attribute of the annotated type is treated as one of the type itself: rejected for
the same reason, or left out, or declared with the same type and default.  And a contract is
analyzed as before: it is rejected for the same reason, or it has the same properties with the same
ordinals, but that the property of the attribute has the new metadata, and the hooks that the first
new marker names, if it had none.  Only these hooks can be another reason to reject it. -/
theorem analyze_annotated (h : t.annotate metadata = .ok t') (htext : ∀ text, t ≠ .forward text)
    (habsent : t ≠ .plain .absent) (hvariable : t.isClassVar = false)
    (hattribute : ∀ a ∈ (catalog.classes.definition (.declared i)).attributes,
      a.1 = name → a.2 = t)
    (hmembers : (Table.keys (catalog.classes.definition (.declared i)).members).Nodup)
    (settings : Settings) (contract : ClassRef) :
    (∀ c other, catalog.declareAttribute c other t' =
      (catalog.declareAttribute c other t).map (Option.map (·.annotated metadata))) ∧
    Follows (catalog.NewHooksFail name t.split.2.1 metadata)
      (fun s s' => s' = { s with properties := s'.properties } ∧
        List.Forall₂ (catalog.Reannotates i name metadata) s.properties s'.properties)
      (catalog.analyze settings contract)
      ((catalog.retype i name t').analyze settings contract) := by
  refine ⟨declareAttribute_annotate h habsent hvariable, ?_⟩
  have hcontracts : (catalog.retype i name t').classes.contracts contract =
      catalog.classes.contracts contract := ClassGraph.contracts_retype
  have hinspected : (catalog.retype i name t').inspected contract = catalog.inspected contract := by
    rw [inspected, inspected, hcontracts]
  have hqualname : ((catalog.retype i name t').classes.definition contract).qualname =
      (catalog.classes.definition contract).qualname :=
    ClassGraph.definition_retype_congr fun _ => rfl
  have hcompiled : (catalog.retype i name t').classes.derivesFromCompiled contract =
      catalog.classes.derivesFromCompiled contract := ClassGraph.derivesFromCompiled_retype
  have hcollected : (catalog.retype i name t').collectFrom .empty (catalog.inspected contract) =
      (catalog.collectFrom .empty (catalog.inspected contract)).map
        (Collected.mapDeclared (catalog.annotated i name metadata)) :=
    collectFrom_retype h htext habsent hvariable hattribute hmembers .empty _
  rw [analyze, analyze, hqualname, hinspected, hcontracts, hcompiled, hcollected]
  cases catalog.classes.derivesFromCompiled contract with
  | true => exact .fails _
  | false =>
    cases hok : catalog.collectFrom .empty (catalog.inspected contract) with
    | error f => exact .fails f
    | ok collected =>
      have hcount : (collected.mapDeclared (catalog.annotated i name metadata)).methodCount =
          collected.methodCount := Collected.methodCount_mapDeclared annotated_mutable collected
      have hlength : (collected.mapDeclared (catalog.annotated i name metadata)).declared.length =
          collected.declared.length := List.length_map _
      show Follows _ _ (if settings.guardRejects collected.methodCount collected.declared.length
          then _ else _)
        (if settings.guardRejects
            (collected.mapDeclared (catalog.annotated i name metadata)).methodCount
            (collected.mapDeclared (catalog.annotated i name metadata)).declared.length
          then _ else _)
      rw [hcount, hlength]
      cases settings.guardRejects collected.methodCount collected.declared.length with
      | true => exact .fails _
      | false =>
        have hproperties := propertiesFrom_annotated metadata
          (marker_of_collected htext hvariable hattribute hmembers hok) 0
        have hdeclared :
            (collected.mapDeclared (catalog.annotated i name metadata)).declared.map (·.2) =
              (collected.declared.map (·.2)).map (catalog.annotated i name metadata) := by
          rw [Collected.mapDeclared, List.map_map, List.map_map]
          rfl
        have hhooks : ∀ es, (catalog.retype i name t').propertiesFrom 0 es =
            catalog.propertiesFrom 0 es := fun es => propertiesFrom_congr (by rfl) 0 es
        rw [← hdeclared] at hproperties
        rw [if_neg Bool.false_ne_true, if_neg Bool.false_ne_true, hhooks]
        refine hproperties.bind fun ps ps' hps => ?_
        exact .succeeds ⟨rfl, hps⟩

end Catalog

namespace Sample

/-- A contract of a room with the number of all rooms as a class variable, and hooks for reading its
width. -/
def rooms : Catalog where
  classes := ⟨[{ ClassDef.empty "IRoom" "rooms" [.protocol] with
    attributes := [("count", .applied .classVar [.plain .int]), ("width", .plain .int)] }]⟩
  hooks := [("measures", {
    source := "measures"
    members :=
      [("get_width", .callable ⟨[⟨"entity", .positional, false⟩, ⟨"current", .positional, false⟩],
        none, .arg 1⟩)]
    unhashable? := none
    closed? := none })]

/-- A width with a unit and a marker for its hooks. -/
def measured : DeclaredType :=
  .annotated (.plain .int) [.value (.str "cm"), .marker "measures"]

end Sample

open Sample in
/-- Annotating the width gives it hooks and metadata. -/
theorem Catalog.analyze_annotated_rooms :
    Follows (rooms.NewHooksFail "width" none [.value (.str "cm"), .marker "measures"])
      (fun s s' => s' = { s with properties := s'.properties } ∧
        List.Forall₂
          (rooms.Reannotates 0 "width" [.value (.str "cm"), .marker "measures"])
          s.properties s'.properties)
      (rooms.analyze .default (.declared 0))
      ((rooms.retype 0 "width" measured).analyze .default (.declared 0)) ∧
    ((rooms.retype 0 "width" measured).analyze .default (.declared 0)).map (fun s =>
        s.properties.map fun p => (p.name, p.ordinal, p.extension.isSome, p.metadata)) =
      .ok [("width", 0, true, [.value (.str "cm")])] := by
  have hmeasured : (DeclaredType.plain .int).annotate [.value (.str "cm"), .marker "measures"] =
      .ok measured := rfl
  have hattribute : ∀ a ∈ (rooms.classes.definition (.declared 0)).attributes,
      a.1 = "width" → a.2 = .plain .int := by
    intro a ha hname
    rcases List.mem_cons.1 ha with rfl | ha
    · exact absurd hname (by decide)
    · rcases List.mem_singleton.1 ha with rfl
      rfl
  have hmembers : (Table.keys (rooms.classes.definition (.declared 0)).members).Nodup :=
    List.nodup_nil
  exact ⟨(analyze_annotated hmeasured (fun _ heq => by cases heq) (fun heq => by cases heq) rfl
    hattribute hmembers .default (.declared 0)).2, rfl⟩

open Sample in
/-- **A class variable with metadata is a property.**  Only the outermost form of a type is looked
at for class variables, so annotating the type of one makes a property of it. -/
theorem Catalog.annotated_classVar_is_property :
    (DeclaredType.applied .classVar [.plain .int]).annotate [.value (.str "x")] =
      .ok (.annotated (.applied .classVar [.plain .int]) [.value (.str "x")]) ∧
    (rooms.analyze .default (.declared 0)).map (·.properties.map (·.name)) = .ok ["width"] ∧
    ((rooms.retype 0 "count" (.annotated (.applied .classVar [.plain .int])
        [.value (.str "x")])).analyze .default (.declared 0)).map (·.properties.map (·.name)) =
      .ok ["count", "width"] :=
  ⟨rfl, rfl, rfl⟩

end TrackedEntity
