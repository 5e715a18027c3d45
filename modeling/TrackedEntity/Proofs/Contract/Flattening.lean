import TrackedEntity.Proofs.Contract.Acceptance

/-!
# How a contract is flattened

The properties of a schema are those that the visited classes declare, class by class in the order
of the walk, without the repetitions of earlier names (`Catalog.kept`).  Everything a property says
comes from one declaration and its class (`Property.Takes`), apart from its ordinal, which is its
place among the mutable ones.  The annotations of the entity type are gathered in the same way.
`Catalog.analyze_flattens` puts this together.

So the owner of a property is the first class in the order of the walk that declares its name
(`Catalog.mem_kept_iff`).
-/

namespace TrackedEntity

open Outcome

/-! ### Declarations that are kept -/

/-- The declarations that a schema keeps: of each name the first, in the order of the walk, with the
classes that declare them. -/
def Catalog.kept (catalog : Catalog) (contract : ClassRef) : List (Owner × Declaration) :=
  ((catalog.inspected contract).flatMap catalog.owned).eraseDupsBy
    fun e first => e.2.name == first.2.name

/-- Whether a class declares a property of a name itself. -/
def Catalog.Declares (catalog : Catalog) (c : ClassRef) (name : String) : Prop :=
  ∃ d ∈ catalog.declared (catalog.classes.definition c), d.name = name

/-- Whether two entries of a mapping have the same key. -/
def Value.sameEntryKey (e first : Value × Value) : Bool := e.1.sameKey first.1

/-- Whether a property is what a declaration of a class makes it, except for its ordinal. -/
structure Property.Takes (hooks : HookCatalog) (p : Property) (e : Owner × Declaration) :
    Prop where
  name : p.name = e.2.name
  type : p.type = e.2.type
  mutable : p.mutable = e.2.mutable
  default : p.default = e.2.default
  metadata : p.metadata = e.2.metadata
  owner : p.owner = some e.1
  /-- The hooks are those of the declaration's marker. -/
  extension : e.2.marker.mapM (fun directory =>
    (hooks.find directory).resolve e.2.name e.2.mutable) = .ok p.extension

namespace Catalog

variable {catalog : Catalog} {settings : Settings} {contract : ClassRef}

/-- A declaration is kept if no class before declares its name, nor the class itself before it. -/
theorem mem_kept_iff {e : Owner × Declaration} :
    e ∈ catalog.kept contract ↔
      ((catalog.inspected contract).flatMap catalog.owned).find? (·.2.name == e.2.name) = some e :=
  Table.mem_eraseDupsBy_iff fun e : Owner × Declaration => e.2.name

/-- Some class declares a name exactly if a declaration of one of them has it. -/
theorem isSome_find?_owned_iff {refs : List ClassRef} {name : String} :
    ((refs.flatMap catalog.owned).find? (·.2.name == name)).isSome = true ↔
      ∃ c ∈ refs, catalog.Declares c name := by
  rw [List.find?_isSome]
  constructor
  · rintro ⟨e, he, hname⟩
    obtain ⟨c, hc, he⟩ := List.mem_flatMap.1 he
    obtain ⟨d, hd, rfl⟩ := List.mem_map.1 he
    exact ⟨c, hc, d, hd, by simpa using hname⟩
  · rintro ⟨c, hc, d, hd, hname⟩
    exact ⟨_, List.mem_flatMap.2 ⟨c, hc, List.mem_map_of_mem hd⟩, by simpa using hname⟩

/-- A name is kept exactly if some class declares it. -/
theorem exists_mem_kept_iff {name : String} :
    (∃ e ∈ catalog.kept contract, e.2.name = name) ↔
      ∃ c ∈ catalog.inspected contract, catalog.Declares c name := by
  rw [← isSome_find?_owned_iff, Option.isSome_iff_exists]
  simp only [mem_kept_iff]
  constructor
  · rintro ⟨e, hfind, rfl⟩
    exact ⟨e, hfind⟩
  · rintro ⟨e, hfind⟩
    obtain rfl : e.2.name = name := by simpa using List.find?_some hfind
    exact ⟨e, hfind, rfl⟩

/-! ### Properties of declarations -/

theorem takes_of_property {n : ℕ} {owner : Owner} {d : Declaration} {p : Property}
    (h : catalog.property n owner d = .ok p) : p.Takes catalog.hooks (owner, d) := by
  rw [property] at h
  cases hreserved : isReserved d.name with
  | true =>
    rw [hreserved] at h
    cases h
  | false =>
    rw [hreserved] at h
    obtain ⟨extension, hextension, h⟩ := bind_eq_ok.1 h
    obtain rfl := Except.ok.inj h
    exact {
      name := rfl, type := rfl, mutable := rfl, default := rfl, metadata := rfl, owner := rfl
      extension := hextension }

theorem takes_of_propertiesFrom {n : ℕ} {declared : List (Owner × Declaration)}
    {ps : List Property} (h : catalog.propertiesFrom n declared = .ok ps) :
    List.Forall₂ (Property.Takes catalog.hooks) ps declared := by
  induction declared generalizing n ps with
  | nil =>
    obtain rfl := Except.ok.inj h
    exact .nil
  | cons e declared ih =>
    obtain ⟨p, hp, h⟩ := bind_eq_ok.1 h
    obtain ⟨rest, hrest, h⟩ := bind_eq_ok.1 h
    obtain rfl := Except.ok.inj h
    exact .cons (takes_of_property hp) (ih hrest)

end Catalog

theorem Numbered.untracked_of_not_mutable {n : ℕ} {ps : List Property} (h : Numbered n ps)
    {p : Property} (hp : p ∈ ps) (hmutable : p.mutable = false) : p.ordinal = untracked := by
  induction ps generalizing n with
  | nil => cases hp
  | cons q ps ih =>
    rw [Numbered] at h
    by_cases hq : q.mutable = true
    · rw [if_pos hq] at h
      rcases List.mem_cons.1 hp with rfl | hp
      · rw [hmutable] at hq
        cases hq
      · exact ih h.2 hp
    · rw [if_neg hq] at h
      rcases List.mem_cons.1 hp with rfl | hp
      · exact h.1
      · exact ih h.2 hp

/-- The mutable properties are numbered without gaps, in their order. -/
theorem Numbered.map_ordinal {ps : List Property} (h : Numbered 0 ps) :
    (ps.filter (·.mutable)).map (·.ordinal) =
      (List.range (ps.filter (·.mutable)).length).map Nat.cast := by
  refine List.ext_getElem (by simp) fun i hi _ => ?_
  rw [List.length_map] at hi
  have hordinal := h.ordinal_eq (List.getElem?_eq_getElem hi)
  simpa using hordinal

/-- The property of a name is that of the first declaration of the name. -/
theorem Property.Takes.find? {hooks : HookCatalog} {ps : List Property}
    {es : List (Owner × Declaration)} (h : List.Forall₂ (Property.Takes hooks) ps es)
    {name : String} {e : Owner × Declaration} (he : es.find? (·.2.name == name) = some e) :
    ∃ p, ps.find? (·.name == name) = some p ∧ p.Takes hooks e := by
  induction h with
  | nil => cases he
  | @cons p e' ps es htakes _ ih =>
    by_cases hname : e'.2.name = name
    · rw [List.find?_cons_of_pos (by simpa using hname)] at he
      obtain rfl := Option.some.inj he
      exact ⟨p, List.find?_cons_of_pos (by simpa [htakes.name] using hname), htakes⟩
    · rw [List.find?_cons_of_neg (by simpa using hname)] at he
      rw [List.find?_cons_of_neg (by simpa [htakes.name] using hname)]
      exact ih he

/-! ### Contracts -/

namespace Catalog

variable {catalog : Catalog} {settings : Settings} {contract : ClassRef}

/-- What a walk over a contract keeps. -/
theorem collected_eq_kept {collected : Collected}
    (h : catalog.collectFrom .empty (catalog.inspected contract) = .ok collected) :
    collected.declared.map (·.2) = catalog.kept contract ∧
      collected.annotations = ((catalog.inspected contract).flatMap fun c =>
        (catalog.classes.definition c).annotationEntries).eraseDupsBy Value.sameEntryKey := by
  obtain ⟨-, hdeclared, hannotations⟩ := collectFrom_gathers h
  constructor
  · have hputNew := Table.foldl_putNew_eq (fun e : Owner × Declaration => e.2.name)
      ((catalog.inspected contract).flatMap catalog.owned)
    rw [hdeclared, Collected.empty, hputNew, List.map_map, kept]
    exact List.map_id _
  · have hkeepNew := Table.foldl_keepNew Value.sameEntryKey
      ((catalog.inspected contract).flatMap fun c =>
        (catalog.classes.definition c).annotationEntries) []
    have hall : ∀ a : Value × Value, (!List.any [] (Value.sameEntryKey a)) = true := fun a => rfl
    simp only [hall, List.filter_true, List.nil_append] at hkeepNew
    exact hannotations.trans hkeepNew

/-- The properties of an analyzed contract are those of the declarations that are kept. -/
theorem takes_of_analyze {s : Schema} (h : catalog.analyze settings contract = .ok s) :
    List.Forall₂ (Property.Takes catalog.hooks) s.properties (catalog.kept contract) := by
  obtain ⟨-, collected, ps, hcollected, -, hps, rfl⟩ := analyze_eq_ok_iff.1 h
  rw [(collected_eq_kept hcollected).1] at hps
  exact takes_of_propertiesFrom hps

/-- A property is what some visited class declares. -/
theorem exists_declared_of_mem {s : Schema} (h : catalog.analyze settings contract = .ok s)
    {p : Property} (hp : p ∈ s.properties) :
    ∃ c ∈ catalog.inspected contract, ∃ d ∈ catalog.declared (catalog.classes.definition c),
      p.Takes catalog.hooks (⟨c, (catalog.classes.definition c).qualname⟩, d) := by
  have htakes := takes_of_analyze h
  obtain ⟨i, hi, rfl⟩ := List.mem_iff_getElem.1 hp
  have hi' : i < (catalog.kept contract).length := htakes.length_eq ▸ hi
  -- the declaration that the property takes is kept, and so it is one of a class
  have hkept := List.mem_of_find?_eq_some (mem_kept_iff.1 (List.getElem_mem hi'))
  obtain ⟨c, hc, hmem⟩ := List.mem_flatMap.1 hkept
  obtain ⟨d, hd, heq⟩ := List.mem_map.1 hmem
  have htake := htakes.get hi hi'
  rw [List.get_eq_getElem, List.get_eq_getElem, ← heq] at htake
  exact ⟨c, hc, d, hd, htake⟩

/-- **An analyzed contract is flattened** into the declarations of the visited classes, in the order
of the walk and then of the class body, of which the first of each name is kept. -/
theorem analyze_flattens {s : Schema} (h : catalog.analyze settings contract = .ok s) :
    s.contract = contract ∧
    List.Forall₂ (Property.Takes catalog.hooks) s.properties (catalog.kept contract) ∧
    (s.properties.map (·.name)).Nodup ∧
    (∀ name, name ∈ s.properties.map (·.name) ↔
      ∃ c, catalog.classes.Visits contract c ∧ c ≠ .notifyPropertyChanged ∧
        catalog.Declares c name) ∧
    s.mutable.map (·.ordinal) = (List.range s.mutableCount).map Nat.cast ∧
    (∀ p ∈ s.properties, p.mutable = false → p.ordinal = untracked) ∧
    s.annotations = ((catalog.inspected contract).flatMap fun c =>
      (catalog.classes.definition c).annotationEntries).eraseDupsBy Value.sameEntryKey ∧
    (s.needsNotification = true ↔ catalog.classes.Visits contract .notifyPropertyChanged) := by
  have htakes := takes_of_analyze h
  obtain ⟨hnodup, hnumbered⟩ := analyze_spec h
  obtain ⟨-, collected, ps, hcollected, -, hps, rfl⟩ := analyze_eq_ok_iff.1 h
  obtain ⟨hkept, hannotations⟩ := collected_eq_kept hcollected
  have hnames : ps.map (·.name) = (catalog.kept contract).map (·.2.name) := by
    rw [(propertiesFrom_spec hps).1, hkept]
  refine ⟨rfl, htakes, hnodup, fun name => ?_, hnumbered.map_ordinal,
    fun p hp => hnumbered.untracked_of_not_mutable hp, hannotations, ?_⟩
  · show name ∈ ps.map (·.name) ↔ _
    rw [hnames, List.mem_map, exists_mem_kept_iff]
    simp only [mem_inspected_iff, and_assoc]
  · show (catalog.classes.contracts contract).contains .notifyPropertyChanged = true ↔ _
    rw [List.contains_iff_mem, ClassGraph.mem_contracts_iff]

end Catalog

namespace Sample

/-- A contract over two others that have a base in common and declare its names anew: the one has
a class variable and a read-only property in the place of attributes, the other an attribute of
another type. -/
def diamond : Catalog where
  classes := ⟨[
    { ClassDef.empty "IBase" "shapes" [.protocol] with
      attributes := [("id", .plain .int), ("label", .plain .bytes)]
      members := [(ClassDef.annotationsMember, .value (.dict .written [(.str "unit", .int 1)]))] },
    { ClassDef.empty "ILeft" "shapes" [.declared 0, .notifyPropertyChanged] with
      attributes := [("id", .applied .classVar [.plain .int])]
      members := [("label", .property ⟨some ⟨some (.plain .str), none⟩, false⟩)] },
    { ClassDef.empty "IRight" "shapes" [.declared 0] with
      attributes := [("id", .plain .float)]
      members := [(ClassDef.annotationsMember,
        .value (.dict .written [(.str "scale", .int 3), (.str "unit", .int 2)]))] },
    { ClassDef.empty "IDiamond" "shapes" [.declared 1, .declared 2] with
      attributes := [("own", .plain .bool)] }]⟩
  hooks := []

theorem isSome_analyze_diamond :
    (diamond.analyze .default (.declared 3)).toOption.isSome = true := by rfl

/-- The schema of the contract. -/
def diamondSchema : Schema :=
  (diamond.analyze .default (.declared 3)).toOption.get isSome_analyze_diamond

theorem analyze_diamond : diamond.analyze .default (.declared 3) = .ok diamondSchema := rfl

end Sample

open Sample in
/-- Each name comes from the first class that declares it, and so do the annotations. -/
theorem Catalog.analyze_flattens_diamond :
    diamond.analyze .default (.declared 3) = .ok diamondSchema ∧
    List.Forall₂ (Property.Takes diamond.hooks) diamondSchema.properties
      (diamond.kept (.declared 3)) ∧
    (diamond.kept (.declared 3)).map (fun e => (e.1.qualname, e.2.name)) =
      [("IDiamond", "own"), ("ILeft", "label"), ("IRight", "id")] ∧
    diamondSchema.properties.map (·.ordinal) = [0, untracked, 1] ∧
    diamondSchema.annotations = [(.str "scale", .int 3), (.str "unit", .int 2)] ∧
    diamondSchema.needsNotification = true := by
  obtain ⟨-, htakes, -, -, -, -, hannotations, -⟩ := analyze_flattens analyze_diamond
  exact ⟨analyze_diamond, htakes, rfl, rfl, hannotations.trans rfl, rfl⟩

end TrackedEntity
