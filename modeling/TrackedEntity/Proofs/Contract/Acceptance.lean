import TrackedEntity.Proofs.Contract.Declarations
import TrackedEntity.Proofs.Contract.Numbering
import TrackedEntity.Proofs.Contract.Reachability
import TrackedEntity.Proofs.Hook.Resolution

/-!
# Which contracts are valid

`Catalog.Valid` says of a contract what analysis finds out class by class and property by property,
and nothing about the order of it.  Analysis succeeds exactly for the valid contracts, as long as
the entity annotations that classes give are mappings (`Catalog.analyze_succeeds_iff`).

Some conditions are about every visited class, and it does not help to be shadowed: types that
resolve, no events, no defaults that could be changed in place, and the count of methods.  The
others are about the winning declarations alone, which are the first ones of each name
(`Declaration.mem_firsts_iff`): names that are not reserved, and hooks.  What a walk collects are
those declarations (`Catalog.collected_eq`).
-/

namespace TrackedEntity

open Outcome

/-! ### Winning declarations -/

namespace Declaration

/-- The first declaration of each name. -/
def firsts : List Declaration → List Declaration
  | [] => []
  | d :: ds => d :: (firsts ds).filter (·.name ≠ d.name)

/-- A declaration is the first of its name if all before it have other names. -/
theorem mem_firsts_iff {d : Declaration} {ds : List Declaration} :
    d ∈ firsts ds ↔ ∃ before after, ds = before ++ d :: after ∧ ∀ e ∈ before, e.name ≠ d.name := by
  induction ds with
  | nil => simp [firsts]
  | cons e ds ih =>
    rw [firsts, List.mem_cons, List.mem_filter, ih]
    constructor
    · rintro (rfl | ⟨⟨before, after, rfl, hbefore⟩, hne⟩)
      · exact ⟨[], ds, rfl, fun e he => absurd he List.not_mem_nil⟩
      · refine ⟨e :: before, after, rfl, ?_⟩
        rw [List.forall_mem_cons]
        exact ⟨fun heq => by simp [heq] at hne, hbefore⟩
    · rintro ⟨before, after, heq, hbefore⟩
      cases before with
      | nil => exact .inl (List.cons.inj heq).1.symm
      | cons e' before =>
        obtain ⟨rfl, rfl⟩ := List.cons.inj heq
        rw [List.forall_mem_cons] at hbefore
        refine .inr ⟨⟨before, after, rfl, hbefore.2⟩, ?_⟩
        simpa using fun heq => hbefore.1 heq.symm

/-- Declarations that are collected one after another: what is there stays, and of the others the
first of each new name is added. -/
theorem map_foldl_putNew (t : Table String (Owner × Declaration))
    (pairs : List (Owner × Declaration)) :
    (pairs.foldl (fun t e => t.putNew e.2.name e) t).map (·.2.2) =
      t.map (·.2.2) ++ (firsts (pairs.map (·.2))).filter (fun d => !t.has d.name) := by
  induction pairs generalizing t with
  | nil => simp [firsts]
  | cons e pairs ih =>
    rw [List.foldl_cons, ih, List.map_cons, firsts, Table.putNew]
    by_cases hhas : t.has e.2.name = true
    · rw [if_pos hhas, List.filter_cons_of_neg (by simp [hhas]), List.filter_filter]
      refine congrArg _ (List.filter_congr fun d _ => ?_)
      by_cases hname : d.name = e.2.name
      · simp [hname, hhas]
      · simp [hname]
    · rw [if_neg hhas, List.filter_cons_of_pos (by simpa using hhas), List.filter_filter,
        List.map_append, List.append_assoc]
      refine congrArg _ (congrArg _ (List.filter_congr fun d _ => ?_))
      by_cases hname : d.name = e.2.name
      · simp [Table.has, hname]
      · simp [Table.has, hname, Ne.symm hname]

end Declaration

/-! ### Collecting -/

/-- Whether the annotations of the entity type that a class gives, if any, are a mapping. -/
def ClassDef.AnnotationsMap (c : ClassDef) : Prop :=
  ∀ m, c.members.get? annotationsMember = some m → ∃ id entries, m = .value (.dict id entries)

theorem ClassDef.exists_entityAnnotations_iff {c : ClassDef} :
    (∃ annotations, c.entityAnnotations = .ok annotations) ↔ c.AnnotationsMap := by
  rw [entityAnnotations, AnnotationsMap]
  cases c.members.get? annotationsMember with
  | none => exact ⟨fun _ m hm => (by cases hm), fun _ => ⟨[], rfl⟩⟩
  | some m =>
    simp only [Option.some.injEq, forall_eq']
    constructor
    · rintro ⟨annotations, h⟩
      split at h
      · next hm => cases hm
      · next id entries hm => exact ⟨id, entries, Option.some.inj hm⟩
      · cases h
    · rintro ⟨id, entries, rfl⟩
      exact ⟨entries, rfl⟩

/-- The entries of the annotations of the entity type that a class gives, if they are a mapping. -/
def ClassDef.annotationEntries (c : ClassDef) : List (Value × Value) :=
  match c.members.get? annotationsMember with
  | some (.value (.dict _ entries)) => entries
  | _ => []

theorem ClassDef.eq_annotationEntries {c : ClassDef} {annotations : List (Value × Value)}
    (h : c.entityAnnotations = .ok annotations) : annotations = c.annotationEntries := by
  rw [entityAnnotations] at h
  rw [annotationEntries]
  split at h
  · next hm =>
    rw [hm]
    exact (Except.ok.inj h).symm
  · next id entries hm =>
    rw [hm]
    exact (Except.ok.inj h).symm
  · cases h

namespace Catalog

variable {catalog : Catalog} {settings : Settings} {contract : ClassRef}

/-- The properties that a class declares itself, with the class. -/
def owned (catalog : Catalog) (ref : ClassRef) : List (Owner × Declaration) :=
  (catalog.declared (catalog.classes.definition ref)).map fun d =>
    (⟨ref, (catalog.classes.definition ref).qualname⟩, d)

/-- What a walk collects: the declarations and the annotations of the classes one after another, and
the methods of all of them. -/
theorem collectFrom_gathers {refs : List ClassRef} {c c' : Collected}
    (h : catalog.collectFrom c refs = .ok c') :
    c'.methods =
      refs.foldl (fun n ref => n + (catalog.classes.definition ref).methodCount) c.methods ∧
    c'.declared = (refs.flatMap catalog.owned).foldl (fun t e => t.putNew e.2.name e) c.declared ∧
    c'.annotations =
      (refs.flatMap fun ref => (catalog.classes.definition ref).annotationEntries).foldl
        (fun t a => Value.putNewEntry t a.1 a.2) c.annotations := by
  induction refs generalizing c with
  | nil =>
    obtain rfl := Except.ok.inj h
    exact ⟨rfl, rfl, rfl⟩
  | cons ref refs ih =>
    obtain ⟨own, hown, h⟩ := bind_eq_ok.1 h
    obtain ⟨annotations, hannotations, h⟩ := bind_eq_ok.1 h
    obtain ⟨-, rfl⟩ := declarations_eq_ok_iff.1 hown
    obtain rfl := ClassDef.eq_annotationEntries hannotations
    obtain ⟨hmethods, hdeclared, hentries⟩ := ih h
    refine ⟨hmethods, ?_, ?_⟩
    · rw [hdeclared, Collected.add, List.flatMap_cons, List.foldl_append, owned, List.foldl_map]
    · rw [hentries, Collected.add, List.flatMap_cons, List.foldl_append]

/-- Of the classes of a walk that was collected, each gave its declarations and its annotations. -/
theorem exists_of_collectFrom {refs : List ClassRef} {c c' : Collected}
    (h : catalog.collectFrom c refs = .ok c') :
    ∀ ref ∈ refs, (∃ own, catalog.declarations (catalog.classes.definition ref) = .ok own) ∧
      ∃ annotations, (catalog.classes.definition ref).entityAnnotations = .ok annotations := by
  induction refs generalizing c with
  | nil => exact fun ref href => absurd href List.not_mem_nil
  | cons ref refs ih =>
    obtain ⟨own, hown, h⟩ := bind_eq_ok.1 h
    obtain ⟨annotations, hannotations, h⟩ := bind_eq_ok.1 h
    exact List.forall_mem_cons.2 ⟨⟨⟨own, hown⟩, annotations, hannotations⟩, ih h⟩

/-- **When a walk can be collected.** -/
theorem exists_collectFrom_iff {refs : List ClassRef}
    (h : ∀ ref ∈ refs, catalog.HashableTypes (catalog.classes.definition ref)) (c : Collected) :
    (∃ c', catalog.collectFrom c refs = .ok c') ↔
      ∀ ref ∈ refs, catalog.Declarable (catalog.classes.definition ref) ∧
        (catalog.classes.definition ref).AnnotationsMap := by
  induction refs generalizing c with
  | nil => exact ⟨fun _ ref href => absurd href List.not_mem_nil, fun _ => ⟨c, rfl⟩⟩
  | cons ref refs ih =>
    rw [List.forall_mem_cons] at h
    rw [List.forall_mem_cons]
    constructor
    · rintro ⟨c', hok⟩
      obtain ⟨own, hown, hok⟩ := bind_eq_ok.1 hok
      obtain ⟨annotations, hannotations, hok⟩ := bind_eq_ok.1 hok
      exact ⟨⟨(declarations_eq_ok_iff.1 hown).1.1,
        ClassDef.exists_entityAnnotations_iff.1 ⟨annotations, hannotations⟩⟩,
        (ih h.2 _).1 ⟨c', hok⟩⟩
    · rintro ⟨⟨hdeclarable, hmap⟩, hrest⟩
      obtain ⟨annotations, hannotations⟩ := ClassDef.exists_entityAnnotations_iff.2 hmap
      obtain ⟨c', hok⟩ := (ih h.2 _).2 hrest
      exact ⟨c', bind_eq_ok.2
        ⟨_, declarations_eq_ok_iff.2 ⟨⟨hdeclarable, h.1.keyTyped⟩, rfl⟩,
          bind_eq_ok.2 ⟨annotations, hannotations, hok⟩⟩⟩

/-! ### Properties -/

theorem exists_property_iff {ordinal : ℕ} {owner : Owner} {d : Declaration} :
    (∃ p, catalog.property ordinal owner d = .ok p) ↔
      isReserved d.name = false ∧ ∀ directory, d.marker = some directory →
        (catalog.hooks.find directory).Resolves d.name d.mutable := by
  have hhooks := exists_mapM_option_iff (o := d.marker)
    (f := fun directory => (catalog.hooks.find directory).resolve d.name d.mutable)
  simp only [HookDirectory.exists_resolve_iff] at hhooks
  rw [← hhooks, property]
  cases isReserved d.name with
  | true =>
    constructor
    · rintro ⟨p, h⟩
      cases h
    · intro h
      cases h.1
  | false =>
    constructor
    · rintro ⟨p, h⟩
      obtain ⟨extension, hextension, -⟩ := bind_eq_ok.1 h
      exact ⟨rfl, extension, hextension⟩
    · rintro ⟨-, extension, hextension⟩
      exact ⟨_, bind_eq_ok.2 ⟨extension, hextension, rfl⟩⟩

theorem exists_propertiesFrom_iff {ordinal : ℕ} {declared : List (Owner × Declaration)} :
    (∃ ps, catalog.propertiesFrom ordinal declared = .ok ps) ↔
      ∀ e ∈ declared, isReserved e.2.name = false ∧ ∀ directory, e.2.marker = some directory →
        (catalog.hooks.find directory).Resolves e.2.name e.2.mutable := by
  induction declared generalizing ordinal with
  | nil => exact ⟨fun _ e he => absurd he List.not_mem_nil, fun _ => ⟨[], rfl⟩⟩
  | cons e declared ih =>
    obtain ⟨owner, d⟩ := e
    have hproperty : (∃ p, catalog.property ordinal owner d = .ok p) ↔ _ := exists_property_iff
    rw [List.forall_mem_cons, ← hproperty]
    constructor
    · rintro ⟨ps, h⟩
      obtain ⟨p, hp, h⟩ := bind_eq_ok.1 h
      obtain ⟨rest, hrest, -⟩ := bind_eq_ok.1 h
      exact ⟨⟨p, hp⟩, ih.1 ⟨rest, hrest⟩⟩
    · rintro ⟨⟨p, hp⟩, hrest⟩
      obtain ⟨rest, hrest⟩ := ih.2 hrest
      exact ⟨p :: rest, bind_eq_ok.2 ⟨p, hp, bind_eq_ok.2 ⟨rest, hrest, rfl⟩⟩⟩

/-! ### Contracts -/

theorem mem_inspected_iff {c : ClassRef} :
    c ∈ catalog.inspected contract ↔
      catalog.classes.Visits contract c ∧ c ≠ .notifyPropertyChanged := by
  rw [inspected, List.mem_filter, ClassGraph.mem_contracts_iff, decide_eq_true_eq]

theorem nodup_inspected (catalog : Catalog) (contract : ClassRef) :
    (catalog.inspected contract).Nodup :=
  (catalog.classes.nodup_contracts contract).filter _

/-- The winning declarations: of each name the first, in the order of the walk. -/
def winners (catalog : Catalog) (contract : ClassRef) : List Declaration :=
  Declaration.firsts ((catalog.inspected contract).flatMap fun c =>
    catalog.declared (catalog.classes.definition c))

/-- The methods of a contract: those of all visited classes. -/
def methods (catalog : Catalog) (contract : ClassRef) : ℕ :=
  (catalog.inspected contract).foldl (fun n c => n + (catalog.classes.definition c).methodCount) 0

/-- **Whether a contract is valid.** -/
structure Valid (catalog : Catalog) (settings : Settings) (contract : ClassRef) : Prop where
  not_compiled : ∀ a, catalog.classes.DerivesFrom contract a →
    (catalog.classes.definition a).isCompiled = false
  declarable : ∀ c, catalog.classes.Visits contract c → c ≠ .notifyPropertyChanged →
    catalog.Declarable (catalog.classes.definition c)
  few_methods : ∀ ratio, settings.methodRatio = some ratio →
    ratio.exceededBy
      (catalog.methods contract + 2 * ((catalog.winners contract).filter (·.mutable)).length +
        ((catalog.winners contract).filter (!·.mutable)).length)
      (catalog.winners contract).length = false
  names : ∀ d ∈ catalog.winners contract, isReserved d.name = false
  hooks : ∀ d ∈ catalog.winners contract, ∀ directory, d.marker = some directory →
    (catalog.hooks.find directory).Resolves d.name d.mutable

theorem guardRejects_eq_false_iff {methods properties : ℕ} :
    settings.guardRejects methods properties = false ↔
      ∀ ratio, settings.methodRatio = some ratio → ratio.exceededBy methods properties = false := by
  rw [Settings.guardRejects]
  cases settings.methodRatio with
  | none => simp
  | some ratio => simp

/-- What a walk over a contract collects are the winning declarations, and the methods. -/
theorem collected_eq {collected : Collected}
    (hcollected : catalog.collectFrom .empty (catalog.inspected contract) = .ok collected) :
    collected.declared.map (·.2.2) = catalog.winners contract ∧
      collected.declared.length = (catalog.winners contract).length ∧
      collected.methodCount = catalog.methods contract +
        2 * ((catalog.winners contract).filter (·.mutable)).length +
        ((catalog.winners contract).filter (!·.mutable)).length := by
  obtain ⟨hmethods, hdeclared, -⟩ := collectFrom_gathers hcollected
  have hwinners : collected.declared.map (·.2.2) = catalog.winners contract := by
    have hdeclarations : ((catalog.inspected contract).flatMap catalog.owned).map (·.2) =
        (catalog.inspected contract).flatMap fun c =>
          catalog.declared (catalog.classes.definition c) := by
      rw [List.map_flatMap]
      simp [owned]
    rw [hdeclared, Declaration.map_foldl_putNew, winners, hdeclarations]
    simp [Collected.empty, Table.has]
  have hlength : collected.declared.length = (catalog.winners contract).length := by
    rw [← hwinners, List.length_map]
  have hmutable : (collected.declared.filter (·.2.2.mutable)).length =
      ((catalog.winners contract).filter (·.mutable)).length := by
    rw [← hwinners, List.filter_map, List.length_map]
    rfl
  refine ⟨hwinners, hlength, ?_⟩
  have hsplit := List.length_eq_length_filter_add (l := catalog.winners contract) (·.mutable)
  rw [Collected.methodCount, Collected.accessorCount, hmethods, hlength, hmutable, methods]
  simp only [Collected.empty]
  omega

end Catalog

namespace Sample

/-- A contract of one property, with a value in the place of entity annotations. -/
def annotated (v : Value) : Catalog where
  classes := ⟨[{
    name := "IPoint", qualname := "IPoint", module := "points", bases := [.protocol]
    attributes := [("x", .plain .int)], members := [(ClassDef.annotationsMember, .value v)] }]⟩
  hooks := []

variable {v : Value}

theorem visits_annotated {c : ClassRef} (h : (annotated v).classes.Visits (.declared 0) c) :
    c = .declared 0 := by
  have hcontracts : (annotated v).classes.contracts (.declared 0) = [.declared 0] := rfl
  rw [← ClassGraph.mem_contracts_iff, hcontracts] at h
  exact List.mem_singleton.1 h

theorem hashableTypes_annotated (c : ClassRef)
    (h : (annotated v).classes.Visits (.declared 0) c) (_ : c ≠ .notifyPropertyChanged) :
    (annotated v).HashableTypes ((annotated v).classes.definition c) := by
  obtain rfl := visits_annotated h
  exact ⟨List.forall_mem_singleton.2 rfl, List.forall_mem_singleton.2 fun p hp => by cases hp⟩

theorem valid_annotated : (annotated v).Valid .default (.declared 0) := by
  have hancestors : (annotated v).classes.ancestors (.declared 0) =
      [.declared 0, .protocol, .generic, .object] := rfl
  have hwinners : (annotated v).winners (.declared 0) =
      [⟨"x", .plain .int, true, .int 0, none, []⟩] := rfl
  constructor
  · intro a ha
    rw [← ClassGraph.mem_ancestors_iff, hancestors] at ha
    simp only [List.mem_cons, List.not_mem_nil, or_false] at ha
    rcases ha with rfl | rfl | rfl | rfl <;> rfl
  · intro c hc _
    obtain rfl := visits_annotated hc
    constructor
    · exact List.forall_mem_singleton.2 rfl
    · exact List.forall_mem_singleton.2 fun p t hp => by cases hp
    · exact List.forall_mem_singleton.2 rfl
    · exact List.forall_mem_singleton.2 fun _ => rfl
    · exact List.forall_mem_singleton.2 fun p hp => by cases hp
    · exact List.forall_mem_singleton.2 fun _ u hu => by cases hu
  · -- one property, which is read and assigned
    rintro ratio ⟨⟩
    have hmethods : (annotated v).methods (.declared 0) = 0 := rfl
    rw [hwinners, hmethods]
    decide +kernel
  · rw [hwinners]
    exact List.forall_mem_singleton.2 (by decide)
  · rw [hwinners]
    exact List.forall_mem_singleton.2 fun directory h => by cases h

end Sample

end TrackedEntity
