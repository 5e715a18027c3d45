import TrackedEntity.Proofs.Contract.Descent
import TrackedEntity.Proofs.Contract.Discovery

/-!
# Empty contracts

A class that declares nothing and has one contract for a base, beside classes that never declare
anything, is an empty contract on top of that one (`ClassGraph.EmptyOn`).  Its walk is the class
itself and then the walk of the other contract, up to classes that declare nothing, and its line of
descent has the members of the other one's line in the same order.

So analysis gives the same schema for both, the contract apart, or fails with faults of one family
(`Catalog.related_analyze`).  The types that they compile to differ in the names that they take from
the contract, and in what entities read as their documentation and module, but in nothing else
(`Catalog.related_compileClass`).  Chains of empty contracts behave in the same way.
-/

namespace TrackedEntity

open Outcome

/-! ### Classes that declare nothing -/

namespace ClassGraph

variable {g : ClassGraph} {a b c d : ClassRef}

/-- Whether a class known from the start declares nothing: the classes at the top of every
hierarchy, and the mark of abstract classes. -/
def isBlank (c : ClassRef) : Bool := isHidden c || decide (c = .abstract)

/-- Whether a class is an empty contract on top of another one.  Its bases have a common order, or
it could not be declared. -/
structure EmptyOn (g : ClassGraph) (d c : ClassRef) : Prop where
  bases : ∃ before after, g.bases d = before ++ c :: after ∧
    ∀ b ∈ before ++ after, isBlank b = true
  attributes : (g.definition d).attributes = []
  members : (g.definition d).members = []
  inherits : g.lineage c ⊆ g.lineage d

theorem isBlank_of_derivesFrom (ha : isBlank a = true) (h : g.DerivesFrom a b) :
    isBlank b = true := by
  rw [isBlank, Bool.or_eq_true, decide_eq_true_eq] at ha ⊢
  rcases ha with ha | rfl
  · exact .inl (isHidden_of_derivesFrom ha h)
  · rcases h.cases_head with rfl | ⟨base, hbase, hb⟩
    · exact .inr rfl
    · obtain rfl := List.mem_singleton.1 hbase
      exact .inl (isHidden_of_derivesFrom rfl hb)

/-- Classes that declare nothing have no members but their documentation. -/
theorem entityMember?_of_isBlank (ha : isBlank a = true) {name : String}
    (hdoc : name ≠ ClassDef.docMember) : g.entityMember? name a = none := by
  cases a with
  | object =>
    obtain ⟨text, htext⟩ : ∃ text, (g.definition .object).members =
        [(ClassDef.docMember, .value (.str text))] := ⟨_, rfl⟩
    have hname : (ClassDef.docMember == name) = false := by simpa using Ne.symm hdoc
    rw [entityMember?, htext, List.findSome?_cons, hname]
    rfl
  | protocol | generic | abstract => rfl
  | notifyPropertyChanged | dataEntity | entityBase | declared i => cases ha

theorem isCompiled_of_isBlank (ha : isBlank a = true) : (g.definition a).isCompiled = false := by
  cases a with
  | object | protocol | generic | abstract => rfl
  | notifyPropertyChanged | dataEntity | entityBase | declared i => cases ha

namespace EmptyOn

variable (h : g.EmptyOn d c)
include h

theorem mem_bases : c ∈ g.bases d := by
  obtain ⟨before, after, hbases, -⟩ := h.bases
  rw [hbases]
  exact List.mem_append_right _ List.mem_cons_self

theorem ne_object : d ≠ .object := by
  rintro rfl
  exact absurd h.mem_bases List.not_mem_nil

theorem ne_notifyPropertyChanged : d ≠ .notifyPropertyChanged := by
  rintro rfl
  have hmembers := h.members
  obtain ⟨text, htext⟩ : ∃ text, (g.definition .notifyPropertyChanged).members =
      [(ClassDef.docMember, .value (.str text))] := ⟨_, rfl⟩
  rw [htext] at hmembers
  cases hmembers

theorem base_eq_or_isBlank (hb : b ∈ g.bases d) : b = c ∨ isBlank b = true := by
  obtain ⟨before, after, hbases, hblank⟩ := h.bases
  rw [hbases, List.mem_append, List.mem_cons] at hb
  rcases hb with hb | rfl | hb
  · exact .inr (hblank b (List.mem_append_left _ hb))
  · exact .inl rfl
  · exact .inr (hblank b (List.mem_append_right _ hb))

theorem contractBases_eq : g.contractBases d = g.bases d :=
  if_neg h.ne_notifyPropertyChanged

/-- Of the bases only the one contract is of interest. -/
theorem filter_bases {keep : ClassRef → Bool} (hblank : ∀ a, isBlank a = true → keep a = false) :
    (g.bases d).filter keep = [c].filter keep := by
  obtain ⟨before, after, hbases, hrest⟩ := h.bases
  have hnil : ∀ l : List ClassRef, (∀ b ∈ l, isBlank b = true) → l.filter keep = [] :=
    fun l hl => List.filter_eq_nil_iff.2 fun b hb => by simp [hblank b (hl b hb)]
  rw [hbases, List.filter_append, List.filter_cons,
    hnil before fun b hb => hrest b (List.mem_append_left _ hb),
    hnil after fun b hb => hrest b (List.mem_append_right _ hb)]
  simp [List.filter_cons]

/-- What the empty contract derives from is the contract itself, what the other one derives from, or
something that declares nothing. -/
theorem derivesFrom_cases (ha : g.DerivesFrom d a) :
    a = d ∨ g.DerivesFrom c a ∨ isBlank a = true := by
  rcases ha.cases_head with rfl | ⟨b, hb, ha⟩
  · exact .inl rfl
  · rcases h.base_eq_or_isBlank hb with rfl | hb
    · exact .inr (.inl ha)
    · exact .inr (.inr (isBlank_of_derivesFrom hb ha))

theorem isCompiled_eq : (g.definition d).isCompiled = false := by
  rw [ClassDef.isCompiled, h.members]
  rfl

theorem derivesFromCompiled_eq : g.derivesFromCompiled d = g.derivesFromCompiled c := by
  refine Bool.eq_iff_iff.2 (not_iff_not.1 ?_)
  rw [Bool.not_eq_true, Bool.not_eq_true, derivesFromCompiled_eq_false_iff,
    derivesFromCompiled_eq_false_iff]
  constructor
  · exact fun hd a ha => hd a (.head h.mem_bases ha)
  · intro hc a ha
    rcases h.derivesFrom_cases ha with rfl | ha | ha
    · exact h.isCompiled_eq
    · exact hc a ha
    · exact isCompiled_of_isBlank ha

/-! ### The walk and the line -/

end EmptyOn

/-- Whether a class may declare something and is not a given one. -/
def declaresBeside (d a : ClassRef) : Bool := !isBlank a && decide (a ≠ d)

theorem declaresBeside_eq_false_iff : declaresBeside d a = false ↔ isBlank a = true ∨ a = d := by
  simp only [declaresBeside, Bool.and_eq_false_iff, Bool.not_eq_false', decide_eq_false_iff_not,
    not_not]

theorem declaresBeside_eq_false_of_isBlank (ha : isBlank a = true) : declaresBeside d a = false :=
  declaresBeside_eq_false_iff.2 (.inl ha)

namespace EmptyOn

variable (hg : g.Ordered) (h : g.EmptyOn d c)
include hg h

theorem leavesOut {queue : List ClassRef} (hqueue : ∀ a ∈ queue, a ∈ g.bases d) :
    Walk.LeavesOut g.contractBases isHidden (declaresBeside d) queue := by
  intro a ha b hab hshown hkeep
  rcases declaresBeside_eq_false_iff.1 hkeep with hblank | rfl
  · -- of those that declare nothing only the mark of abstract classes is shown
    rw [isBlank, hshown, Bool.false_or, decide_eq_true_eq] at hblank
    subst hblank
    rfl
  · -- the empty contract is not found again from its bases
    have hderives : g.DerivesFrom a b :=
      Relation.ReflTransGen.mono (fun x _ hx => (g.contractBases_sublist x).subset hx) _ _ hab
    exact absurd hderives (hg.not_derivesFrom_of_mem_bases (hqueue a ha))

/-- **The walk over an empty contract is that over the other one**, up to classes that declare
nothing. -/
theorem filter_contracts :
    (g.contracts d).filter (declaresBeside d) = (g.contracts c).filter (declaresBeside d) := by
  obtain ⟨n, -, hd⟩ := g.exists_runs_contracts d
  obtain ⟨m, -, hc⟩ := g.exists_runs_contracts c
  cases hhidden : isHidden d with
  | true =>
    have hhidden' : isHidden c = true := g.isHidden_of_mem_bases hhidden h.mem_bases
    rw [hd.eq_nil hhidden, hc.eq_nil hhidden']
  | false =>
    generalize hvisited : g.contracts d = visited at hd
    cases hd with
    | skip hskip => simp [hhidden] at hskip
    | @visit _ _ _ visited _ _ _ hrest =>
      rw [List.nil_append, h.contractBases_eq] at hrest
      have hself : declaresBeside d d = false := declaresBeside_eq_false_iff.2 (.inr rfl)
      rw [List.filter_cons_of_neg (by simp [hself])]
      refine hrest.filter_eq hc (h.leavesOut hg fun a ha => ha)
        (h.leavesOut hg fun a ha => List.mem_singleton.1 ha ▸ h.mem_bases) (fun _ _ => rfl)
        (fun _ _ => rfl) (h.filter_bases fun _ => declaresBeside_eq_false_of_isBlank) ?_
      rw [List.filter_cons_of_neg (by simp [hself]), List.filter_nil]

/-- **The line of an empty contract is that of the other one**, up to classes that declare
nothing. -/
theorem filter_lineage :
    (g.lineage d).filter (declaresBeside d) = (g.lineage c).filter (declaresBeside d) := by
  have hd := hg.lineage_eq (g.mem_refs_of_bases (List.ne_nil_of_mem h.mem_bases))
  have hnot : d ∉ g.lineage c := fun hmem =>
    hg.not_derivesFrom_of_mem_bases h.mem_bases (hg.derivesFrom_of_mem_lineage hmem)
  -- the line of the other one stands behind the empty contract as a whole
  have hsub : (g.lineage c).Sublist (g.lineage d) := by
    have hinherits := h.inherits
    rw [hd, Lineage.ofBases] at hinherits ⊢
    refine (Lineage.sublist_mergeWithin ?_ fun x hx => ?_).cons d
    · exact List.mem_append_left _ (List.mem_map_of_mem h.mem_bases)
    · exact (List.mem_cons.1 (hinherits hx)).resolve_left fun hxd => hnot (hxd ▸ hx)
  -- so what else is there is not of interest
  refine ((hsub.filter (declaresBeside d)).eq_of_length_le ?_).symm
  have hnodup : ((g.lineage d).filter (declaresBeside d)).Nodup :=
    (hg.nodup_lineage d).filter _
  refine (hnodup.subperm fun a ha => ?_).length_le
  obtain ⟨hmem, hkeep⟩ := List.mem_filter.1 ha
  refine List.mem_filter.2 ⟨?_, hkeep⟩
  obtain ⟨hblank, hne⟩ : isBlank a = false ∧ a ≠ d := by
    simpa [declaresBeside] using hkeep
  have hbase : ∀ b ∈ g.bases d, g.DerivesFrom b a → b = c := by
    intro b hb ha
    refine (h.base_eq_or_isBlank hb).resolve_right fun hb => ?_
    rw [isBlank_of_derivesFrom hb ha] at hblank
    cases hblank
  rw [hd] at hmem
  obtain ⟨line, hline, hmem⟩ :=
    Lineage.exists_mem_of_mem_mergeWithin ((List.mem_cons.1 hmem).resolve_left hne)
  rcases List.mem_append.1 hline with hline | hline
  · obtain ⟨b, hb, rfl⟩ := List.mem_map.1 hline
    rwa [← hbase b hb (hg.derivesFrom_of_mem_lineage hmem)]
  · obtain rfl := List.mem_singleton.1 hline
    rw [hbase a hmem .refl]
    exact hg.mem_lineage_self c

/-- **Entities read the same from an empty contract and from the other one**, the documentation and
the module apart. -/
theorem get?_constants_eq {name : String} (hname : ClassDef.isOwn name = false) :
    (g.constants d).get? name = (g.constants c).get? name := by
  have hdoc : name ≠ ClassDef.docMember := by
    rintro rfl
    cases hname
  -- in either line only the classes of interest have members
  have hfilter : ∀ line : List ClassRef, line.findSome? (g.entityMember? name) =
      (line.filter (declaresBeside d)).findSome? (g.entityMember? name) := by
    intro line
    induction line with
    | nil => rfl
    | cons a line ih =>
      cases hkeep : declaresBeside d a with
      | true =>
        rw [List.filter_cons_of_pos hkeep, List.findSome?_cons, List.findSome?_cons, ih]
      | false =>
        have hnone : g.entityMember? name a = none := by
          rcases declaresBeside_eq_false_iff.1 hkeep with ha | rfl
          · exact entityMember?_of_isBlank ha hdoc
          · rw [entityMember?, h.members, List.findSome?_nil]
        rw [List.filter_cons_of_neg (by simp [hkeep]), List.findSome?_cons, hnone, ih]
  rw [get?_constants g d hname, get?_constants g c hname, hfilter, h.filter_lineage hg, ← hfilter]

end EmptyOn

end ClassGraph

/-! ### Analysis -/

/-- Whether two schemas are about the same properties and annotations, for contracts that may be
different ones. -/
structure Schema.Resembles (s s' : Schema) : Prop where
  properties : s'.properties = s.properties
  needsNotification : s'.needsNotification = s.needsNotification
  annotations : s'.annotations = s.annotations

theorem Schema.Resembles.refl (s : Schema) : s.Resembles s := ⟨rfl, rfl, rfl⟩

theorem Schema.Resembles.trans {s s' s'' : Schema} (h : s.Resembles s') (h' : s'.Resembles s'') :
    s.Resembles s'' :=
  ⟨h'.properties.trans h.properties, h'.needsNotification.trans h.needsNotification,
    h'.annotations.trans h.annotations⟩

/-- Whether two compiled types differ only in what they have from the contract itself: its names,
its documentation and its module. -/
structure CompiledType.Resembles (t t' : CompiledType) : Prop where
  schema : t.schema.Resembles t'.schema
  bare : t'.schema.contract = .object ↔ t.schema.contract = .object
  tokens : t'.tokens = t.tokens
  names : t'.names = t.names
  layout : t'.layout = t.layout
  defaults : t'.defaults = t.defaults
  constants : ClassDef.ReadAlike t.constants t'.constants

theorem CompiledType.Resembles.refl (t : CompiledType) : t.Resembles t :=
  ⟨.refl _, Iff.rfl, rfl, rfl, rfl, rfl, fun _ _ => rfl, fun _ => rfl⟩

theorem CompiledType.Resembles.trans {t t' t'' : CompiledType} (h : t.Resembles t')
    (h' : t'.Resembles t'') : t.Resembles t'' where
  schema := h.schema.trans h'.schema
  bare := h'.bare.trans h.bare
  tokens := h'.tokens.trans h.tokens
  names := h'.names.trans h.names
  layout := h'.layout.trans h.layout
  defaults := h'.defaults.trans h.defaults
  constants.get?_eq name hname :=
    (h'.constants.get?_eq name hname).trans (h.constants.get?_eq name hname)
  constants.isSome_eq name := (h'.constants.isSome_eq name).trans (h.constants.isSome_eq name)

/-- Whether two faults are of one family. -/
def Fault.SameKind (f f' : Fault) : Prop := f'.kind = f.kind

theorem Fault.SameKind.refl (f : Fault) : f.SameKind f := rfl

theorem Fault.SameKind.trans {f f' f'' : Fault} (h : f.SameKind f') (h' : f'.SameKind f'') :
    f.SameKind f'' :=
  Eq.trans h' h

namespace Catalog

variable {catalog : Catalog} {settings : Settings} {c d : ClassRef}

/-- Classes that declare nothing may be left out of what is collected. -/
theorem collectFrom_filter {keep : ClassRef → Bool} {refs : List ClassRef}
    (h : ∀ a ∈ refs, keep a = false →
      (catalog.classes.definition a).attributes = [] ∧
        (catalog.classes.definition a).members = []) (collected : Collected) :
    catalog.collectFrom collected (refs.filter keep) = catalog.collectFrom collected refs := by
  induction refs generalizing collected with
  | nil => rfl
  | cons a refs ih =>
    rw [List.forall_mem_cons] at h
    cases hkeep : keep a with
    | true =>
      rw [List.filter_cons_of_pos hkeep]
      simp only [collectFrom, ih h.2]
    | false =>
      obtain ⟨hattributes, hmembers⟩ := h.1 hkeep
      have hown : catalog.declarations (catalog.classes.definition a) = .ok [] := by
        rw [declarations, hmembers, hattributes]
        rfl
      have hannotations : (catalog.classes.definition a).entityAnnotations = .ok [] := by
        rw [ClassDef.entityAnnotations, hmembers]
        rfl
      have hadd : collected.add a (catalog.classes.definition a) [] [] = collected := by
        rw [Collected.add, ClassDef.methodCount, hmembers]
        rfl
      rw [List.filter_cons_of_neg (by simp [hkeep]), ih h.2, collectFrom, hown, hannotations]
      dsimp only [bind, Except.bind]
      rw [hadd]

variable (hg : catalog.classes.Ordered) (h : catalog.classes.EmptyOn d c)
include hg h

theorem filter_inspected :
    (catalog.inspected d).filter (ClassGraph.declaresBeside d) =
      (catalog.inspected c).filter (ClassGraph.declaresBeside d) := by
  rw [inspected, inspected, List.filter_comm, h.filter_contracts hg, List.filter_comm]

theorem collectFrom_inspected :
    catalog.collectFrom .empty (catalog.inspected d) =
      catalog.collectFrom .empty (catalog.inspected c) := by
  -- what is of no interest among the classes of a walk declares nothing
  have hidle : ∀ contract, ∀ a ∈ catalog.inspected contract,
      ClassGraph.declaresBeside d a = false →
      (catalog.classes.definition a).attributes = [] ∧
        (catalog.classes.definition a).members = [] := by
    intro contract a ha hkeep
    rcases ClassGraph.declaresBeside_eq_false_iff.1 hkeep with hblank | rfl
    · have hshown := catalog.classes.isHidden_of_mem_contracts (List.mem_filter.1 ha).1
      rw [ClassGraph.isBlank, hshown, Bool.false_or, decide_eq_true_eq] at hblank
      subst hblank
      exact ⟨rfl, rfl⟩
    · exact ⟨h.attributes, h.members⟩
  rw [← collectFrom_filter (hidle d), filter_inspected hg h, collectFrom_filter (hidle c)]

theorem contains_contracts :
    (catalog.classes.contracts d).contains .notifyPropertyChanged =
      (catalog.classes.contracts c).contains .notifyPropertyChanged := by
  have hkeep : ClassGraph.declaresBeside d .notifyPropertyChanged = true := by
    simpa [ClassGraph.declaresBeside, ClassGraph.isBlank, ClassGraph.isHidden] using
      h.ne_notifyPropertyChanged.symm
  have hmem : ∀ a, .notifyPropertyChanged ∈ catalog.classes.contracts a ↔
      .notifyPropertyChanged ∈
        (catalog.classes.contracts a).filter (ClassGraph.declaresBeside d) :=
    fun a => by rw [List.mem_filter, and_iff_left hkeep]
  rw [Bool.eq_iff_iff, List.contains_iff_mem, List.contains_iff_mem, hmem d, hmem c,
    h.filter_contracts hg]

/-- **Analysis of an empty contract goes as that of the other one**: it fails with a fault of the
same family, or gives the same schema but for the contract itself. -/
theorem related_analyze_emptyOn (settings : Settings) :
    Related Fault.SameKind (fun s s' => s.contract = c ∧ s' = { s with contract := d })
      (catalog.analyze settings c) (catalog.analyze settings d) := by
  unfold analyze
  rw [h.derivesFromCompiled_eq, collectFrom_inspected hg h, contains_contracts hg h]
  dsimp only
  split
  · exact .fails rfl
  refine Related.bind_self Fault.SameKind.refl _ fun collected => ?_
  split
  · exact .fails rfl
  exact Related.bind_self Fault.SameKind.refl _ fun properties => .succeeds ⟨rfl, rfl⟩

/-- **What compiles from an empty contract resembles what compiles from the other one.** -/
theorem related_compileClass_emptyOn (hc : c ≠ .object) (settings : Settings) :
    Related Fault.SameKind CompiledType.Resembles
      (catalog.compileClass settings c) (catalog.compileClass settings d) := by
  unfold compileClass
  refine (related_analyze_emptyOn hg h settings).bind ?_
  rintro s _ ⟨rfl, rfl⟩
  refine Related.bind_self Fault.SameKind.refl _ fun layout => ?_
  refine Related.bind_self Fault.SameKind.refl _ fun tokens => ?_
  refine .succeeds ⟨⟨rfl, rfl, rfl⟩, ?_, rfl, rfl, rfl, rfl, ⟨?_, ?_⟩⟩
  · exact iff_of_false h.ne_object hc
  · exact fun name hname => h.get?_constants_eq hg hname
  · intro name
    cases hname : ClassDef.isOwn name with
    | true =>
      exact (catalog.classes.isSome_get?_constants d hname).trans
        (catalog.classes.isSome_get?_constants s.contract hname).symm
    | false => exact congrArg Option.isSome (h.get?_constants_eq hg hname)

omit hg h in
/-- What stands above a contract in a chain of empty ones is not the bare class. -/
theorem ne_object_of_chain (hchain : Relation.ReflTransGen catalog.classes.EmptyOn d c)
    (hc : c ≠ .object) : d ≠ .object := by
  rcases hchain.cases_head with rfl | ⟨e, hde, -⟩
  · exact hc
  · exact hde.ne_object

omit h in
/-- **A chain of empty contracts changes nothing about the schema** but the contract. -/
theorem related_analyze (hchain : Relation.ReflTransGen catalog.classes.EmptyOn d c)
    (settings : Settings) :
    Related Fault.SameKind Schema.Resembles
      (catalog.analyze settings c) (catalog.analyze settings d) := by
  induction hchain using Relation.ReflTransGen.head_induction_on with
  | refl => exact Related.refl Fault.SameKind.refl Schema.Resembles.refl _
  | head hde _ ih =>
    refine ih.trans (related_analyze_emptyOn hg hde settings) Fault.SameKind.trans ?_
    rintro s s' _ hs ⟨-, rfl⟩
    exact hs.trans ⟨rfl, rfl, rfl⟩

omit h in
/-- **A chain of empty contracts changes nothing about the compiled type** but what it has from the
contract itself. -/
theorem related_compileClass (hchain : Relation.ReflTransGen catalog.classes.EmptyOn d c)
    (hc : c ≠ .object) (settings : Settings) :
    Related Fault.SameKind CompiledType.Resembles
      (catalog.compileClass settings c) (catalog.compileClass settings d) := by
  induction hchain using Relation.ReflTransGen.head_induction_on with
  | refl => exact Related.refl Fault.SameKind.refl CompiledType.Resembles.refl _
  | head hde hec ih =>
    exact ih.trans (related_compileClass_emptyOn hg hde (ne_object_of_chain hec hc) settings)
      Fault.SameKind.trans CompiledType.Resembles.trans

end Catalog

end TrackedEntity
