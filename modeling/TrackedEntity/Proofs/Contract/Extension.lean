import Mathlib.Data.List.GetD
import TrackedEntity.Compiled.Mention
import TrackedEntity.Proofs.Contract.Reachability
import TrackedEntity.Proofs.Table

/-!
# Classes that come later

A class that was compiled from a contract is a class itself: it stands in the graph after all the
others, and may in turn be given as a contract.  That a graph goes on after its own classes is
`ClassGraph.ExtendedBy`; the new classes derive from the class of all entities, and so none of them
is known by name.

Nothing of this is seen from the old classes, as long as their bases are among them
(`ClassGraph.Closed`): they have the same definitions, the same ancestors, the same walks and the
same lines of descent, names stand for the same types, and hence they compile to the same types or
fail with the same faults (`Catalog.compileClass_of_extendedBy`).  The walks of the larger graph
have more fuel, which makes no difference where the fuel of the smaller one was enough.
-/

namespace TrackedEntity

/-! ### Walks -/

namespace Walk

variable {α : Type u} [DecidableEq α] {next next' : α → List α} {hidden : α → Bool}

/-- Where two graphs agree, and no edge leads out, walks are the same with any fuel that is
enough. -/
theorem walkWithin_eq_of_agree {P : α → Prop} (hclosed : ∀ a, P a → ∀ b ∈ next a, P b)
    (hagree : ∀ a, P a → next' a = next a) {nodes : Finset α}
    (hnodes : ∀ a, next a ≠ [] → a ∈ nodes) {fuel fuel' : ℕ} {queue seen : List α}
    (hqueue : ∀ a ∈ queue, P a) (hfuel : queue.length + pending next nodes seen ≤ fuel)
    (hle : fuel ≤ fuel') :
    walkWithin next' hidden fuel' queue seen = walkWithin next hidden fuel queue seen := by
  fun_induction walkWithin next hidden fuel queue seen generalizing fuel' with
  | case1 queue seen =>
    obtain rfl : queue = [] := List.eq_nil_of_length_eq_zero (by omega)
    cases fuel' <;> rfl
  | case2 => cases fuel' <;> rfl
  | case3 fuel node queue seen hskip ih =>
    obtain ⟨fuel', rfl⟩ : ∃ k, fuel' = k + 1 := ⟨fuel' - 1, by omega⟩
    rw [walkWithin, if_pos hskip]
    refine ih (fun a ha => hqueue a (List.mem_cons_of_mem _ ha)) ?_ (by omega)
    rw [List.length_cons] at hfuel
    omega
  | case4 fuel node queue seen hvisit ih =>
    obtain ⟨fuel', rfl⟩ : ∃ k, fuel' = k + 1 := ⟨fuel' - 1, by omega⟩
    have hnode : node ∉ seen := fun hmem => hvisit (by simp [hmem])
    have hpending := pending_cons hnodes hnode
    have hP := hqueue node List.mem_cons_self
    -- both go on with the same neighbours, which stay where the graphs agree
    rw [walkWithin, if_neg hvisit, hagree node hP]
    refine congrArg _ (ih (fun a ha => ?_) ?_ (by omega))
    · rcases List.mem_append.1 ha with ha | ha
      · exact hqueue a (List.mem_cons_of_mem _ ha)
      · exact hclosed node hP a ha
    · rw [List.length_cons] at hfuel
      rw [List.length_append]
      omega

end Walk

/-! ### Lines of descent -/

namespace Lineage

variable {α : Type u} [BEq α]

/-- A common order of lines has only what stands in one of them. -/
theorem exists_mem_of_mem_mergeWithin {fuel : ℕ} {lines : List (List α)} {x : α}
    (h : x ∈ mergeWithin fuel lines) : ∃ line ∈ lines, x ∈ line := by
  fun_induction mergeWithin fuel lines with
  | case1 => cases h
  | case2 => cases h
  | case3 fuel lines y hnext ih =>
    rcases List.mem_cons.1 h with rfl | h
    · obtain ⟨line, hline, hhead⟩ := List.mem_filterMap.1 (List.mem_of_find?_eq_some hnext)
      exact ⟨line, hline, List.mem_of_mem_head? hhead⟩
    · obtain ⟨line', hline', hmem⟩ := ih h
      obtain ⟨line, hline, rfl⟩ := List.mem_map.1 hline'
      exact ⟨line, hline, mem_of_mem_advance hmem⟩

/-- What holds of a class, of its bases and of whatever stands in their lines holds of its whole
line. -/
theorem of_mem_ofBases {P : α → Prop} {node : α} {bases : List α} {lineage : α → List α}
    (hnode : P node) (hbases : ∀ b ∈ bases, P b) (hlines : ∀ b ∈ bases, ∀ a ∈ lineage b, P a)
    {x : α} (h : x ∈ ofBases node bases lineage) : P x := by
  rcases List.mem_cons.1 h with rfl | h
  · exact hnode
  · obtain ⟨line, hline, hmem⟩ := exists_mem_of_mem_mergeWithin h
    rcases List.mem_append.1 hline with hline | hline
    · obtain ⟨b, hb, rfl⟩ := List.mem_map.1 hline
      exact hlines b hb x hmem
    · obtain rfl := List.mem_singleton.1 hline
      exact hbases x hmem

end Lineage

/-! ### Graphs that go on -/

namespace ClassGraph

variable {g g' : ClassGraph} {c : ClassRef}

/-- Whether the bases of all classes are classes of the graph. -/
def Closed (g : ClassGraph) : Prop := ∀ c ∈ g.refs, ∀ b ∈ g.bases c, b ∈ g.refs

instance (g : ClassGraph) : Decidable g.Closed :=
  inferInstanceAs (Decidable (∀ c ∈ g.refs, ∀ b ∈ g.bases c, b ∈ g.refs))

theorem Closed.mem_refs_of_derivesFrom (hg : g.Closed) (hc : c ∈ g.refs) {a : ClassRef}
    (h : g.DerivesFrom c a) : a ∈ g.refs := by
  induction h with
  | refl => exact hc
  | tail _ hbase ih => exact hg _ ih _ hbase

theorem contractBases_sublist (g : ClassGraph) (c : ClassRef) :
    (g.contractBases c).Sublist (g.bases c) := by
  rw [contractBases]
  split
  · exact List.nil_sublist _
  · exact List.Sublist.refl _

theorem Closed.mem_refs_of_contracts (hg : g.Closed) (hc : c ∈ g.refs) {a : ClassRef}
    (h : a ∈ g.contracts c) : a ∈ g.refs := by
  have hvisits := (g.mem_contracts_iff.1 h).2
  clear h
  induction hvisits with
  | refl => exact hc
  | tail _ hfollows ih => exact hg _ ih _ ((g.contractBases_sublist _).subset hfollows.1)

/-- Whether a graph goes on after the classes of another, with classes that derive from the class
of all entities. -/
def ExtendedBy (g g' : ClassGraph) : Prop :=
  ∃ added : List ClassDef, g'.classes = g.classes ++ added ∧
    ∀ c ∈ added, c.bases.contains .entityBase = true

/-- One step of `lineages`: the line of a class, when the lines of the classes before are known. -/
def addLineage (g : ClassGraph) (found : Table ClassRef (List ClassRef)) (c : ClassRef) :
    Table ClassRef (List ClassRef) :=
  found ++ [(c, Lineage.ofBases c (g.bases c) fun b => (Table.get? found b).getD [b])]

theorem lineages_eq_foldl (g : ClassGraph) : g.lineages = g.refs.foldl g.addLineage [] := rfl

theorem exists_foldl_addLineage (refs : List ClassRef) (found : Table ClassRef (List ClassRef)) :
    ∃ more, refs.foldl g.addLineage found = found ++ more ∧ Table.keys more = refs := by
  induction refs generalizing found with
  | nil => exact ⟨[], (List.append_nil _).symm, rfl⟩
  | cons c refs ih =>
    obtain ⟨more, hmore, hkeys⟩ := ih (g.addLineage found c)
    rw [List.foldl_cons, hmore, addLineage, List.append_assoc, List.singleton_append]
    exact ⟨_, rfl, congrArg (c :: ·) hkeys⟩

/-- The lines of the classes of a closed graph stay among its classes. -/
theorem Closed.mem_refs_of_lineages (hg : g.Closed) {line : List ClassRef}
    (h : (c, line) ∈ g.lineages) : ∀ a ∈ line, a ∈ g.refs := by
  -- by induction on the classes that are still to come, whatever was found before
  have hstep : ∀ (refs : List ClassRef) (found : Table ClassRef (List ClassRef)),
      (∀ c ∈ refs, c ∈ g.refs) → (∀ e ∈ found, ∀ a ∈ e.2, a ∈ g.refs) →
      ∀ e ∈ refs.foldl g.addLineage found, ∀ a ∈ e.2, a ∈ g.refs := by
    intro refs found hrefs hfound
    induction refs generalizing found with
    | nil => exact hfound
    | cons c refs ih =>
      obtain ⟨hc, hrefs⟩ := List.forall_mem_cons.1 hrefs
      refine ih (g.addLineage found c) hrefs fun e he => ?_
      rcases List.mem_append.1 he with he | he
      · exact hfound e he
      · obtain rfl := List.mem_singleton.1 he
        intro a ha
        refine Lineage.of_mem_ofBases hc (hg c hc) (fun b hb x hx => ?_) ha
        cases hline : Table.get? found b with
        | none =>
          rw [hline] at hx
          obtain rfl := List.mem_singleton.1 hx
          exact hg c hc x hb
        | some line =>
          rw [hline] at hx
          exact hfound (b, line) (Table.mem_of_get? hline) x hx
  exact hstep g.refs [] (fun c hc => hc) (fun e he => nomatch he) _ h

namespace ExtendedBy

variable (hext : g.ExtendedBy g')

theorem refl (g : ClassGraph) : g.ExtendedBy g :=
  ⟨[], (List.append_nil _).symm, fun _ hc => nomatch hc⟩

include hext in
theorem trans {g'' : ClassGraph} (hext' : g'.ExtendedBy g'') : g.ExtendedBy g'' := by
  obtain ⟨added, hadded, hbases⟩ := hext
  obtain ⟨added', hadded', hbases'⟩ := hext'
  refine ⟨added ++ added', by rw [hadded', hadded, List.append_assoc], fun c hc => ?_⟩
  exact (List.mem_append.1 hc).elim (hbases c) (hbases' c)

include hext in
/-- The classes of the larger graph are those of the smaller one and others after them. -/
theorem exists_refs : ∃ more, g'.refs = g.refs ++ more := by
  obtain ⟨added, hadded, -⟩ := hext
  rw [refs, refs, hadded, List.length_append, List.range_add, List.map_append, ← List.append_assoc]
  exact ⟨_, rfl⟩

include hext in
theorem mem_refs (hc : c ∈ g.refs) : c ∈ g'.refs := by
  obtain ⟨more, hmore⟩ := hext.exists_refs
  rw [hmore]
  exact List.mem_append_left _ hc

include hext in
theorem definition_eq (hc : c ∈ g.refs) : g'.definition c = g.definition c := by
  cases c with
  | declared i =>
    have hi : i < g.classes.length := by simpa [refs, known] using hc
    obtain ⟨added, hadded, -⟩ := hext
    rw [definition, definition, hadded, List.getD_append _ _ _ _ hi]
  | object | protocol | generic | abstract | notifyPropertyChanged | dataEntity | entityBase => rfl

include hext in
theorem bases_eq (hc : c ∈ g.refs) : g'.bases c = g.bases c :=
  congrArg ClassDef.bases (hext.definition_eq hc)

include hext in
/-- Names stand for the same classes. -/
theorem names_eq : g'.names = g.names := by
  funext name
  obtain ⟨added, hadded, hbases⟩ := hext
  -- a class that derives from the class of all entities is not found by its name
  have hnone : (added.any fun c => c.name == name && !c.bases.contains .entityBase) = false := by
    rw [List.any_eq_false]
    intro c hc
    rw [hbases c hc, Bool.not_true, Bool.and_false]
    exact Bool.false_ne_true
  rw [names, names, hadded, List.any_append, hnone, Bool.or_false]

include hext in
theorem edges_le : g.edges ≤ g'.edges := by
  obtain ⟨more, hmore⟩ := hext.exists_refs
  have hbases : g.refs.flatMap g'.bases = g.refs.flatMap g.bases :=
    List.flatMap_congr fun _ hc => hext.bases_eq hc
  rw [edges, edges, hmore, List.flatMap_append, hbases, List.length_append]
  exact Nat.le_add_right _ _

variable (hg : g.Closed)

include hext hg

/-- Walks over some of the bases are the same from a class of the smaller graph. -/
theorem walk_eq {next next' : ClassRef → List ClassRef} (hidden : ClassRef → Bool)
    (hnext : ∀ c, (next c).Sublist (g.bases c)) (hagree : ∀ c ∈ g.refs, next' c = next c)
    (hc : c ∈ g.refs) :
    Walk.walk next' hidden g'.edges c = Walk.walk next hidden g.edges c := by
  have hclosed : ∀ a ∈ g.refs, ∀ b ∈ next a, b ∈ g.refs :=
    fun a ha b hb => hg a ha b ((hnext a).subset hb)
  have hnodes : ∀ a, next a ≠ [] → a ∈ g.refs.toFinset := by
    refine fun a ha => List.mem_toFinset.2 (g.mem_refs_of_bases fun hnil => ha ?_)
    exact List.eq_nil_of_sublist_nil (hnil ▸ hnext a)
  have hedges : ∑ a ∈ g.refs.toFinset, (next a).length ≤ g.edges :=
    (Finset.sum_le_sum fun a _ => (hnext a).length_le).trans g.sum_length_bases.le
  have hqueue : ∀ a ∈ [c], a ∈ g.refs := by
    rintro a ha
    rwa [List.mem_singleton.1 ha]
  refine Walk.walkWithin_eq_of_agree hclosed hagree hnodes hqueue ?_
    (Nat.add_le_add_right hext.edges_le 1)
  simp only [Walk.pending, List.not_mem_nil, not_false_eq_true, Finset.filter_true,
    List.length_singleton]
  omega

theorem ancestors_eq (hc : c ∈ g.refs) : g'.ancestors c = g.ancestors c :=
  hext.walk_eq hg _ (fun _ => List.Sublist.refl _) (fun _ hc => hext.bases_eq hc) hc

theorem contracts_eq (hc : c ∈ g.refs) : g'.contracts c = g.contracts c := by
  refine hext.walk_eq hg _ g.contractBases_sublist (fun c hc => ?_) hc
  rw [contractBases, contractBases, hext.bases_eq hc]

theorem derivesFromCompiled_eq (hc : c ∈ g.refs) :
    g'.derivesFromCompiled c = g.derivesFromCompiled c := by
  have hcompiled : ∀ a ∈ g.ancestors c,
      (g'.definition a).isCompiled = (g.definition a).isCompiled := by
    intro a ha
    rw [hext.definition_eq (hg.mem_refs_of_derivesFrom hc (g.mem_ancestors_iff.1 ha))]
  rw [derivesFromCompiled, derivesFromCompiled, hext.ancestors_eq hg hc, Bool.eq_iff_iff,
    List.any_eq_true, List.any_eq_true]
  exact exists_congr fun a => and_congr_right fun ha => by rw [hcompiled a ha]

omit hg in
/-- The lines of the classes of the smaller graph are found first in the larger one. -/
theorem get?_lineages (hc : c ∈ g.refs) :
    Table.get? g'.lineages c = Table.get? g.lineages c := by
  obtain ⟨more, hmore⟩ := hext.exists_refs
  -- the smaller graph comes first, and then lines are only added at the end
  have hsame : g.refs.foldl g'.addLineage [] = g.lineages := by
    refine List.foldl_ext _ _ _ fun found c hc => ?_
    show g'.addLineage found c = g.addLineage found c
    rw [addLineage, addLineage, hext.bases_eq hc]
  obtain ⟨lines, hlines, -⟩ := exists_foldl_addLineage (g := g') more g.lineages
  obtain ⟨known, hknown, hkeys⟩ := exists_foldl_addLineage (g := g) g.refs []
  have hline : (Table.get? g.lineages c).isSome = true := by
    by_contra hnone
    rw [Bool.not_eq_true, Option.isSome_eq_false_iff, Option.isNone_iff_eq_none,
      Table.get?_eq_none_iff, lineages_eq_foldl, hknown, List.nil_append, hkeys] at hnone
    exact hnone hc
  obtain ⟨line, hline⟩ := Option.isSome_iff_exists.1 hline
  rw [lineages_eq_foldl g', hmore, List.foldl_append, hsame, hlines, Table.get?,
    List.lookup_append, ← Table.get?, hline, Option.some_or]

theorem constants_eq (hc : c ∈ g.refs) : g'.constants c = g.constants c := by
  have hmembers : ∀ a ∈ (Table.get? g.lineages c).getD [c], a ∈ g.refs := by
    cases hline : Table.get? g.lineages c with
    | none => exact fun a ha => List.mem_singleton.1 ha ▸ hc
    | some line => exact hg.mem_refs_of_lineages (Table.mem_of_get? hline)
  have hbodies : (((Table.get? g.lineages c).getD [c]).flatMap fun a => (g'.definition a).members) =
      ((Table.get? g.lineages c).getD [c]).flatMap fun a => (g.definition a).members :=
    List.flatMap_congr fun a ha => by rw [hext.definition_eq (hmembers a ha)]
  rw [constants, constants, hext.get?_lineages hc, hext.definition_eq hc]
  dsimp only
  rw [hbodies]

end ExtendedBy

end ClassGraph

/-! ### Compiling -/

namespace Catalog

variable {catalog catalog' : Catalog}

/-- What a class declares depends on the hooks and on what names stand for. -/
theorem declarations_congr (hhooks : catalog'.hooks = catalog.hooks)
    (hnames : catalog'.classes.names = catalog.classes.names) (c : ClassDef) :
    catalog'.declarations c = catalog.declarations c := by
  -- types written as text are the only place where other classes are looked at
  have htype : ∀ names t, catalog'.resolveType c names t = catalog.resolveType c names t := by
    intro names t
    cases t with
    | forward name => simp only [resolveType, typeOfName, hnames]
    | _ => rfl
  have hmember : ∀ name m, catalog'.declareMember c name m = catalog.declareMember c name m := by
    intro name m
    cases m with
    | property p => simp only [declareMember, declareProperty, htype, hhooks]
    | _ => rfl
  simp only [declarations, declareAttribute, htype, hmember, hhooks]

theorem propertiesFrom_congr (hhooks : catalog'.hooks = catalog.hooks) (ordinal : ℕ)
    (declared : List (Owner × Declaration)) :
    catalog'.propertiesFrom ordinal declared = catalog.propertiesFrom ordinal declared := by
  induction declared generalizing ordinal with
  | nil => rfl
  | cons e declared ih =>
    rw [propertiesFrom, propertiesFrom, property, property, hhooks]
    simp only [ih]

/-- Whether a catalog has the hooks of another and a graph that goes on after the other's. -/
structure ExtendedBy (catalog catalog' : Catalog) : Prop where
  hooks : catalog'.hooks = catalog.hooks
  classes : catalog.classes.ExtendedBy catalog'.classes

namespace ExtendedBy

theorem refl (catalog : Catalog) : catalog.ExtendedBy catalog := ⟨rfl, .refl _⟩

theorem trans {catalog'' : Catalog} (h : catalog.ExtendedBy catalog')
    (h' : catalog'.ExtendedBy catalog'') : catalog.ExtendedBy catalog'' :=
  ⟨h'.hooks.trans h.hooks, h.classes.trans h'.classes⟩

variable (hext : catalog.ExtendedBy catalog') {c : ClassRef} (settings : Settings)

include hext in
theorem collectFrom_eq {refs : List ClassRef} (hrefs : ∀ c ∈ refs, c ∈ catalog.classes.refs)
    (collected : Collected) :
    catalog'.collectFrom collected refs = catalog.collectFrom collected refs := by
  induction refs generalizing collected with
  | nil => rfl
  | cons c refs ih =>
    obtain ⟨hc, hrefs⟩ := List.forall_mem_cons.1 hrefs
    simp only [collectFrom, hext.classes.definition_eq hc,
      declarations_congr hext.hooks hext.classes.names_eq, ih hrefs]

variable (hclosed : catalog.classes.Closed) (hc : c ∈ catalog.classes.refs)

include hext hclosed hc

theorem analyze_eq : catalog'.analyze settings c = catalog.analyze settings c := by
  have hinspected : catalog'.inspected c = catalog.inspected c := by
    rw [inspected, inspected, hext.classes.contracts_eq hclosed hc]
  have hcollected : catalog'.collectFrom .empty (catalog.inspected c) =
      catalog.collectFrom .empty (catalog.inspected c) :=
    hext.collectFrom_eq (fun a ha => hclosed.mem_refs_of_contracts hc (List.mem_of_mem_filter ha)) _
  simp only [analyze, hext.classes.definition_eq hc, hext.classes.derivesFromCompiled_eq hclosed hc,
    hinspected, hcollected, propertiesFrom_congr hext.hooks, hext.classes.contracts_eq hclosed hc]

/-- **A class compiles as it did before others came**, to the same type or with the same fault. -/
theorem compileClass_eq : catalog'.compileClass settings c = catalog.compileClass settings c := by
  simp only [compileClass, hext.analyze_eq settings hclosed hc, hext.hooks,
    hext.classes.definition_eq hc, hext.classes.constants_eq hclosed hc]

end ExtendedBy

/-! ### Compiled classes -/

/-- The catalog with the class that was compiled from a contract. -/
def withCompiled (catalog : Catalog) (type : CompiledType) : Catalog :=
  (catalog.addClass (.compiled type.className type.schema.contract)).2

theorem extendedBy_withCompiled (catalog : Catalog) (type : CompiledType) :
    catalog.ExtendedBy (catalog.withCompiled type) := by
  refine ⟨rfl, [.compiled type.className type.schema.contract], rfl, fun c hc => ?_⟩
  obtain rfl := List.mem_singleton.1 hc
  rfl

theorem refs_withCompiled (catalog : Catalog) (type : CompiledType) :
    (catalog.withCompiled type).classes.refs =
      catalog.classes.refs ++ [.declared catalog.classes.classes.length] := by
  rw [withCompiled, addClass, ClassGraph.refs, ClassGraph.refs, List.length_append,
    List.length_singleton, List.range_succ, List.map_append, List.append_assoc]
  rfl

theorem bases_withCompiled (catalog : Catalog) (type : CompiledType) :
    (catalog.withCompiled type).classes.bases (.declared catalog.classes.classes.length) =
      [.entityBase, type.schema.contract] := by
  rw [withCompiled, addClass, ClassGraph.bases, ClassGraph.definition,
    List.getD_append_right _ _ _ _ (Nat.le_refl _), Nat.sub_self]
  rfl

theorem closed_withCompiled {type : CompiledType} (hclosed : catalog.classes.Closed)
    (hcontract : type.schema.contract ∈ catalog.classes.refs) :
    (catalog.withCompiled type).classes.Closed := by
  have hext := extendedBy_withCompiled catalog type
  intro c hc b hb
  rw [refs_withCompiled] at hc
  rcases List.mem_append.1 hc with hc | hc
  · rw [hext.classes.bases_eq hc] at hb
    exact hext.classes.mem_refs (hclosed c hc b hb)
  · rw [List.mem_singleton.1 hc, bases_withCompiled] at hb
    refine hext.classes.mem_refs ?_
    rcases List.mem_cons.1 hb with rfl | hb
    · exact List.mem_append_left _ (by decide)
    · rwa [List.mem_singleton.1 hb]

end Catalog

end TrackedEntity
