import TrackedEntity.Proofs.Contract.BreadthFirst
import TrackedEntity.Proofs.Contract.Flattening

/-!
# Which declaration wins

Of the classes that declare a name, the first in the order of the walk owns the property
(`Catalog.owner_first`).  As walks go by distance, a class that declares a name anew wins over one
that it derives from whenever it is nearer to the contract, which it is if all ways from the
contract to the other are equally long (`Catalog.override_wins_of_nearer`).

It need not be: where a contract reaches a class on one way and what derives from it on a longer
one, the declaration that was meant to be replaced wins (`Catalog.override_loses_crossed`).
-/

namespace TrackedEntity

/-! ### Ways over bases -/

namespace ClassGraph

variable {g : ClassGraph} {contract a b : ClassRef}

/-- What stands at the top of every hierarchy derives only from its like. -/
theorem isHidden_of_derivesFrom (ha : isHidden a = true) (h : g.DerivesFrom a b) :
    isHidden b = true := by
  induction h with
  | refl => exact ha
  | @tail c d _ hcd ih =>
    cases c with
    | object => cases hcd
    | protocol | generic =>
      obtain rfl := List.mem_singleton.1 hcd
      rfl
    | abstract | notifyPropertyChanged | dataEntity | entityBase | declared i => cases ih

/-- A class that is visited can be reached from all classes that derive from it. -/
theorem follows_of_derivesFrom (hb : isHidden b = false) (h : g.DerivesFrom a b) :
    Relation.ReflTransGen (Walk.Follows g.contractBases isHidden) a b := by
  induction h using Relation.ReflTransGen.head_induction_on with
  | refl => exact .refl
  | @head a c hac hcb ih =>
    have hshown : isHidden c = false := by
      by_contra hhidden
      rw [isHidden_of_derivesFrom (by simpa using hhidden) hcb] at hb
      cases hb
    refine .head ⟨?_, hshown⟩ ih
    rw [contractBases]
    split
    · -- the notification marker has only hidden bases
      next hnotify =>
      subst hnotify
      obtain rfl := List.mem_singleton.1 hac
      cases hshown
    · exact hac

/-- Whether a way over so many bases leads from a contract to a class. -/
def ReachedIn (g : ClassGraph) (contract : ClassRef) : ℕ → ClassRef → Prop :=
  Walk.LeadsIn g.contractBases isHidden contract

theorem exists_reachedIn (h : g.Visits contract a) : ∃ n, g.ReachedIn contract n a := by
  obtain ⟨n, hn⟩ := Walk.LeadsIn.start.of_reflTransGen h.2
  exact ⟨_, hn⟩

/-- A way to a class that derives from another goes on to the other. -/
theorem ReachedIn.extend {n : ℕ} (h : g.ReachedIn contract n a) (hne : a ≠ b)
    (hb : isHidden b = false) (hderives : g.DerivesFrom a b) :
    ∃ m, n < m ∧ g.ReachedIn contract m b := by
  rcases (follows_of_derivesFrom hb hderives).cases_head with rfl | ⟨c, hac, hcb⟩
  · exact absurd rfl hne
  · obtain ⟨k, hk⟩ := (Walk.LeadsIn.step h hac).of_reflTransGen hcb
    exact ⟨n + 1 + k, by omega, hk⟩

end ClassGraph

namespace Catalog

variable {catalog : Catalog} {settings : Settings} {contract : ClassRef}

/-! ### The order of the walk -/

/-- What can be reached on a shorter way than another class was visited before it. -/
theorem mem_before_of_nearer {before after : List ClassRef} {near far : ClassRef}
    (hsplit : catalog.inspected contract = before ++ far :: after)
    (hnear : near ∈ catalog.inspected contract)
    (hnearer : ∀ n, catalog.classes.ReachedIn contract n far →
      ∃ m < n, catalog.classes.ReachedIn contract m near) : near ∈ before := by
  have hsorted := (Walk.pairwise_walk catalog.classes.contractBases ClassGraph.isHidden
    catalog.classes.edges contract).filter (· ≠ .notifyPropertyChanged)
  have hsorted' : (before ++ far :: after).Pairwise fun a b =>
      ∀ n, catalog.classes.ReachedIn contract n b →
        ∃ m ≤ n, catalog.classes.ReachedIn contract m a := by
    rw [← hsplit]
    exact hsorted
  by_contra hnot
  -- otherwise there would be a shorter way for every one
  have hshorter : ∀ n, catalog.classes.ReachedIn contract n near →
      ∃ m < n, catalog.classes.ReachedIn contract m near := by
    intro n hn
    rw [hsplit, List.mem_append, List.mem_cons] at hnear
    rcases hnear.resolve_left hnot with rfl | hafter
    · exact hnearer n hn
    · have hfar := (List.pairwise_cons.1 (List.pairwise_append.1 hsorted').2.1).1 near hafter
      obtain ⟨k, hk, hreached⟩ := hfar n hn
      obtain ⟨m, hm, hreached⟩ := hnearer k hreached
      exact ⟨m, by omega, hreached⟩
  obtain ⟨n, hn⟩ := ClassGraph.exists_reachedIn (mem_inspected_iff.1 hnear).1
  induction n using Nat.strong_induction_on with
  | _ n ih =>
    obtain ⟨m, hm, hreached⟩ := hshorter n hn
    exact ih m hm hreached

/-! ### Owners -/

theorem not_declares_notifyPropertyChanged (catalog : Catalog) (name : String) :
    ¬ catalog.Declares .notifyPropertyChanged name := by
  rintro ⟨d, hd, -⟩
  cases hd

/-- A declaration that is kept is of the first class that declares its name. -/
theorem first_of_mem_kept {e : Owner × Declaration} (he : e ∈ catalog.kept contract) :
    ∃ before after, catalog.inspected contract = before ++ e.1.ref :: after ∧
      catalog.Declares e.1.ref e.2.name ∧ ∀ c ∈ before, ¬ catalog.Declares c e.2.name := by
  have hfind := mem_kept_iff.1 he
  obtain ⟨c, hc, hmem⟩ := List.mem_flatMap.1 (List.mem_of_find?_eq_some hfind)
  obtain ⟨d, hd, rfl⟩ := List.mem_map.1 hmem
  obtain ⟨before, after, hsplit⟩ := List.append_of_mem hc
  refine ⟨before, after, hsplit, ⟨d, hd, rfl⟩, fun a ha hdeclares => ?_⟩
  -- then the declaration would be found among those of the classes before
  obtain ⟨e, hearlier⟩ := Option.isSome_iff_exists.1 (isSome_find?_owned_iff.2 ⟨a, ha, hdeclares⟩)
  rw [hsplit, List.flatMap_append, List.find?_append, hearlier, Option.some_or] at hfind
  obtain rfl := Option.some.inj hfind
  obtain ⟨b, hb, hmem⟩ := List.mem_flatMap.1 (List.mem_of_find?_eq_some hearlier)
  obtain ⟨d', -, heq⟩ := List.mem_map.1 hmem
  have hnodup := nodup_inspected catalog contract
  rw [hsplit, List.nodup_append] at hnodup
  exact hnodup.2.2 b hb c List.mem_cons_self (congrArg (·.1.ref) heq)

/-- **The first class in the order of the walk that declares a name owns the property.** -/
theorem owner_first {s : Schema} (h : catalog.analyze settings contract = .ok s) {c : ClassRef}
    {name : String} (hvisits : catalog.classes.Visits contract c)
    (hdeclares : catalog.Declares c name) :
    ∃ p owner, s.find? name = some p ∧ p.owner = some owner ∧
      ∃ before after, catalog.inspected contract = before ++ owner.ref :: after ∧
        catalog.Declares owner.ref name ∧ ∀ a ∈ before, ¬ catalog.Declares a name := by
  have hc : c ∈ catalog.inspected contract := by
    refine mem_inspected_iff.2 ⟨hvisits, ?_⟩
    rintro rfl
    exact not_declares_notifyPropertyChanged catalog name hdeclares
  have hsome : ((catalog.kept contract).find? (·.2.name == name)).isSome = true := by
    obtain ⟨e, he, hname⟩ := exists_mem_kept_iff.2 ⟨c, hc, hdeclares⟩
    rw [List.find?_isSome]
    exact ⟨e, he, by simpa using hname⟩
  obtain ⟨e, hfind⟩ := Option.isSome_iff_exists.1 hsome
  obtain rfl : e.2.name = name := by simpa using List.find?_some hfind
  obtain ⟨p, hp, htakes⟩ := Property.Takes.find? (takes_of_analyze h) hfind
  exact ⟨p, e.1, hp, htakes.owner, first_of_mem_kept (List.mem_of_find?_eq_some hfind)⟩

/-- **A declaration wins over those of the classes that its own derives from, if it is nearer.**
Where a class declares a name, no class that it derives from owns the property if the former can be
reached on a shorter way, and so in particular not if all ways to the latter are equally long. -/
theorem override_wins_of_nearer {s : Schema} (h : catalog.analyze settings contract = .ok s)
    {derived base : ClassRef} {name : String} (hne : derived ≠ base)
    (hderives : catalog.classes.DerivesFrom derived base)
    (hderived : catalog.classes.Visits contract derived)
    (hbase : catalog.classes.Visits contract base)
    (hdeclares : catalog.Declares derived name) :
    ∃ p owner, s.find? name = some p ∧ p.owner = some owner ∧
      (∃ before after, catalog.inspected contract = before ++ owner.ref :: after ∧
        catalog.Declares owner.ref name ∧ ∀ c ∈ before, ¬ catalog.Declares c name) ∧
      ((∀ n, catalog.classes.ReachedIn contract n base →
        ∃ m < n, catalog.classes.ReachedIn contract m derived) → owner.ref ≠ base) ∧
      ((∀ m n, catalog.classes.ReachedIn contract m base →
        catalog.classes.ReachedIn contract n base → m = n) → owner.ref ≠ base) := by
  obtain ⟨p, owner, hp, howner, before, after, hsplit, hfirst, hnone⟩ :=
    owner_first h hderived hdeclares
  have hwins : (∀ n, catalog.classes.ReachedIn contract n base →
      ∃ m < n, catalog.classes.ReachedIn contract m derived) → owner.ref ≠ base := by
    rintro hnearer rfl
    refine hnone derived (mem_before_of_nearer hsplit ?_ hnearer) hdeclares
    refine mem_inspected_iff.2 ⟨hderived, ?_⟩
    rintro rfl
    exact not_declares_notifyPropertyChanged catalog name hdeclares
  refine ⟨p, owner, hp, howner, ⟨before, after, hsplit, hfirst, hnone⟩, hwins, fun hequal => ?_⟩
  -- every way to the derived class goes on to its base, and that one is as long as any other
  refine hwins fun n hn => ?_
  have hshown : ClassGraph.isHidden base = false := hn.hidden_eq_false hbase.1
  obtain ⟨m, hm⟩ := ClassGraph.exists_reachedIn hderived
  obtain ⟨k, hk, hreached⟩ := hm.extend hne hshown hderives
  exact ⟨m, by rwa [hequal n k hn hreached], hm⟩

end Catalog

open Sample in
/-- In the diamond the number that the one side declares wins over that of the base, to which both
ways are equally long. -/
theorem Catalog.override_wins_diamond :
    ∃ p owner, diamondSchema.find? "id" = some p ∧ p.owner = some owner ∧
      owner.ref ≠ .declared 0 := by
  have hdeclares : diamond.Declares (.declared 2) "id" := ⟨_, List.mem_singleton_self _, rfl⟩
  have hderives : diamond.classes.DerivesFrom (.declared 2) (.declared 0) :=
    diamond.classes.mem_ancestors_iff.1 (by decide)
  obtain ⟨p, owner, hp, howner, -, hnearer, -⟩ :=
    override_wins_of_nearer analyze_diamond (by decide) hderives
      (diamond.classes.mem_contracts_iff.1 (by decide))
      (diamond.classes.mem_contracts_iff.1 (by decide)) hdeclares
  refine ⟨p, owner, hp, howner, hnearer fun n hn => ⟨1, ?_, .step .start ⟨by decide, rfl⟩⟩⟩
  -- the base is none of the bases of the contract itself
  cases hn with
  | step ha hfollows =>
    cases ha with
    | start => exact absurd hfollows.1 (by decide)
    | step => omega

namespace Sample

/-- A contract with a class and one that derives from it, where the way to the latter is longer. -/
def crossed : Catalog where
  classes := ⟨[
    { ClassDef.empty "IBase" "items" [.protocol] with attributes := [("id", .plain .int)] },
    { ClassDef.empty "IDerived" "items" [.declared 0] with attributes := [("id", .plain .str)] },
    ClassDef.empty "IMixin" "items" [.declared 1],
    ClassDef.empty "IRoot" "items" [.declared 2, .declared 0]]⟩
  hooks := []

end Sample

open Sample in
/-- There the declaration that was meant to be replaced wins. -/
theorem Catalog.override_loses_crossed :
    ∃ s p, crossed.analyze .default (.declared 3) = .ok s ∧
      crossed.classes.DerivesFrom (.declared 1) (.declared 0) ∧
      crossed.classes.Visits (.declared 3) (.declared 1) ∧
      crossed.classes.Visits (.declared 3) (.declared 0) ∧
      crossed.Declares (.declared 1) "id" ∧ crossed.Declares (.declared 0) "id" ∧
      s.find? "id" = some p ∧ p.type = .plain .int ∧
      p.owner = some ⟨.declared 0, "IBase"⟩ :=
  ⟨_, _, rfl, crossed.classes.mem_ancestors_iff.1 (by decide),
    crossed.classes.mem_contracts_iff.1 (by decide),
    crossed.classes.mem_contracts_iff.1 (by decide), ⟨_, List.mem_singleton_self _, rfl⟩,
    ⟨_, List.mem_singleton_self _, rfl⟩, rfl, rfl, rfl⟩

end TrackedEntity
