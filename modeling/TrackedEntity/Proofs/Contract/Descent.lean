import Mathlib.Data.List.Perm.Subperm
import TrackedEntity.Proofs.Contract.Extension

/-!
# What stands in a line of descent

The common order of several lines has nothing twice (`Lineage.nodup_mergeWithin`), and keeps the
order of every line that it has all of (`Lineage.sublist_mergeWithin`).

In a graph where every class comes after its bases (`ClassGraph.Ordered`) no class derives from one
that derives from it.  The line of a class is then made from the lines of its bases
(`Ordered.lineage_eq`), has the class first, nothing twice, and nothing but what the class derives
from.  What entities read from their class where no property has the name is the member of the first
class in the line that has one of that name, the documentation and the module apart
(`get?_constants`).
-/

namespace TrackedEntity

theorem Table.get?_putNew {κ : Type u} {α : Type v} [BEq κ] [LawfulBEq κ] (t : Table κ α)
    (k k' : κ) (v : α) :
    (t.putNew k v).get? k' = (t.get? k').or (if k == k' then some v else none) := by
  rw [putNew]
  split
  · next hhas =>
    -- a key that is there already keeps its value
    by_cases hk : k == k'
    · obtain rfl := LawfulBEq.eq_of_beq hk
      cases hget : t.get? k with
      | some v' => rfl
      | none => exact absurd (has_iff.1 hhas) (get?_eq_none_iff.1 hget)
    · rw [if_neg hk, Option.or_none]
  · rw [get?, List.lookup_append, ← get?, List.lookup_cons]
    by_cases hk : k = k'
    · simp [hk]
    · have hk' : (k' == k) = false := by simpa using Ne.symm hk
      simp [hk, hk']

/-! ### Common orders -/

namespace Lineage

variable {α : Type u} [BEq α] [LawfulBEq α] {lines : List (List α)} {x : α} {fuel : ℕ}

/-- What comes next stands behind no head, so it is in no line any more once it was taken. -/
theorem notMem_of_next (h : next? lines = some x) {line : List α} (hline : line ∈ lines) :
    x ∉ line.drop 1 := by
  have heligible : eligible lines x = true := List.find?_some h
  simpa using List.all_eq_true.1 heligible line hline

theorem notMem_advance_of_next (h : next? lines = some x) {line : List α}
    (hline : line ∈ lines) : x ∉ advance x line := by
  have hrest := notMem_of_next h hline
  cases line with
  | nil => exact List.not_mem_nil
  | cons head rest =>
    rw [advance]
    split
    · exact hrest
    · next hne =>
      intro hmem
      rcases List.mem_cons.1 hmem with rfl | hmem
      · exact hne (by simp)
      · exact hrest hmem

/-- **A common order has nothing twice.** -/
theorem nodup_mergeWithin (fuel : ℕ) (lines : List (List α)) :
    (mergeWithin fuel lines).Nodup := by
  fun_induction mergeWithin fuel lines with
  | case1 => exact List.nodup_nil
  | case2 => exact List.nodup_nil
  | case3 fuel lines x hnext ih =>
    refine List.nodup_cons.2 ⟨fun hmem => ?_, ih⟩
    obtain ⟨line', hline', hx⟩ := exists_mem_of_mem_mergeWithin hmem
    obtain ⟨line, hline, rfl⟩ := List.mem_map.1 hline'
    exact notMem_advance_of_next hnext hline hx

/-- **A common order keeps the order of a line**, if it has all of it. -/
theorem sublist_mergeWithin {line : List α} (hline : line ∈ lines)
    (hall : ∀ x ∈ line, x ∈ mergeWithin fuel lines) : line.Sublist (mergeWithin fuel lines) := by
  fun_induction mergeWithin fuel lines generalizing line with
  | case1 =>
    obtain rfl := List.eq_nil_iff_forall_not_mem.2 fun x hx => List.not_mem_nil (hall x hx)
    exact List.Sublist.refl []
  | case2 =>
    obtain rfl := List.eq_nil_iff_forall_not_mem.2 fun x hx => List.not_mem_nil (hall x hx)
    exact List.Sublist.refl []
  | case3 fuel lines x hnext ih =>
    have hnot := notMem_advance_of_next hnext hline
    have hrest : (advance x line).Sublist (mergeWithin fuel (lines.map (advance x))) := by
      refine ih (List.mem_map_of_mem hline) fun y hy => ?_
      refine (List.mem_cons.1 (hall y (mem_of_mem_advance hy))).resolve_left ?_
      rintro rfl
      exact hnot hy
    cases line with
    | nil => exact List.nil_sublist _
    | cons head rest =>
      rw [advance] at hrest
      split at hrest
      · next hhead =>
        obtain rfl := LawfulBEq.eq_of_beq hhead
        exact hrest.cons_cons head
      · exact hrest.cons x

end Lineage

/-- Whether every class has something of its own under a name, whatever it declares and whatever it
derives from: its documentation and its module. -/
def ClassDef.isOwn (name : String) : Bool :=
  name == ClassDef.docMember || name == ClassDef.moduleMember

/-- Whether entities read the same from two classes, apart from what every class has of its own. -/
structure ClassDef.ReadAlike (constants constants' : Table String Value) : Prop where
  get?_eq : ∀ name, ClassDef.isOwn name = false → constants'.get? name = constants.get? name
  isSome_eq : ∀ name, (constants'.get? name).isSome = (constants.get? name).isSome

/-! ### Lines -/

namespace ClassGraph

variable {g : ClassGraph} {c a b : ClassRef}

/-- The line of a class: the order in which it asks itself and its ancestors for a member. -/
def lineage (g : ClassGraph) (c : ClassRef) : List ClassRef := (Table.get? g.lineages c).getD [c]

theorem lineage_of_notMem_refs (hc : c ∉ g.refs) : g.lineage c = [c] := by
  obtain ⟨known, hknown, hkeys⟩ := exists_foldl_addLineage (g := g) g.refs []
  have hnone : Table.get? g.lineages c = none := by
    rw [Table.get?_eq_none_iff, lineages_eq_foldl, hknown, List.nil_append, hkeys]
    exact hc
  rw [lineage, hnone, Option.getD_none]

/-- Whether every class comes after its bases. -/
def Ordered (g : ClassGraph) : Prop :=
  ∀ before c after, g.refs = before ++ c :: after → ∀ b ∈ g.bases c, b ∈ before

namespace Ordered

/-- It is enough that every class finds its bases among the classes before it. -/
theorem of_take (h : ∀ c ∈ g.refs, ∀ b ∈ g.bases c, b ∈ g.refs.take (g.refs.idxOf c)) :
    g.Ordered := by
  intro before c after hrefs b hb
  have hnodup := g.nodup_refs
  rw [hrefs, List.nodup_append] at hnodup
  have hnot : c ∉ before := fun hmem => hnodup.2.2 c hmem c List.mem_cons_self rfl
  have hmem := h c (g.mem_refs_of_bases (List.ne_nil_of_mem hb)) b hb
  rwa [hrefs, List.idxOf_append_of_notMem hnot, List.idxOf_cons_self, Nat.add_zero,
    List.take_left] at hmem

variable (hg : g.Ordered)
include hg

theorem idxOf_lt (hb : b ∈ g.bases c) : g.refs.idxOf b < g.refs.idxOf c := by
  have hc : c ∈ g.refs := g.mem_refs_of_bases (List.ne_nil_of_mem hb)
  obtain ⟨before, after, hrefs⟩ := List.append_of_mem hc
  have hbefore := hg before c after hrefs b hb
  have hnodup := g.nodup_refs
  rw [hrefs, List.nodup_append] at hnodup
  have hnot : c ∉ before := fun hmem => hnodup.2.2 c hmem c List.mem_cons_self rfl
  rw [hrefs, List.idxOf_append_of_mem hbefore, List.idxOf_append_of_notMem hnot,
    List.idxOf_cons_self, Nat.add_zero]
  exact List.idxOf_lt_length_iff.2 hbefore

theorem idxOf_le_of_derivesFrom (h : g.DerivesFrom c a) : g.refs.idxOf a ≤ g.refs.idxOf c := by
  induction h with
  | refl => exact Nat.le_refl _
  | tail _ hbase ih => exact (hg.idxOf_lt hbase).le.trans ih

/-- No class derives from one that has it for a base. -/
theorem not_derivesFrom_of_mem_bases (hb : b ∈ g.bases c) : ¬ g.DerivesFrom b c := fun h =>
  absurd (hg.idxOf_le_of_derivesFrom h) (Nat.not_le_of_lt (hg.idxOf_lt hb))

/-- **The line of a class is made from the lines of its bases.** -/
theorem lineage_eq (hc : c ∈ g.refs) :
    g.lineage c = Lineage.ofBases c (g.bases c) g.lineage := by
  obtain ⟨before, after, hrefs⟩ := List.append_of_mem hc
  have hnodup := g.nodup_refs
  rw [hrefs, List.nodup_append] at hnodup
  -- the lines before that of the class, the line itself, and the lines after it
  obtain ⟨known, hknown, hkeys⟩ := exists_foldl_addLineage (g := g) before []
  rw [List.nil_append] at hknown
  obtain ⟨more, hmore, -⟩ := exists_foldl_addLineage (g := g) after (g.addLineage known c)
  have hlineages : g.lineages = known ++
      ((c, Lineage.ofBases c (g.bases c) fun b => (Table.get? known b).getD [b]) :: more) := by
    rw [lineages_eq_foldl, hrefs, List.foldl_append, List.foldl_cons, hknown, hmore, addLineage,
      List.append_assoc, List.singleton_append]
  have hlookup : ∀ b, (Table.get? known b).isSome = true →
      Table.get? g.lineages b = Table.get? known b := by
    intro b hb
    obtain ⟨line, hline⟩ := Option.isSome_iff_exists.1 hb
    rw [hlineages, Table.get?, List.lookup_append, ← Table.get?, hline, Option.some_or]
  have hbases : (g.bases c).map g.lineage =
      (g.bases c).map fun b => (Table.get? known b).getD [b] := by
    refine List.map_congr_left fun b hb => ?_
    have hbefore : b ∈ Table.keys known := hkeys ▸ hg before c after hrefs b hb
    rw [lineage, hlookup b]
    by_contra hnone
    rw [Bool.not_eq_true, Option.isSome_eq_false_iff, Option.isNone_iff_eq_none,
      Table.get?_eq_none_iff] at hnone
    exact hnone hbefore
  have hnone : Table.get? known c = none := by
    rw [Table.get?_eq_none_iff, hkeys]
    exact fun hmem => hnodup.2.2 c hmem c List.mem_cons_self rfl
  rw [lineage, hlineages, Table.get?, List.lookup_append, ← Table.get?, hnone, Option.none_or,
    List.lookup_cons_self, Option.getD_some, Lineage.ofBases, Lineage.ofBases, hbases]

theorem exists_lineage_eq_cons (c : ClassRef) : ∃ rest, g.lineage c = c :: rest := by
  by_cases hc : c ∈ g.refs
  · exact ⟨_, hg.lineage_eq hc⟩
  · exact ⟨[], lineage_of_notMem_refs hc⟩

theorem mem_lineage_self (c : ClassRef) : c ∈ g.lineage c := by
  obtain ⟨rest, hrest⟩ := hg.exists_lineage_eq_cons c
  rw [hrest]
  exact List.mem_cons_self

/-- **The line of a class has only what the class derives from.** -/
theorem derivesFrom_of_mem_lineage (h : a ∈ g.lineage c) : g.DerivesFrom c a := by
  induction hn : g.refs.idxOf c using Nat.strong_induction_on generalizing c a with
  | _ n ih =>
    by_cases hc : c ∈ g.refs
    · rw [hg.lineage_eq hc] at h
      refine Lineage.of_mem_ofBases (P := g.DerivesFrom c) .refl (fun b hb => .single hb)
        (fun b hb a ha => ?_) h
      exact .head hb (ih _ (hn ▸ hg.idxOf_lt hb) ha rfl)
    · rw [lineage_of_notMem_refs hc] at h
      obtain rfl := List.mem_singleton.1 h
      exact .refl

/-- The line of a class has no class twice. -/
theorem nodup_lineage (c : ClassRef) : (g.lineage c).Nodup := by
  by_cases hc : c ∈ g.refs
  · rw [hg.lineage_eq hc]
    refine List.nodup_cons.2 ⟨fun hmem => ?_, Lineage.nodup_mergeWithin _ _⟩
    -- what comes behind the class stands in the line of a base, or is one
    obtain ⟨line, hline, hmem⟩ := Lineage.exists_mem_of_mem_mergeWithin hmem
    rcases List.mem_append.1 hline with hline | hline
    · obtain ⟨b, hb, rfl⟩ := List.mem_map.1 hline
      exact hg.not_derivesFrom_of_mem_bases hb (hg.derivesFrom_of_mem_lineage hmem)
    · obtain rfl := List.mem_singleton.1 hline
      exact hg.not_derivesFrom_of_mem_bases hmem .refl
  · rw [lineage_of_notMem_refs hc]
    exact List.nodup_singleton c

end Ordered

/-! ### Members -/

/-- The member of a name that entities read from a class. -/
def entityMember? (g : ClassGraph) (name : String) (c : ClassRef) : Option Value :=
  (g.definition c).members.findSome? fun m => if m.1 == name then m.2.fromEntity? else none

/-- What a class gives for itself, before its members are looked at. -/
def ownConstants (g : ClassGraph) (c : ClassRef) : Table String Value :=
  [(ClassDef.docMember, (g.definition c).doc),
    (ClassDef.moduleMember, .str (g.definition c).module)]

/-- Of members with one name the first counts, after what was there before. -/
theorem get?_foldl_putNew (members : List (String × Member)) (t : Table String Value)
    (name : String) :
    (members.foldl (fun t m => ((Member.fromEntity? m.2).map (t.putNew m.1 ·)).getD t) t).get?
        name =
      (t.get? name).or
        (members.findSome? fun m => if m.1 == name then m.2.fromEntity? else none) := by
  induction members generalizing t with
  | nil => exact (Option.or_none).symm
  | cons m members ih =>
    rw [List.foldl_cons, ih, List.findSome?_cons]
    cases hm : m.2.fromEntity? with
    | none => simp
    | some v =>
      rw [Option.map_some, Option.getD_some, Table.get?_putNew, Option.or_assoc]
      by_cases hname : m.1 == name
      · simp [hname]
      · simp [hname]

theorem get?_constants_eq (g : ClassGraph) (c : ClassRef) (name : String) :
    (g.constants c).get? name =
      ((g.ownConstants c).get? name).or ((g.lineage c).findSome? (g.entityMember? name)) := by
  have hbodies : ∀ line : List ClassRef,
      ((line.flatMap fun a => (g.definition a).members).findSome? fun m =>
        if m.1 == name then m.2.fromEntity? else none) =
      line.findSome? (g.entityMember? name) := by
    intro line
    induction line with
    | nil => rfl
    | cons a line ih =>
      rw [List.flatMap_cons, List.findSome?_append, ih, List.findSome?_cons]
      cases hmember : g.entityMember? name a with
      | none => rw [← entityMember?, hmember, Option.none_or]
      | some v => rw [← entityMember?, hmember, Option.some_or]
  rw [constants]
  dsimp only
  rw [get?_foldl_putNew, hbodies, ← lineage]
  rfl

/-- **Entities read a member from the first class in the line that has it**, the documentation and
the module apart. -/
theorem get?_constants (g : ClassGraph) (c : ClassRef) {name : String}
    (hname : ClassDef.isOwn name = false) :
    (g.constants c).get? name = (g.lineage c).findSome? (g.entityMember? name) := by
  rw [ClassDef.isOwn, Bool.or_eq_false_iff, beq_eq_false_iff_ne, beq_eq_false_iff_ne] at hname
  have hown : (g.ownConstants c).get? name = none := by
    simp [Table.get?_eq_none_iff, Table.keys, ownConstants, hname.1, hname.2]
  rw [get?_constants_eq, hown, Option.none_or]

/-- Every class has a documentation and a module of its own. -/
theorem isSome_get?_constants (g : ClassGraph) (c : ClassRef) {name : String}
    (hname : ClassDef.isOwn name = true) : ((g.constants c).get? name).isSome = true := by
  rw [ClassDef.isOwn, Bool.or_eq_true, beq_iff_eq, beq_iff_eq] at hname
  have hown : ((g.ownConstants c).get? name).isSome = true := by
    rcases hname with rfl | rfl <;> rfl
  obtain ⟨v, hv⟩ := Option.isSome_iff_exists.1 hown
  rw [get?_constants_eq, hv, Option.some_or]
  rfl

end ClassGraph

end TrackedEntity
