import Mathlib.Data.Int.Notation
import TrackedEntity.Contract.Schema
import TrackedEntity.Proofs.Outcome
import TrackedEntity.Proofs.Table

/-!
# The properties of a schema

What a successful analysis gives: properties with distinct names, the mutable ones numbered from
zero in their order, the others `untracked` (`analyze_spec`).  When it succeeds at all is
`analyze_eq_ok_iff`.

The names are distinct because the walk collects declarations in a table under their names
(`Collected.Keyed`), and the properties take the declarations of that table one by one.  The numbers
are given out along the same list (`Numbered`), so the ordinal of a mutable property is its place
among the mutable ones (`Numbered.ordinal_eq`).
-/

namespace TrackedEntity

open Outcome

/-! ### Distinct names -/

/-- Whether declarations are collected under their names, each name once. -/
structure Collected.Keyed (c : Collected) : Prop where
  nodup : (Table.keys c.declared).Nodup
  name_eq : ∀ e ∈ c.declared, e.2.2.name = e.1

theorem Collected.Keyed.add {c : Collected} (h : c.Keyed) (ref : ClassRef) (d : ClassDef)
    (own : List Declaration) (annotations : List (Value × Value)) :
    (c.add ref d own annotations).Keyed := by
  -- the fold over the declarations of one class, from any table
  suffices key : ∀ t : Table String (Owner × Declaration),
      (Table.keys t).Nodup → (∀ e ∈ t, e.2.2.name = e.1) →
      (Table.keys (own.foldl (fun t x => t.putNew x.name (⟨ref, d.qualname⟩, x)) t)).Nodup ∧
      ∀ e ∈ own.foldl (fun t x => t.putNew x.name (⟨ref, d.qualname⟩, x)) t, e.2.2.name = e.1 by
    obtain ⟨hn, he⟩ := key c.declared h.nodup h.name_eq
    exact ⟨hn, he⟩
  induction own with
  | nil => exact fun t hn he => ⟨hn, he⟩
  | cons x own ih =>
    intro t hn he
    refine ih _ (Table.nodup_keys_putNew hn _ _) fun e hmem => ?_
    rcases Table.mem_putNew hmem with hmem | rfl
    · exact he e hmem
    · rfl

theorem Catalog.keyed_collectFrom {catalog : Catalog} {refs : List ClassRef} {c c' : Collected}
    (h : catalog.collectFrom c refs = .ok c') (hc : c.Keyed) : c'.Keyed := by
  induction refs generalizing c with
  | nil =>
    obtain rfl := Except.ok.inj h
    exact hc
  | cons ref refs ih =>
    obtain ⟨own, -, h⟩ := bind_eq_ok.1 h
    obtain ⟨annotations, -, h⟩ := bind_eq_ok.1 h
    exact ih h (hc.add _ _ _ _)

/-! ### Numbers -/

/-- Whether the mutable ones among properties are numbered from an ordinal on. -/
def Numbered : ℕ → List Property → Prop
  | _, [] => True
  | n, p :: ps =>
    if p.mutable then p.ordinal = n ∧ Numbered (n + 1) ps
    else p.ordinal = untracked ∧ Numbered n ps

theorem Catalog.property_spec {catalog : Catalog} {n : ℕ} {owner : Owner} {d : Declaration}
    {p : Property} (h : catalog.property n owner d = .ok p) :
    p.name = d.name ∧ p.mutable = d.mutable ∧
      p.ordinal = if d.mutable then (n : ℤ) else untracked := by
  unfold Catalog.property at h
  by_cases hr : isReserved d.name = true
  · rw [if_pos hr] at h
    obtain ⟨_, h, -⟩ := bind_eq_ok.1 h
    cases h
  · rw [if_neg hr] at h
    obtain ⟨_, -, h⟩ := bind_eq_ok.1 h
    obtain rfl := Except.ok.inj h
    exact ⟨rfl, rfl, rfl⟩

theorem Catalog.propertiesFrom_spec {catalog : Catalog} {n : ℕ}
    {declared : List (Owner × Declaration)} {ps : List Property}
    (h : catalog.propertiesFrom n declared = .ok ps) :
    ps.map (·.name) = declared.map (·.2.name) ∧ Numbered n ps := by
  induction declared generalizing n ps with
  | nil =>
    obtain rfl := Except.ok.inj h
    exact ⟨rfl, trivial⟩
  | cons od declared ih =>
    obtain ⟨owner, d⟩ := od
    obtain ⟨p, hp, h⟩ := bind_eq_ok.1 h
    obtain ⟨rest, hrest, h⟩ := bind_eq_ok.1 h
    obtain rfl := Except.ok.inj h
    obtain ⟨hname, hmut, hord⟩ := property_spec hp
    obtain ⟨hnames, hnum⟩ := ih hrest
    refine ⟨by simp [hname, hnames], ?_⟩
    by_cases hd : d.mutable = true
    · rw [if_pos hd] at hnum hord
      rw [Numbered, if_pos (hmut.trans hd)]
      exact ⟨hord, hnum⟩
    · rw [if_neg hd] at hnum hord
      rw [Numbered, if_neg (by rw [hmut]; exact hd)]
      exact ⟨hord, hnum⟩

/-- The ordinal of a mutable property is its place among the mutable ones. -/
theorem Numbered.ordinal_eq {n i : ℕ} {ps : List Property} (h : Numbered n ps) {p : Property}
    (hp : (ps.filter (·.mutable))[i]? = some p) : p.ordinal = ((n + i : ℕ) : ℤ) := by
  induction ps generalizing n i with
  | nil => simp at hp
  | cons q ps ih =>
    rw [Numbered] at h
    by_cases hq : q.mutable = true
    · rw [if_pos hq] at h
      rw [List.filter_cons_of_pos (by simpa using hq)] at hp
      cases i with
      | zero =>
        obtain rfl := Option.some.inj hp
        simpa using h.1
      | succ i =>
        rw [ih h.2 hp, Nat.add_right_comm, Nat.add_assoc]
    · rw [if_neg hq] at h
      rw [List.filter_cons_of_neg (by simpa using hq)] at hp
      exact ih h.2 hp

/-- **When analysis succeeds, and with what.** -/
theorem Catalog.analyze_eq_ok_iff {catalog : Catalog} {settings : Settings} {contract : ClassRef}
    {s : Schema} :
    catalog.analyze settings contract = .ok s ↔
      catalog.classes.derivesFromCompiled contract = false ∧
      ∃ collected properties,
        catalog.collectFrom .empty (catalog.inspected contract) = .ok collected ∧
        settings.guardRejects collected.methodCount collected.declared.length = false ∧
        catalog.propertiesFrom 0 (collected.declared.map (·.2)) = .ok properties ∧
        s = { contract, properties
              needsNotification :=
                (catalog.classes.contracts contract).contains .notifyPropertyChanged
              annotations := collected.annotations } := by
  unfold Catalog.analyze
  cases hc : catalog.classes.derivesFromCompiled contract with
  | true => simp [throw, throwThe, MonadExceptOf.throw, bind, Except.bind]
  | false =>
    cases hcol : catalog.collectFrom .empty (catalog.inspected contract) with
    | error f => simp [bind, Except.bind]
    | ok collected =>
      cases hg : settings.guardRejects collected.methodCount collected.declared.length with
      | true => simp [throw, throwThe, MonadExceptOf.throw, bind, Except.bind, hg]
      | false =>
        cases hps : catalog.propertiesFrom 0 (collected.declared.map (·.2)) with
        | error f => simp [bind, Except.bind, hg, hps]
        | ok ps =>
          simp only [bind, Except.bind, pure, Except.pure, hg, hps, Bool.false_eq_true, if_false]
          constructor
          · rintro ⟨⟩
            exact ⟨trivial, collected, ps, rfl, hg, hps, rfl⟩
          · rintro ⟨-, collected', ps', hcol', -, hps', rfl⟩
            obtain rfl := Except.ok.inj hcol'
            obtain rfl := Except.ok.inj (hps.symm.trans hps')
            rfl

/-- **The properties of an analyzed contract** have distinct names, and the mutable ones are
numbered from zero. -/
theorem Catalog.analyze_spec {catalog : Catalog} {settings : Settings} {contract : ClassRef}
    {s : Schema} (h : catalog.analyze settings contract = .ok s) :
    (s.properties.map (·.name)).Nodup ∧ Numbered 0 s.properties := by
  obtain ⟨-, collected, ps, hcol, -, hps, rfl⟩ := analyze_eq_ok_iff.1 h
  have hkeyed : collected.Keyed :=
    keyed_collectFrom hcol ⟨List.nodup_nil, fun e he => by cases he⟩
  obtain ⟨hnames, hnum⟩ := propertiesFrom_spec hps
  refine ⟨?_, hnum⟩
  -- the properties take the declarations one by one, hence under the same names
  have hkeys : ps.map (·.name) = Table.keys collected.declared := by
    rw [hnames, List.map_map, Table.keys]
    exact List.map_congr_left fun e he => hkeyed.name_eq e he
  show (ps.map (·.name)).Nodup
  rw [hkeys]
  exact hkeyed.nodup

end TrackedEntity
