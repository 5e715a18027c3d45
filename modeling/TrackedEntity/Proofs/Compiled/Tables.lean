import TrackedEntity.Compiled.Basic
import TrackedEntity.Proofs.Contract.Numbering
import TrackedEntity.Proofs.Mask.Membership

/-!
# The tables of a compiled type

A compiled type holds its schema and four tables made from it: tokens by name, names and defaults by
ordinal, and the layout of the masks.  `CompiledType.Aligned` says that they are the ones that the
schema stands for, and `aligned_of_compile` that compiling makes them so.

Everything else is read off an aligned type.  A name has a token exactly when a property has the
name (`Aligned.token_iff`), and a token has a setter exactly when its property is mutable, with the
place of the property among the mutable ones for its ordinal (`Aligned.setter_iff`).
-/

namespace TrackedEntity

open Outcome

namespace Property

/-- How a property of a compiled type is assigned. -/
def compiledSetter (notifies : Bool) (p : Property) : Setter where
  name := p.name
  ordinal := p.ordinal
  hook := p.extension.bind (·.setter)
  direct := p.type.isPrimitive
  notifies := notifies

/-- The token of a property of a compiled type. -/
def compiledToken (notifies : Bool) (p : Property) : Token where
  name := p.name
  ordinal := p.ordinal
  getter := p.getter
  setter := if p.mutable then some (p.compiledSetter notifies) else none
  reader := some (if p.mutable && p.extension.isSome then .slot p.ordinal else .getter)

theorem token_eq {hooks : HookCatalog} {notifies : Bool} {p : Property} {t : Token}
    (h : p.token hooks notifies = .ok t) : t = p.compiledToken notifies := by
  unfold token at h
  by_cases hm : p.mutable = true
  · rw [if_pos hm] at h
    obtain ⟨s, hs, h⟩ := bind_eq_ok.1 h
    obtain ⟨_, -, hs⟩ := bind_eq_ok.1 hs
    obtain rfl := Except.ok.inj hs
    obtain rfl := Except.ok.inj h
    cases hx : p.extension <;> simp [compiledToken, compiledSetter, hm, hx]
  · rw [if_neg hm] at h
    obtain rfl := Except.ok.inj h
    simp [compiledToken, hm]

end Property

theorem synthesize_eq {hooks : HookCatalog} {notifies : Bool} {ps : List Property}
    {tokens : Table String Token} (h : synthesize hooks notifies ps = .ok tokens)
    (hn : (ps.map (·.name)).Nodup) :
    tokens = ps.map fun p => (p.name, p.compiledToken notifies) := by
  obtain ⟨ts, hts, h⟩ := bind_eq_ok.1 h
  obtain rfl := Except.ok.inj h
  have hmap : ts = ps.map (Property.compiledToken notifies) :=
    eq_map_of_mapM (fun _ _ => Property.token_eq) hts
  rw [hmap, List.map_map]
  refine Table.ofPairs_eq_self ?_
  rw [Table.keys, List.map_map]
  exact hn

namespace CompiledType

/-- Whether the tables of a compiled type are those of its schema. -/
structure Aligned (t : CompiledType) : Prop where
  nodup : (t.schema.properties.map (·.name)).Nodup
  numbered : Numbered 0 t.schema.properties
  layout_eq : Layout.allocate t.schema.mutableCount = .ok t.layout
  tokens_eq : t.tokens =
    t.schema.properties.map fun p => (p.name, p.compiledToken t.schema.needsNotification)
  names_eq : t.names = t.schema.mutable.map (·.name)
  defaults_eq : t.defaults = t.schema.mutable.map (·.default)

/-- **Compiling aligns the tables.** -/
theorem aligned_of_compile {catalog : Catalog} {settings : Settings} {contract : Contract}
    {t : CompiledType} (h : catalog.compile settings contract = .ok t) : t.Aligned := by
  cases contract with
  | ofValue v => cases h
  | ofClass ref =>
    obtain ⟨schema, hs, h⟩ := bind_eq_ok.1 h
    obtain ⟨layout, hl, h⟩ := bind_eq_ok.1 h
    obtain ⟨tokens, ht, h⟩ := bind_eq_ok.1 h
    obtain rfl := Except.ok.inj h
    obtain ⟨hn, hnum⟩ := Catalog.analyze_spec hs
    exact ⟨hn, hnum, hl, synthesize_eq ht hn, rfl, rfl⟩

namespace Aligned

variable {t : CompiledType} (ht : t.Aligned)
include ht

theorem length_defaults : t.defaults.length = t.schema.mutableCount := by
  rw [ht.defaults_eq, List.length_map, Schema.mutableCount]

theorem layout_allocated {mask : Mask} (hn : t.layout.new = .ok mask) :
    t.layout.Allocated t.schema.mutableCount :=
  Layout.allocated_of_new ht.layout_eq hn

/-- A name has a token exactly when a property has the name. -/
theorem token_iff {name : String} {token : Token} :
    t.tokens.get? name = some token ↔
      ∃ p ∈ t.schema.properties,
        p.name = name ∧ p.compiledToken t.schema.needsNotification = token := by
  have hkeys : (Table.keys t.tokens).Nodup := by
    rw [ht.tokens_eq, Table.keys, List.map_map]
    exact ht.nodup
  rw [Table.get?_eq_some_iff hkeys, ht.tokens_eq, List.mem_map]
  simp only [Prod.mk.injEq]

/-- The token of a property. -/
theorem get?_token {p : Property} (hp : p ∈ t.schema.properties) :
    t.tokens.get? p.name = some (p.compiledToken t.schema.needsNotification) :=
  ht.token_iff.2 ⟨p, hp, rfl, rfl⟩

/-- The ordinal of a mutable property is its place among the mutable ones. -/
theorem ordinal_eq {i : ℕ} {p : Property} (hp : t.schema.mutable[i]? = some p) :
    p.ordinal = (i : ℤ) := by
  rw [ht.numbered.ordinal_eq hp, Nat.zero_add]

/-- The setters that tokens hold are those of the mutable properties. -/
theorem setter_iff {s : Setter} :
    (∃ name token, t.tokens.get? name = some token ∧ token.setter = some s) ↔
      ∃ (i : ℕ) (p : Property), t.schema.mutable[i]? = some p ∧
        s = p.compiledSetter t.schema.needsNotification := by
  constructor
  · rintro ⟨name, token, htoken, hs⟩
    obtain ⟨p, hp, -, rfl⟩ := ht.token_iff.1 htoken
    by_cases hm : p.mutable = true
    · have hmem : p ∈ t.schema.mutable := List.mem_filter.2 ⟨hp, hm⟩
      obtain ⟨i, hi⟩ := List.mem_iff_getElem?.1 hmem
      simp only [Property.compiledToken, if_pos hm, Option.some.injEq] at hs
      exact ⟨i, p, hi, hs.symm⟩
    · simp [Property.compiledToken, hm] at hs
  · rintro ⟨i, p, hp, rfl⟩
    obtain ⟨hmem, hm⟩ := List.mem_filter.1 (List.mem_of_getElem? hp)
    refine ⟨p.name, _, ht.get?_token hmem, ?_⟩
    simp only [Property.compiledToken, if_pos hm]

end Aligned

/-! ### Places of properties -/

variable {t : CompiledType}

theorem lt_mutableCount {i : ℕ} {p : Property} (hp : t.schema.mutable[i]? = some p) :
    i < t.schema.mutableCount :=
  (List.getElem?_eq_some_iff.1 hp).1

theorem Aligned.find?_eq_some_iff (ht : t.Aligned) {name : String} {p : Property} :
    t.schema.find? name = some p ↔ p ∈ t.schema.properties ∧ p.name = name := by
  constructor
  · intro hfind
    exact ⟨List.mem_of_find?_eq_some hfind, by simpa using List.find?_some hfind⟩
  · rintro ⟨hp, rfl⟩
    cases hfind : t.schema.find? p.name with
    | none =>
      have hnone := List.find?_eq_none.1 hfind p hp
      simp at hnone
    | some q =>
      have hq : q ∈ t.schema.properties := List.mem_of_find?_eq_some hfind
      have hname : q.name = p.name := by simpa using List.find?_some hfind
      rw [List.inj_on_of_nodup_map ht.nodup hq hp hname]

/-- The names by ordinal are those of the mutable properties. -/
theorem Aligned.getElem?_names (ht : t.Aligned) {i : ℕ} {p : Property}
    (hp : t.schema.mutable[i]? = some p) : t.names[i]? = some p.name := by
  rw [ht.names_eq, List.getElem?_map, hp, Option.map_some]

theorem Aligned.getElem?_defaults (ht : t.Aligned) {i : ℕ} {p : Property}
    (hp : t.schema.mutable[i]? = some p) : t.defaults[i]? = some p.default := by
  rw [ht.defaults_eq, List.getElem?_map, hp, Option.map_some]

theorem Aligned.nodup_names (ht : t.Aligned) : t.names.Nodup := by
  rw [ht.names_eq]
  exact ht.nodup.sublist (List.filter_sublist.map _)

/-- Mutable properties with one name are one. -/
theorem Aligned.index_inj (ht : t.Aligned) {i j : ℕ} {p q : Property}
    (hp : t.schema.mutable[i]? = some p) (hq : t.schema.mutable[j]? = some q)
    (hname : p.name = q.name) : i = j := by
  have hpi := ht.getElem?_names hp
  have hqj := ht.getElem?_names hq
  have hlt : i < t.names.length := (List.getElem?_eq_some_iff.1 hpi).1
  exact (List.getElem?_inj hlt ht.nodup_names).1 (by rw [hpi, hqj, hname])

/-! ### Tokens of properties -/

/-- Every name but those of properties is without token. -/
theorem Aligned.get?_tokens_eq_none (ht : t.Aligned) {name : String} :
    t.tokens.get? name = none ↔ ∀ p ∈ t.schema.properties, p.name ≠ name := by
  rw [Option.eq_none_iff_forall_ne_some]
  constructor
  · rintro h p hp rfl
    exact h _ (ht.get?_token hp)
  · intro h token htoken
    obtain ⟨p, hp, hname, -⟩ := ht.token_iff.1 htoken
    exact h p hp hname

theorem mem_properties {i : ℕ} {p : Property} (hp : t.schema.mutable[i]? = some p) :
    p ∈ t.schema.properties ∧ p.mutable = true :=
  List.mem_filter.1 (List.mem_of_getElem? hp)

theorem setter_compiledToken {notifies : Bool} {p : Property} (hp : p.mutable = true) :
    (p.compiledToken notifies).setter = some (p.compiledSetter notifies) := by
  simp [Property.compiledToken, hp]

theorem setter_compiledToken_of_not {notifies : Bool} {p : Property} (hp : ¬ p.mutable = true) :
    (p.compiledToken notifies).setter = none := by
  simp [Property.compiledToken, hp]

theorem mutable_compiledToken (ht : t.Aligned) {notifies : Bool} {i : ℕ} {p : Property}
    (hp : t.schema.mutable[i]? = some p) : (p.compiledToken notifies).mutable = true := by
  have hordinal : p.ordinal ≠ untracked := by
    rw [ht.ordinal_eq hp, untracked]
    omega
  simp [Token.mutable, Property.compiledToken, (mem_properties hp).2, hordinal]

theorem not_mutable_compiledToken {notifies : Bool} {p : Property} (hp : p.mutable = false) :
    (p.compiledToken notifies).mutable = false := by
  simp [Token.mutable, Property.compiledToken, hp]

/-- **Reports read a mutable property from its slot**, also where it has hooks. -/
theorem read_compiledToken {notifies : Bool} {p : Property} (hp : p.mutable = true)
    (run : Runner) : (p.compiledToken notifies).read run = Exec.readSlot p.ordinal := by
  cases hx : p.extension with
  | none =>
    -- the reader is the getter, and without hooks that reads the slot
    have hgetter : p.getter = .slot p.ordinal := by simp [Property.getter, hx, hp]
    have hread : (p.compiledToken notifies).read run = p.getter.read run := by
      simp [Token.read, Property.compiledToken, hx]
    rw [hread, hgetter]
    rfl
  | some x => simp [Token.read, Property.compiledToken, hx, hp]

end CompiledType

end TrackedEntity
