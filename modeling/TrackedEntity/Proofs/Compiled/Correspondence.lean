import TrackedEntity.Proofs.Compiled.Tables
import TrackedEntity.Proofs.Contract.Flattening

/-!
# Names, ordinals and tokens correspond

Four tables are made from the properties of a schema, each by a filter of its own: the tokens by
name, the names and the defaults by ordinal, and the layout by the number of mutable properties.
`CompiledType.tables_agree` says that they are about the same properties.

What carries it is that ordinals are given out along the schema: the ordinal of a mutable property
is its place among the mutable ones (`Aligned.ordinal_eq`), and so it is the place of its name among
the names and of its default among the defaults.  Therefore names and ordinals of mutable properties
determine each other (`Aligned.getElem?_names_iff`), whatever read-only properties stand between
them.  The layout has a bit for each of the ordinals (`Layout.lt_size_of_allocate`), and a new mask
of it takes any of them (`Layout.mark_new`).
-/

namespace TrackedEntity

open Outcome

/-! ### Layouts with room -/

theorem MaskKind.eight_dvd_of_width {kind : MaskKind} {width : ℕ} (h : kind.width? = some width) :
    8 ∣ width := by
  cases kind <;> cases h <;> decide

namespace Layout

variable {layout : Layout} {count : ℕ}

theorem eq_of_allocate (h : allocate count = .ok layout) : layout = ⟨kindFor count, count⟩ := by
  rw [allocate, if_neg (by omega)] at h
  exact (Except.ok.inj h).symm

/-- The scalar kind that is chosen is wide enough. -/
theorem le_width_kindFor {width : ℕ} (h : (kindFor count).width? = some width) :
    count ≤ width := by
  unfold kindFor at h
  cases hfind : MaskKind.scalars.find? fun kind => (count : ℤ) ≤ (kind.width?.getD 0 : ℕ) with
  | none =>
    -- bytes have no width
    rw [hfind] at h
    cases h
  | some kind =>
    have hle := List.find?_some hfind
    rw [hfind, Option.getD_some] at h
    rw [h, Option.getD_some, decide_eq_true_eq] at hle
    omega

/-- **An allocated layout has a bit for each ordinal.** -/
theorem lt_size_of_allocate (h : allocate count = .ok layout) {i : ℕ} (hi : i < count) :
    (i : ℤ) < 8 * layout.size := by
  obtain rfl := eq_of_allocate h
  unfold size
  cases hwidth : (kindFor count).width? with
  | none =>
    show (i : ℤ) < 8 * (((count : ℤ) + 7) / 8)
    omega
  | some width =>
    have hle := le_width_kindFor hwidth
    have hdvd := MaskKind.eight_dvd_of_width hwidth
    show (i : ℤ) < 8 * ((width : ℤ) / 8)
    omega

/-- A new mask takes each ordinal, and then holds this one and no other. -/
theorem mark_new (h : allocate count = .ok layout) {mask : Mask} (hn : layout.new = .ok mask)
    {i : ℕ} (hi : i < count) :
    ∃ marked, mask.mark i = .ok marked ∧
      ∀ j < count, mask.isSet j = .ok false ∧ marked.isSet j = .ok (decide (j = i)) := by
  have hserves := (allocated_of_new h hn).serves
  have hroom : ∀ j < count, mask.HasRoom j := fun j hj => (fits_new hserves hn).hasRoom hserves hj
  refine ⟨mask.insert i, Mask.mark_eq (hroom i hi), fun j hj => ⟨?_, ?_⟩⟩
  · rw [Mask.isSet_eq (hroom j hj), has_new hn]
  · rw [Mask.isSet_eq ((hroom j hj).insert i), Mask.has_insert (hroom i hi), has_new hn,
      Bool.or_false]

end Layout

namespace CompiledType

/-! ### Names and ordinals -/

namespace Aligned

variable {t : CompiledType} (ht : t.Aligned)
include ht

/-- The tokens stand in the order of the properties. -/
theorem keys_tokens : Table.keys t.tokens = t.schema.properties.map (·.name) := by
  rw [ht.tokens_eq, Table.keys, List.map_map]
  rfl

/-- The token of a property is mutable if the property is. -/
theorem mutable_token {p : Property} (hp : p ∈ t.schema.properties) :
    (p.compiledToken t.schema.needsNotification).mutable = p.mutable := by
  cases hm : p.mutable with
  | false => exact not_mutable_compiledToken hm
  | true =>
    obtain ⟨i, hi⟩ := List.mem_iff_getElem?.1 (List.mem_filter.2 ⟨hp, hm⟩)
    exact mutable_compiledToken ht hi

/-- **Names and ordinals of mutable properties determine each other**: a name has an ordinal in the
list of names exactly if it has a mutable token with that ordinal. -/
theorem getElem?_names_iff {i : ℕ} {name : String} :
    t.names[i]? = some name ↔
      ∃ token, t.tokens.get? name = some token ∧ token.mutable = true ∧ token.ordinal = (i : ℤ) := by
  constructor
  · intro h
    rw [ht.names_eq, List.getElem?_map, Option.map_eq_some_iff] at h
    obtain ⟨p, hp, rfl⟩ := h
    exact ⟨_, ht.get?_token (mem_properties hp).1, mutable_compiledToken ht hp, ht.ordinal_eq hp⟩
  · rintro ⟨token, htoken, hmutable, hordinal⟩
    obtain ⟨p, hp, rfl, rfl⟩ := ht.token_iff.1 htoken
    rw [ht.mutable_token hp] at hmutable
    -- the place of the property among the mutable ones is its ordinal
    obtain ⟨j, hj⟩ := List.mem_iff_getElem?.1 (List.mem_filter.2 ⟨hp, hmutable⟩)
    have hij : (j : ℤ) = i := (ht.ordinal_eq hj).symm.trans hordinal
    obtain rfl : j = i := by omega
    exact ht.getElem?_names hj

/-- Ordinals increase along the mutable properties. -/
theorem pairwise_ordinal : (t.schema.mutable.map (·.ordinal)).Pairwise (· < ·) := by
  rw [Schema.mutable, ht.numbered.map_ordinal, List.pairwise_map]
  exact List.pairwise_lt_range.imp fun h => by omega

end Aligned

/-- **The tables of a compiled type agree** with its schema, which is that of the contract, and with
each other.

The tokens stand in the order of the properties.  Names and defaults are as many as there are
mutable properties, which is the count of the layout, and no name comes twice.  The name at an
ordinal has a mutable token with that ordinal and a setter, its reports are read from the slot of
that ordinal, and the default at the ordinal is that of its property.  Tokens are mutable as their
properties are; those of read-only properties have no setter and are untracked.  Ordinals increase
along the schema, the layout has a bit for each of them, and names and ordinals determine each
other. -/
theorem tables_agree {catalog : Catalog} {settings : Settings} {contract : Contract}
    {t : CompiledType} (h : catalog.compile settings contract = .ok t) :
    catalog.analyzeContract settings contract = .ok t.schema ∧
    Table.keys t.tokens = t.schema.properties.map (·.name) ∧
    t.names.length = t.schema.mutable.length ∧
    t.defaults.length = t.schema.mutable.length ∧
    t.layout.count = t.schema.mutable.length ∧
    t.names.Nodup ∧
    (∀ i < t.schema.mutable.length, ∃ name token setter p,
      t.names[i]? = some name ∧ t.tokens.get? name = some token ∧ token.name = name ∧
      token.mutable = true ∧ token.ordinal = (i : ℤ) ∧
      token.setter = some setter ∧ setter.name = name ∧ setter.ordinal = (i : ℤ) ∧
      (∀ run, token.read run = Exec.readSlot (i : ℤ)) ∧
      t.schema.find? name = some p ∧ t.defaults[i]? = some p.default) ∧
    (∀ p ∈ t.schema.properties, ∃ token, t.tokens.get? p.name = some token ∧
      token.mutable = p.mutable ∧ token.ordinal = p.ordinal ∧
      (p.mutable = false → token.setter = none ∧ token.ordinal = untracked)) ∧
    (t.schema.mutable.map (·.ordinal)).Pairwise (· < ·) ∧
    (∀ i < t.schema.mutable.length, (i : ℤ) < 8 * t.layout.size ∧
      ∀ mask, t.layout.new = .ok mask → ∃ marked, mask.mark i = .ok marked ∧
        ∀ j < t.schema.mutable.length,
          mask.isSet j = .ok false ∧ marked.isSet j = .ok (decide (j = i))) ∧
    (∀ (i : ℕ) name, t.names[i]? = some name ↔
      ∃ token, t.tokens.get? name = some token ∧ token.mutable = true ∧
        token.ordinal = (i : ℤ)) := by
  have ht := aligned_of_compile h
  refine ⟨?_, ht.keys_tokens, ?_, ht.length_defaults, ?_, ht.nodup_names, ?_, ?_,
    ht.pairwise_ordinal, ?_, fun i name => ht.getElem?_names_iff⟩
  · -- the schema is that of the contract
    cases contract with
    | ofValue v => cases h
    | ofClass ref =>
      obtain ⟨schema, hschema, h⟩ := bind_eq_ok.1 h
      obtain ⟨layout, -, h⟩ := bind_eq_ok.1 h
      obtain ⟨tokens, -, h⟩ := bind_eq_ok.1 h
      obtain rfl := Except.ok.inj h
      exact hschema
  · rw [ht.names_eq, List.length_map]
  · rw [Layout.eq_of_allocate ht.layout_eq, Schema.mutableCount]
  · -- the places of the mutable properties
    intro i hi
    obtain ⟨p, hp⟩ : ∃ p, t.schema.mutable[i]? = some p := ⟨_, List.getElem?_eq_getElem hi⟩
    obtain ⟨hmem, hmutable⟩ := mem_properties hp
    have hordinal := ht.ordinal_eq hp
    refine ⟨p.name, _, _, p, ht.getElem?_names hp, ht.get?_token hmem, rfl,
      mutable_compiledToken ht hp, hordinal, setter_compiledToken hmutable, rfl, hordinal,
      fun run => ?_, ht.find?_eq_some_iff.2 ⟨hmem, rfl⟩, ht.getElem?_defaults hp⟩
    rw [read_compiledToken hmutable, hordinal]
  · -- the tokens of all properties
    intro p hp
    refine ⟨_, ht.get?_token hp, ht.mutable_token hp, rfl, fun hmutable => ⟨?_, ?_⟩⟩
    · exact setter_compiledToken_of_not (by simp [hmutable])
    · exact ht.numbered.untracked_of_not_mutable hp hmutable
  · intro i hi
    exact ⟨Layout.lt_size_of_allocate ht.layout_eq hi,
      fun mask hmask => Layout.mark_new ht.layout_eq hmask hi⟩

end CompiledType

namespace Sample

theorem isSome_compile_diamond :
    (diamond.compile .default (.ofClass (.declared 3))).toOption.isSome = true := by rfl

/-- The type that the contract compiles to. -/
def diamondType : CompiledType :=
  (diamond.compile .default (.ofClass (.declared 3))).toOption.get isSome_compile_diamond

theorem compile_diamond :
    diamond.compile .default (.ofClass (.declared 3)) = .ok diamondType := rfl

end Sample

open Sample in
/-- Where a read-only property stands between two mutable ones, the second of these still has the
second slot. -/
theorem CompiledType.tables_agree_diamond :
    diamond.compile .default (.ofClass (.declared 3)) = .ok diamondType ∧
    Table.keys diamondType.tokens = ["own", "label", "id"] ∧
    diamondType.names = ["own", "id"] ∧
    (∃ token, diamondType.tokens.get? "id" = some token ∧ token.mutable = true ∧
      token.ordinal = 1) ∧
    ∀ p ∈ diamondType.schema.properties, ∃ token, diamondType.tokens.get? p.name = some token ∧
      token.mutable = p.mutable := by
  obtain ⟨-, hkeys, -, -, -, -, -, htokens, -, -, hiff⟩ := tables_agree compile_diamond
  refine ⟨compile_diamond, hkeys.trans rfl, rfl, (hiff 1 "id").1 rfl, fun p hp => ?_⟩
  obtain ⟨token, htoken, hmutable, -⟩ := htokens p hp
  exact ⟨token, htoken, hmutable⟩

end TrackedEntity
