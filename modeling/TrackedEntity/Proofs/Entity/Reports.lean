import TrackedEntity.Proofs.Entity.Invariant
import TrackedEntity.Proofs.Value.Comparison

/-!
# What sound entities report

Reports on a sound entity never fail and change nothing, and they say what mask and slots say: a
mutable property is marked when the mask has its ordinal (`run_isMarked`), is reported with the
value in its slot, whatever its hooks (`run_read`), and is found by name when it is marked
(`run_tryGet`).  The entity is changed with respect to some keys when one of them is the name of a
marked property (`run_hasChanges_of_keys`), and its changes are the marked properties with the
values in their slots, by ordinal (`run_changes`).
-/

namespace TrackedEntity

open Exec

namespace CompiledType

variable {t : CompiledType} {handlers : Table String HandlerSpec} {run : Runner} {m : Moment}

/-! ### Tokens -/

theorem run_token? (name : String) :
    ((t.scene handlers).token? (.str name)).run m = (.ok (t.tokens.get? name), m) := rfl

theorem run_token?_of_key {key : Value} (hkey : key.requireHashable = .ok ()) :
    ((t.scene handlers).token? key).run m = (.ok (key.str?.bind t.tokens.get?), m) := by
  rw [Scene.token?, run_bind, run_ofExcept, hkey]
  rfl

/-- What is no name of a property cannot be read. -/
theorem run_tryGet_of_unknown (ht : t.Aligned) {key : Value}
    (hkey : key.requireHashable = .ok ())
    (hother : ∀ p ∈ t.schema.properties, key ≠ .str p.name) :
    ((t.scene handlers).tryGet run key).run m = (.ok none, m) := by
  have htoken : key.str?.bind t.tokens.get? = none := by
    rw [Option.bind_eq_none_iff]
    intro name hname
    rw [ht.get?_tokens_eq_none]
    rintro p hp rfl
    exact hother p hp (Value.eq_str_of_str? hname)
  unfold Scene.tryGet
  rw [run_bind_ok (run_token?_of_key hkey), htoken]
  rfl

/-! ### Assignments by name -/

/-- A name without setter is not assigned. -/
theorem run_trySet_of_no_setter {name : String} (v : Value)
    (hs : (t.tokens.get? name).bind (·.setter) = none) :
    ((t.scene handlers).trySet run (.str name) v).run m = (.ok false, m) := by
  unfold Scene.trySet
  rw [run_bind_ok (run_token? name), hs]
  exact run_pure m false

/-- A name with setter is assigned through it. -/
theorem run_trySet_of_setter {name : String} (v : Value) {s : Setter}
    (hs : (t.tokens.get? name).bind (·.setter) = some s) :
    ((t.scene handlers).trySet run (.str name) v).run m =
      (s.assign run v >>= fun _ => pure true).run m := by
  unfold Scene.trySet
  rw [run_bind_ok (run_token? name), hs]

/-! ### Mutable properties -/

/-- Each mutable property has its value in a slot. -/
theorem Sound.exists_slot {e : EntityState} (h : t.Sound e) {i : ℕ} {p : Property}
    (hp : t.schema.mutable[i]? = some p) : ∃ v, e.slots[i]? = some v := by
  have hi : i < e.slots.length := by
    rw [h.length_slots]
    exact lt_mutableCount hp
  exact ⟨_, List.getElem?_eq_getElem hi⟩

section Mutable

variable (ht : t.Aligned) (h : t.Sound m.entity) {i : ℕ} {p : Property}
  (hp : t.schema.mutable[i]? = some p)
include ht h hp

theorem run_isMarked :
    (Scene.isMarked (p.compiledToken t.schema.needsNotification)).run m =
      (.ok (m.entity.mask.has i), m) := by
  unfold Scene.isMarked
  rw [run_bind_ok (run_entity m), run_ofExcept]
  show (Except.mapError _ (m.entity.mask.isSet p.ordinal), m) = _
  rw [ht.ordinal_eq hp, Mask.isSet_eq (h.hasRoom (lt_mutableCount hp))]
  rfl

variable {v : Value} (hv : m.entity.slots[i]? = some v)
include hv

theorem run_readSlot_ordinal : (readSlot p.ordinal).run m = (.ok v, m) := by
  rw [ht.ordinal_eq hp]
  exact run_readSlot m (h.lt_word (lt_mutableCount hp)) hv

/-- Without hooks a property is read from its slot. -/
theorem run_getter (hx : p.extension = none) : (p.getter.read run).run m = (.ok v, m) := by
  have hgetter : p.getter = .slot p.ordinal := by
    simp [Property.getter, hx, (mem_properties hp).2]
  rw [hgetter]
  exact run_readSlot_ordinal ht h hp hv

/-- Reports find the value of a mutable property in its slot. -/
theorem run_read :
    ((p.compiledToken t.schema.needsNotification).read run).run m = (.ok v, m) := by
  rw [read_compiledToken (mem_properties hp).2]
  exact run_readSlot_ordinal ht h hp hv

/-- **A mutable property is found by name when it is marked**, with the value in its slot. -/
theorem run_tryGet :
    ((t.scene handlers).tryGet run (.str p.name)).run m =
      (.ok (if m.entity.mask.has i then some v else none), m) := by
  unfold Scene.tryGet
  rw [run_bind_ok (run_token? p.name), ht.get?_token (mem_properties hp).1]
  simp only [mutable_compiledToken ht hp, ↓reduceIte]
  rw [run_bind_ok (run_isMarked ht h hp)]
  cases m.entity.mask.has i with
  | false => rfl
  | true =>
    show ((p.compiledToken t.schema.needsNotification).read run >>= fun v =>
      pure (some v)).run m = _
    rw [run_bind_ok (run_read ht h hp hv)]
    rfl

end Mutable

/-! ### Changes -/

theorem run_anyChanged_of_mutable (ht : t.Aligned) (h : t.Sound m.entity) {i : ℕ} {p : Property}
    (hp : t.schema.mutable[i]? = some p) (keys : List Value) :
    ((t.scene handlers).anyChanged (.str p.name :: keys)).run m =
      if m.entity.mask.has i then (.ok true, m)
      else ((t.scene handlers).anyChanged keys).run m := by
  rw [Scene.anyChanged, run_bind_ok (run_token? p.name), ht.get?_token (mem_properties hp).1]
  simp only [mutable_compiledToken ht hp, ↓reduceIte]
  rw [run_bind_ok (run_isMarked ht h hp)]
  cases m.entity.mask.has i with
  | false => rfl
  | true => rfl

/-- Names of read-only properties and unknown names are passed over. -/
theorem run_anyChanged_of_other (ht : t.Aligned) {name : String}
    (hother : ∀ p ∈ t.schema.mutable, p.name ≠ name) (keys : List Value) :
    ((t.scene handlers).anyChanged (.str name :: keys)).run m =
      ((t.scene handlers).anyChanged keys).run m := by
  rw [Scene.anyChanged, run_bind_ok (run_token? name)]
  cases htoken : t.tokens.get? name with
  | none => rfl
  | some token =>
    obtain ⟨p, hp, rfl, rfl⟩ := ht.token_iff.1 htoken
    have hreadOnly : p.mutable = false := by
      by_contra hm
      exact hother p (List.mem_filter.2 ⟨hp, by simpa using hm⟩) rfl
    simp only [not_mutable_compiledToken hreadOnly, Bool.false_eq_true, ↓reduceIte]

/-- **An entity is changed with respect to one mutable property** when it is marked. -/
theorem run_hasChanges_of_name (ht : t.Aligned) (h : t.Sound m.entity) {i : ℕ} {p : Property}
    (hp : t.schema.mutable[i]? = some p) :
    ((t.scene handlers).hasChanges [.str p.name]).run m = (.ok (m.entity.mask.has i), m) := by
  have hasks : (Scene.asksForAny [.str p.name]).run m = (.ok false, m) := rfl
  unfold Scene.hasChanges
  rw [run_bind_ok hasks]
  show ((t.scene handlers).anyChanged [.str p.name]).run m = _
  rw [run_anyChanged_of_mutable ht h hp]
  cases m.entity.mask.has i with
  | false => rfl
  | true => rfl

/-- Whether any of several keys names something that changed. -/
def anyNamed (changed : String → Bool) (keys : List Value) : Bool :=
  keys.any fun key => key.str?.any changed

section Keys

variable (ht : t.Aligned) (h : t.Sound m.entity) {changed : String → Bool}
  (hmarked : ∀ (i : ℕ) p, t.schema.mutable[i]? = some p → m.entity.mask.has i = changed p.name)
  (hother : ∀ name, (∀ p ∈ t.schema.mutable, p.name ≠ name) → changed name = false)
  {keys : List Value} (hkeys : ∀ key ∈ keys, key.requireHashable = .ok ())
include hkeys

/-- What is asked of an entity without names is whether it changed at all, and so it is with a
single absence in the place of a name. -/
theorem run_asksForAny :
    (Scene.asksForAny keys).run m = (.ok (decide (keys = [] ∨ keys = [.none])), m) := by
  match keys with
  | [] => rfl
  | [key] =>
    have hkey := Value.identityFirst_none (hkeys key List.mem_cons_self)
    rw [Scene.asksForAny, run_ofExcept, hkey]
    simp [Except.mapError]
  | key :: other :: rest =>
    have hkey := Value.identityFirst_none (hkeys key List.mem_cons_self)
    show (ofExcept (Value.identityFirst key .none) >>= fun _ => pure false).run m = _
    rw [run_bind, run_ofExcept, hkey]
    simp [Except.mapError, run_pure]

include ht h hmarked hother

theorem run_anyChanged :
    ((t.scene handlers).anyChanged keys).run m = (.ok (anyNamed changed keys), m) := by
  induction keys with
  | nil => rfl
  | cons key keys ih =>
    have hrest := ih fun key' hkey' => hkeys key' (List.mem_cons_of_mem key hkey')
    rw [anyNamed, List.any_cons, ← anyNamed]
    cases hname : key.str? with
    | none =>
      -- a key that is no text has no token
      have htoken : ((t.scene handlers).token? key).run m = (.ok none, m) := by
        rw [run_token?_of_key (hkeys key List.mem_cons_self), hname, Option.bind_none]
      rw [Scene.anyChanged, run_bind_ok htoken, Option.any_none, Bool.false_or]
      exact hrest
    | some name =>
      obtain rfl : key = .str name := Value.eq_str_of_str? hname
      rw [Option.any_some]
      by_cases hp : ∃ p ∈ t.schema.mutable, p.name = name
      · obtain ⟨p, hp, rfl⟩ := hp
        obtain ⟨i, hi⟩ := List.mem_iff_getElem?.1 hp
        rw [run_anyChanged_of_mutable ht h hi, hmarked i p hi, hrest]
        cases changed p.name with
        | false => rfl
        | true => rfl
      · have hname : ∀ p ∈ t.schema.mutable, p.name ≠ name := fun p hp' heq => hp ⟨p, hp', heq⟩
        rw [run_anyChanged_of_other ht hname, hother name hname, hrest, Bool.false_or]

/-- **An entity is changed with respect to some keys** when one of them names a property that is
marked. -/
theorem run_hasChanges_of_keys (hnil : keys ≠ []) (hnone : keys ≠ [.none]) :
    ((t.scene handlers).hasChanges keys).run m = (.ok (anyNamed changed keys), m) := by
  have hasks : (Scene.asksForAny keys).run m = (.ok false, m) := by
    rw [run_asksForAny hkeys, decide_eq_false (not_or.2 ⟨hnil, hnone⟩)]
  unfold Scene.hasChanges
  rw [run_bind_ok hasks]
  exact run_anyChanged ht h hmarked hother hkeys

end Keys

/-- **An entity is changed with respect to some names** when one of them names a property that is
marked. -/
theorem run_hasChanges_of_names (ht : t.Aligned) (h : t.Sound m.entity) {changed : String → Bool}
    (hmarked : ∀ (i : ℕ) p, t.schema.mutable[i]? = some p →
      m.entity.mask.has i = changed p.name)
    (hother : ∀ name, (∀ p ∈ t.schema.mutable, p.name ≠ name) → changed name = false)
    {names : List String} (hnames : names ≠ []) :
    ((t.scene handlers).hasChanges (names.map .str)).run m = (.ok (names.any changed), m) := by
  have hkeys : ∀ key ∈ names.map Value.str, key.requireHashable = .ok () := by
    intro key hkey
    obtain ⟨name, -, rfl⟩ := List.mem_map.1 hkey
    rfl
  have hnone : names.map Value.str ≠ [.none] := fun heq => by
    have hmem : Value.none ∈ names.map Value.str := heq ▸ List.mem_singleton.2 rfl
    obtain ⟨name, -, hname⟩ := List.mem_map.1 hmem
    cases hname
  have hany : anyNamed changed (names.map .str) = names.any changed := by
    rw [anyNamed, List.any_map]
    rfl
  rw [← hany]
  exact run_hasChanges_of_keys ht h hmarked hother hkeys (by simpa using hnames) hnone

theorem run_hasChanges : ((t.scene handlers).hasChanges []).run m = (.ok m.entity.mask.any, m) :=
  rfl

/-- The marked properties of ordinals with the values in their slots. -/
def reported (t : CompiledType) (e : EntityState) (ordinals : List ℕ) : List (String × Value) :=
  ordinals.map fun i => (t.names.getD i "", e.slots.getD i .none)

theorem run_changesAt (ht : t.Aligned) (h : t.Sound m.entity) {ordinals : List ℕ}
    (hi : ∀ i ∈ ordinals, i < t.schema.mutableCount) :
    ((t.scene handlers).changesAt run ordinals).run m =
      (.ok (t.reported m.entity ordinals), m) := by
  induction ordinals with
  | nil => rfl
  | cons i ordinals ih =>
    have hlt : i < t.schema.mutable.length := hi i List.mem_cons_self
    obtain ⟨p, hp⟩ : ∃ p, t.schema.mutable[i]? = some p := ⟨_, List.getElem?_eq_getElem hlt⟩
    obtain ⟨v, hv⟩ := h.exists_slot hp
    have hname : t.names[i]? = some p.name := ht.getElem?_names hp
    have hname' : (t.scene handlers).names[i]? = some p.name := hname
    have htoken : (t.scene handlers).tokens.get? p.name =
        some (p.compiledToken t.schema.needsNotification) := ht.get?_token (mem_properties hp).1
    unfold Scene.changesAt
    simp only [hname', htoken]
    rw [run_bind_ok (run_read ht h hp hv),
      run_bind_ok (ih fun j hj => hi j (List.mem_cons_of_mem i hj)), run_pure]
    simp only [reported, List.map_cons, List.getD_eq_getElem?_getD, hname, hv, Option.getD_some]

/-- **The changes are the marked properties** with the values in their slots, by ordinal. -/
theorem run_changes (ht : t.Aligned) (h : t.Sound m.entity) :
    ((t.scene handlers).changes run).run m =
      (.ok (t.reported m.entity m.entity.mask.ordinals), m) := by
  have hlt : ∀ i ∈ m.entity.mask.ordinals, i < t.schema.mutableCount :=
    fun i hi => h.lt_of_has (Mask.mem_ordinals.1 hi)
  unfold Scene.changes
  rw [run_bind_ok (run_entity m)]
  dsimp only
  split
  · exact run_changesAt ht h hlt
  · rename_i hany
    have hnone : m.entity.mask.ordinals = [] := by
      rw [List.eq_nil_iff_forall_not_mem]
      intro i hi
      exact hany (Mask.any_iff.2 ⟨i, Mask.mem_ordinals.1 hi⟩)
    rw [hnone]
    rfl

end CompiledType

end TrackedEntity
