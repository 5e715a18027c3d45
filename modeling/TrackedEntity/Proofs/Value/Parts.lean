import Mathlib.Logic.Relation
import TrackedEntity.Proofs.Outcome
import TrackedEntity.Value.Making

/-!
# What values are made of

A value `Reaches` itself, its parts, their parts, and so on.  Whether a value can be a key is asked
of a tuple element by element, and of everything else by the type alone; in particular nobody looks
into an immutable set, because its elements had to be keys when it was made.  A value is `Genuine`
if this is so of every set and every mapping that it reaches.

What can be a key then reaches only what can be a key (`Value.hashable_of_reaches`).  Making gives
genuine values, as long as the objects that the text refers to are genuine (`Value.genuine_make`).
-/

namespace TrackedEntity.Value

open Outcome

/-! ### Parts -/

/-- The elements of a container, the keys and values of a mapping, the coordinates of a point, and
what an object with an equality of its own answers. -/
def parts : Value → List Value
  | .list _ items | .tuple _ items | .set _ items | .frozenset _ items => items
  | .dict _ entries => entries.map Prod.fst ++ entries.map Prod.snd
  | .point _ _ x y => [x, y]
  | .comparer _ _ (.answers result) => [result]
  | _ => []

/-- The parts that have to be keys: the elements of a set and the keys of a mapping. -/
def keys : Value → List Value
  | .set _ items | .frozenset _ items => items
  | .dict _ entries => entries.map Prod.fst
  | _ => []

/-- Whether a value is another one or occurs inside it, at any depth. -/
def Reaches : Value → Value → Prop := Relation.ReflTransGen fun v part => part ∈ v.parts

theorem Reaches.part {v part : Value} (h : part ∈ v.parts) : v.Reaches part :=
  Relation.ReflTransGen.single h

theorem reaches_iff {v u : Value} : v.Reaches u ↔ v = u ∨ ∃ part ∈ v.parts, part.Reaches u :=
  Relation.ReflTransGen.cases_head_iff

/-! ### Genuine values -/

/-- Whether everything that stands in the place of a key inside a value can be one. -/
def Genuine (v : Value) : Prop :=
  ∀ u, v.Reaches u → ∀ key ∈ u.keys, key.unhashablePart? = Option.none

theorem genuine_iff {v : Value} :
    v.Genuine ↔ (∀ key ∈ v.keys, key.unhashablePart? = Option.none) ∧
      ∀ part ∈ v.parts, part.Genuine := by
  constructor
  · intro h
    exact ⟨h v .refl, fun part hpart u hu => h u (reaches_iff.2 (.inr ⟨part, hpart, hu⟩))⟩
  · rintro ⟨hkeys, hparts⟩ u hu
    rcases reaches_iff.1 hu with rfl | ⟨part, hpart, hu⟩
    · exact hkeys
    · exact hparts part hpart u hu

/-- Where nothing stands in the place of a key, the parts decide. -/
theorem genuine_of_parts {v : Value} (hkeys : v.keys = []) (h : ∀ part ∈ v.parts, part.Genuine) :
    v.Genuine := by
  refine genuine_iff.2 ⟨fun key hkey => ?_, h⟩
  rw [hkeys] at hkey
  cases hkey

/-- What has no parts is genuine. -/
theorem genuine_of_parts_eq_nil {v : Value} (hparts : v.parts = []) (hkeys : v.keys = []) :
    v.Genuine := by
  refine genuine_of_parts hkeys fun part hpart => ?_
  rw [hparts] at hpart
  cases hpart

/-! ### What can be a key -/

theorem firstUnhashable?_eq_none_iff {vs : List Value} :
    firstUnhashable? vs = Option.none ↔ ∀ v ∈ vs, v.unhashablePart? = Option.none := by
  induction vs with
  | nil => simp [firstUnhashable?]
  | cons v vs ih => rw [firstUnhashable?, Option.or_eq_none_iff, ih, List.forall_mem_cons]

/-- Of what is no tuple the type alone counts. -/
theorem unhashablePart?_eq_none_iff {v : Value} :
    v.unhashablePart? = Option.none ↔
      v.hasUnhashableType = false ∧
        ∀ id items, v = .tuple id items → ∀ item ∈ items, item.unhashablePart? = Option.none := by
  cases v with
  | tuple id items =>
    rw [unhashablePart?, firstUnhashable?_eq_none_iff]
    constructor
    · intro h
      refine ⟨rfl, ?_⟩
      rintro _ _ ⟨⟩
      exact h
    · exact fun h => h.2 id items rfl
  | _ => simp [unhashablePart?, hasUnhashableType]

/-- The parts of what can be a key can be keys. -/
theorem hashable_of_mem_parts {v part : Value} (hgenuine : v.Genuine)
    (hv : v.unhashablePart? = Option.none) (hpart : part ∈ v.parts) :
    part.unhashablePart? = Option.none := by
  obtain ⟨htype, hitems⟩ := unhashablePart?_eq_none_iff.1 hv
  cases v with
  | tuple id items => exact hitems id items rfl part hpart
  | frozenset id items => exact (genuine_iff.1 hgenuine).1 part hpart
  | list | set | dict | point | comparer => cases htype
  | none | bool | int | str | bytes | float | complex | bytearray | sentinel | function | method
  | object | entity | channel => cases hpart

/-- **What can be a key reaches only what can be a key.** -/
theorem hashable_of_reaches {v u : Value} (hgenuine : v.Genuine)
    (hv : v.unhashablePart? = Option.none) (hu : v.Reaches u) :
    u.unhashablePart? = Option.none := by
  induction hu using Relation.ReflTransGen.head_induction_on with
  | refl => exact hv
  | head hpart _ ih =>
    exact ih ((genuine_iff.1 hgenuine).2 _ hpart) (hashable_of_mem_parts hgenuine hv hpart)

/-! ### Making -/

/-- Whether an object was made before. -/
def isMade : Value → Bool
  | .list (.made _) _ | .tuple (.made _) _ | .set (.made _) _ | .frozenset (.made _) _
  | .dict (.made _) _ | .point (.made _) _ _ _ | .comparer (.made _) _ _ => true
  | _ => false

/-- Whether the objects that a text refers to are genuine. -/
def Refers (v : Value) : Prop := ∀ u, v.Reaches u → u.isMade = true → u.Genuine

theorem refers_part {Q : Value → Prop} {v : Value} (h : ∀ u, v.Reaches u → u.isMade = true → Q u) :
    ∀ part ∈ v.parts, ∀ u, part.Reaches u → u.isMade = true → Q u :=
  fun part hpart u hu => h u (reaches_iff.2 (.inr ⟨part, hpart, hu⟩))

/-- For what is not made yet the parts decide. -/
theorem refers_of_parts {v : Value} (hmade : v.isMade = false)
    (h : ∀ part ∈ v.parts, part.Refers) : v.Refers := by
  intro u hu hu'
  rcases reaches_iff.1 hu with rfl | ⟨part, hpart, hu⟩
  · rw [hmade] at hu'
    cases hu'
  · exact h part hpart u hu hu'

/-- Whether a computation that makes objects gives only such results. -/
def Making.Gives (P : α → Prop) (x : Making α) : Prop :=
  ∀ serial a serial', x.run serial = (.ok a, serial') → P a

namespace Making.Gives

variable {α β : Type} {P : α → Prop} {Q : β → Prop}

theorem pure {a : α} (h : P a) : Gives P (Pure.pure a) := by
  rintro serial a' serial' ⟨⟩
  exact h

theorem bind {x : Making α} {f : α → Making β} (hx : Gives P x) (hf : ∀ a, P a → Gives Q (f a)) :
    Gives Q (x >>= f) := by
  intro serial b serial' h
  rw [run_bind] at h
  cases hr : x.run serial with
  | mk r next =>
    rw [hr] at h
    cases r with
    | error f => cases h
    | ok a => exact hf a (hx serial a next hr) next b serial' h

/-- Of what is made first the rest need not know anything. -/
theorem andThen {x : Making α} {f : α → Making β} (hf : ∀ a, Gives Q (f a)) : Gives Q (x >>= f) :=
  bind (P := fun _ => True) (fun _ _ _ _ => trivial) fun a _ => hf a

theorem ofExcept {r : Except Fault α} (h : ∀ a, r = .ok a → P a) : Gives P (Making.ofExcept r) := by
  intro serial a serial' hrun
  cases r with
  | error f => cases hrun
  | ok a' =>
    cases hrun
    exact h a rfl

end Making.Gives

theorem requireHashable_eq_ok_iff {v : Value} {u : Unit} :
    v.requireHashable = .ok u ↔ v.unhashablePart? = Option.none := by
  rw [requireHashable]
  cases v.unhashablePart? with
  | none => exact ⟨fun _ => rfl, fun _ => rfl⟩
  | some typeName => exact ⟨fun h => (by cases h), fun h => by cases h⟩

theorem hashable_of_forM {items : List Value} {u : Unit}
    (h : items.forM requireHashable = .ok u) :
    ∀ item ∈ items, item.unhashablePart? = Option.none := by
  induction items with
  | nil => exact fun item hitem => absurd hitem List.not_mem_nil
  | cons item items ih =>
    obtain ⟨u', hitem, hitems⟩ := bind_eq_ok.1 h
    exact List.forall_mem_cons.2 ⟨requireHashable_eq_ok_iff.1 hitem, ih hitems⟩

theorem mem_of_mem_distinctItems {items : List Value} {v : Value} (h : v ∈ distinctItems items) :
    v ∈ items := by
  -- what is kept so far was there before or comes from the items
  have hfold : ∀ kept : List Value,
      v ∈ items.foldl (fun kept v => if kept.any (sameKey v) then kept else kept ++ [v]) kept →
        v ∈ kept ∨ v ∈ items := by
    clear h
    induction items with
    | nil => exact fun kept hkept => .inl hkept
    | cons item items ih =>
      intro kept hmem
      rw [List.foldl_cons] at hmem
      rcases ih _ hmem with hkept | hitems
      · split at hkept
        · exact .inl hkept
        · rcases List.mem_append.1 hkept with hkept | hkept
          · exact .inl hkept
          · exact .inr (List.mem_cons.2 (.inl (List.mem_singleton.1 hkept)))
      · exact .inr (List.mem_cons_of_mem item hitems)
  rcases hfold [] h with hnil | hitems
  · cases hnil
  · exact hitems

/-- Writing an entry brings in no other key and no other value. -/
theorem forall_mem_putEntry {P Q : Value → Prop} {entries : List (Value × Value)} {k v : Value}
    (hk : P k) (hv : Q v) (h : ∀ e ∈ entries, P e.1 ∧ Q e.2) :
    ∀ e ∈ putEntry entries k v, P e.1 ∧ Q e.2 := by
  induction entries with
  | nil =>
    intro e he
    obtain rfl := List.mem_singleton.1 he
    exact ⟨hk, hv⟩
  | cons e entries ih =>
    rw [List.forall_mem_cons] at h
    rw [putEntry]
    split
    · exact List.forall_mem_cons.2 ⟨⟨h.1.1, hv⟩, h.2⟩
    · exact List.forall_mem_cons.2 ⟨h.1, ih h.2⟩

theorem forall_mem_distinctEntries {P Q : Value → Prop} {entries : List (Value × Value)}
    (h : ∀ e ∈ entries, P e.1 ∧ Q e.2) : ∀ e ∈ distinctEntries entries, P e.1 ∧ Q e.2 := by
  have hfold : ∀ kept : List (Value × Value), (∀ e ∈ kept, P e.1 ∧ Q e.2) →
      ∀ e ∈ entries.foldl (fun kept e => putEntry kept e.1 e.2) kept, P e.1 ∧ Q e.2 := by
    induction entries with
    | nil => exact fun kept hkept => hkept
    | cons e entries ih =>
      intro kept hkept
      rw [List.forall_mem_cons] at h
      exact ih h.2 _ (forall_mem_putEntry h.1.1 h.1.2 hkept)
  exact hfold [] fun e he => absurd he List.not_mem_nil

/-- What is kept of the elements of a set can be keys. -/
theorem gives_setItems {Q : Value → Prop} {items : List Value} (h : ∀ item ∈ items, Q item) :
    Making.Gives (fun kept => ∀ item ∈ kept, item.unhashablePart? = Option.none ∧ Q item)
      (setItems items) := by
  refine Making.Gives.bind (Making.Gives.ofExcept fun u hu => hashable_of_forM hu) ?_
  intro _ hhashable
  refine Making.Gives.pure fun item hitem => ?_
  have hmem := mem_of_mem_distinctItems hitem
  exact ⟨hhashable item hmem, h item hmem⟩

/-- Whether a property of values holds of whatever is made of values that have it. -/
structure Making.Closed (Q : Value → Prop) : Prop where
  of_parts : ∀ {v : Value}, v.keys = [] → (∀ part ∈ v.parts, Q part) → Q v
  set : ∀ {id : Identity} {items : List Value},
    (∀ item ∈ items, item.unhashablePart? = Option.none ∧ Q item) →
      Q (.set id items) ∧ Q (.frozenset id items)
  dict : ∀ {id : Identity} {entries : List (Value × Value)},
    (∀ e ∈ entries, (e.1.unhashablePart? = Option.none ∧ Q e.1) ∧ Q e.2) →
      Q (.dict id (distinctEntries entries))

/-- What has no parts has the property. -/
theorem Making.Closed.of_parts_eq_nil {Q : Value → Prop} (hQ : Making.Closed Q) {v : Value}
    (hkeys : v.keys = []) (hparts : v.parts = []) : Q v := by
  refine hQ.of_parts hkeys fun part hpart => ?_
  rw [hparts] at hpart
  cases hpart

namespace Making.Gives

variable {Q : Value → Prop}

mutual

theorem make (hQ : Making.Closed Q) :
    ∀ v : Value, (∀ u, v.Reaches u → u.isMade = true → Q u) → Gives Q v.make
  | .float .. | .complex .. | .bytearray .. | .sentinel .. | .function .. | .method ..
  | .object _ => fun _ => andThen fun _ => pure (hQ.of_parts_eq_nil rfl rfl)
  | .list .written items | .tuple .written items => fun h =>
    andThen fun _ => bind (makeItems hQ items (refers_part h)) fun _ hitems =>
      pure (hQ.of_parts rfl hitems)
  | .set .written items => fun h =>
    andThen fun _ => bind (makeItems hQ items (refers_part h)) fun _ hitems =>
      bind (gives_setItems hitems) fun _ hkept => pure (hQ.set hkept).1
  | .frozenset .written items => fun h =>
    andThen fun _ => bind (makeItems hQ items (refers_part h)) fun _ hitems =>
      bind (gives_setItems hitems) fun _ hkept => pure (hQ.set hkept).2
  | .dict .written entries => fun h =>
    andThen fun _ => bind (makeEntries hQ entries fun e he =>
        ⟨refers_part h _ (List.mem_append_left _ (List.mem_map_of_mem he)),
          refers_part h _ (List.mem_append_right _ (List.mem_map_of_mem he))⟩) fun _ hentries =>
      pure (hQ.dict hentries)
  | .point .written _ x y => fun h =>
    andThen fun _ => bind (make hQ x (refers_part h _ (by simp [parts]))) fun _ hx =>
      bind (make hQ y (refers_part h _ (by simp [parts]))) fun _ hy =>
        pure (hQ.of_parts rfl (by simpa [parts] using ⟨hx, hy⟩))
  | .comparer .written _ (.answers result) => fun h =>
    andThen fun _ => bind (make hQ result (refers_part h _ (by simp [parts]))) fun _ hresult =>
      pure (hQ.of_parts rfl (by simpa [parts] using hresult))
  | .comparer .written _ (.raises _ _) | .comparer .written _ .undecided
  | .comparer .written _ .abstains => fun _ =>
    andThen fun _ => pure (hQ.of_parts_eq_nil rfl rfl)
  | .none | .bool _ | .int _ | .str _ | .bytes _ | .entity _ | .channel => fun _ =>
    pure (hQ.of_parts_eq_nil rfl rfl)
  | .list (.made _) _ | .tuple (.made _) _ | .set (.made _) _ | .frozenset (.made _) _
  | .dict (.made _) _ | .point (.made _) _ _ _ | .comparer (.made _) _ _ => fun h =>
    pure (h _ .refl rfl)
termination_by structural v => v

theorem makeItems (hQ : Making.Closed Q) : ∀ vs : List Value,
    (∀ v ∈ vs, ∀ u, v.Reaches u → u.isMade = true → Q u) →
    Gives (fun items => ∀ item ∈ items, Q item) (Value.makeItems vs)
  | [] => fun _ => pure fun _ hitem => absurd hitem List.not_mem_nil
  | v :: vs => fun h =>
    bind (make hQ v (h v List.mem_cons_self)) fun _ hv =>
      bind (makeItems hQ vs fun u hu => h u (List.mem_cons_of_mem v hu)) fun _ hvs =>
        pure (List.forall_mem_cons.2 ⟨hv, hvs⟩)
termination_by structural vs => vs

theorem makeEntries (hQ : Making.Closed Q) : ∀ es : List (Value × Value),
    (∀ e ∈ es, (∀ u, e.1.Reaches u → u.isMade = true → Q u) ∧
      ∀ u, e.2.Reaches u → u.isMade = true → Q u) →
    Gives (fun entries => ∀ e ∈ entries,
      (e.1.unhashablePart? = Option.none ∧ Q e.1) ∧ Q e.2) (Value.makeEntries es)
  | [] => fun _ => pure fun _ he => absurd he List.not_mem_nil
  | (k, v) :: es => fun h =>
    bind (make hQ k (h _ List.mem_cons_self).1) fun _ hk =>
      bind (make hQ v (h _ List.mem_cons_self).2) fun _ hv =>
        bind (ofExcept fun _ hkey => requireHashable_eq_ok_iff.1 hkey) fun _ hkey =>
          bind (makeEntries hQ es fun e he => h e (List.mem_cons_of_mem _ he)) fun _ hes =>
            pure (List.forall_mem_cons.2 ⟨⟨⟨hkey, hk⟩, hv⟩, hes⟩)
termination_by structural es => es

end

end Making.Gives

theorem genuine_set {id : Identity} {items : List Value}
    (h : ∀ item ∈ items, item.unhashablePart? = Option.none ∧ item.Genuine) :
    (Value.set id items).Genuine ∧ (Value.frozenset id items).Genuine :=
  ⟨genuine_iff.2 ⟨fun item hitem => (h item hitem).1, fun item hitem => (h item hitem).2⟩,
    genuine_iff.2 ⟨fun item hitem => (h item hitem).1, fun item hitem => (h item hitem).2⟩⟩

/-- A mapping is genuine if the entries that were written one after another could be written. -/
theorem genuine_dict {id : Identity} {entries : List (Value × Value)}
    (h : ∀ e ∈ entries, (e.1.unhashablePart? = Option.none ∧ e.1.Genuine) ∧ e.2.Genuine) :
    (Value.dict id (distinctEntries entries)).Genuine := by
  have hkept : ∀ e ∈ distinctEntries entries,
      (e.1.unhashablePart? = Option.none ∧ e.1.Genuine) ∧ e.2.Genuine :=
    forall_mem_distinctEntries (P := fun k => k.unhashablePart? = Option.none ∧ k.Genuine) h
  refine genuine_iff.2 ⟨List.forall_mem_map.2 fun e he => (hkept e he).1.1,
    List.forall_mem_append.2 ⟨?_, ?_⟩⟩
  · exact List.forall_mem_map.2 fun e he => (hkept e he).1.2
  · exact List.forall_mem_map.2 fun e he => (hkept e he).2

theorem closed_genuine : Making.Closed Genuine := ⟨genuine_of_parts, genuine_set, genuine_dict⟩

/-- **What is made is genuine**, if the objects that the text refers to are. -/
theorem genuine_make {v made : Value} {serial serial' : ℕ} (h : v.Refers)
    (hmake : v.make.run serial = (.ok made, serial')) : made.Genuine :=
  Making.Gives.make closed_genuine v h serial made serial' hmake

end TrackedEntity.Value
