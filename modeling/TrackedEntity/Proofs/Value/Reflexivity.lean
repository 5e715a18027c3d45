import TrackedEntity.Proofs.Value.Comparison

/-!
# What is equal to itself

Elements of containers are compared identity first, so a container is equal to itself whatever it
holds.  Asked directly, a value is equal to itself unless it is no number, or an object with an
equality of its own that says something else (`Value.DeniesItself`).  So the two checks that
suppress assignments without effect differ on these only, and only when they are compared with
themselves (`Value.directlyEqual_eq_identityFirst_iff`).

Sets and mappings look for an element among all others, and come by those before it first.  So this
needs that keys do not raise when they are compared, and that no mapping has two equal keys: the
value must be `Proper`.  Making gives proper values (`Value.proper_make`).
-/

namespace TrackedEntity

/-- A number is equal to itself, which is what makes it one. -/
theorem Exact.equals_self {x : Exact} : x.equals x = true ↔ x ≠ .notANumber := by
  cases x <;> simp [Exact.equals]

theorem Binary64.exact_eq_notANumber_iff {x : Binary64} :
    x.exact = .notANumber ↔ x.isNaN = true := by
  unfold Binary64.exact
  split
  · simp [*]
  · split <;> simp [*]

namespace Value

open Outcome

/-! ### Looking for an element -/

theorem ok_of_failsWith_false {α : Type} {x : Except Fault α}
    (h : FailsWith (fun _ => False) x) : ∃ a, x = .ok a := by
  cases x with
  | error f => exact (h f rfl).elim
  | ok a => exact ⟨a, rfl⟩

/-- An element that satisfies a test is found, or another one before it. -/
theorem exists_firstThat {α : Type} {p : α → Verdict} {as : List α} {a : α} (ha : a ∈ as)
    (hp : p a = .ok true) (htotal : ∀ b ∈ as, FailsWith (fun _ => False) (p b)) :
    ∃ b, firstThat p as = .ok (some b) := by
  induction as with
  | nil => cases ha
  | cons b as ih =>
    rw [List.forall_mem_cons] at htotal
    obtain ⟨answer, hanswer⟩ := ok_of_failsWith_false htotal.1
    rw [firstThat, hanswer]
    cases answer with
    | true => exact ⟨b, rfl⟩
    | false =>
      refine ih ((List.mem_cons.1 ha).resolve_left ?_) htotal.2
      rintro rfl
      rw [hanswer] at hp
      cases hp

/-- An element that satisfies a test is found if none before it does. -/
theorem firstThat_append_cons {α : Type} {p : α → Verdict} {before after : List α} {a : α}
    (hbefore : ∀ b ∈ before, p b = .ok false) (hp : p a = .ok true) :
    firstThat p (before ++ a :: after) = .ok (some a) := by
  induction before with
  | nil => rw [List.nil_append, firstThat, hp]
  | cons b before ih =>
    rw [List.forall_mem_cons] at hbefore
    rw [List.cons_append, firstThat, hbefore.1]
    exact ih hbefore.2

theorem identityFirst_self (a : Value) : identityFirst a a = .ok true :=
  if_pos (same_refl a)

/-! ### Proper values -/

/-- Whether no key of a mapping equals one before it. -/
def KeysDiffer (entries : List (Value × Value)) : Prop :=
  entries.Pairwise fun e e' => sameKey e'.1 e.1 = false

/-- Whether a value is as the objects are that can be made: what stands in the place of a key can be
one, and no mapping has two equal keys, at any depth. -/
def Proper (v : Value) : Prop :=
  v.Genuine ∧ ∀ id entries, v.Reaches (.dict id entries) → KeysDiffer entries

theorem proper_iff {v : Value} :
    v.Proper ↔ (∀ key ∈ v.keys, key.unhashablePart? = Option.none) ∧
      (∀ id entries, v = .dict id entries → KeysDiffer entries) ∧
        ∀ part ∈ v.parts, part.Proper := by
  constructor
  · rintro ⟨hgenuine, hdiffer⟩
    refine ⟨(genuine_iff.1 hgenuine).1, ?_, fun part hpart => ?_⟩
    · rintro id entries rfl
      exact hdiffer id entries .refl
    · exact ⟨(genuine_iff.1 hgenuine).2 part hpart, fun id entries hreaches =>
        hdiffer id entries (reaches_iff.2 (.inr ⟨part, hpart, hreaches⟩))⟩
  · rintro ⟨hkeys, hdiffer, hparts⟩
    refine ⟨genuine_iff.2 ⟨hkeys, fun part hpart => (hparts part hpart).1⟩, ?_⟩
    intro id entries hreaches
    rcases reaches_iff.1 hreaches with rfl | ⟨part, hpart, hreaches⟩
    · exact hdiffer id entries rfl
    · exact (hparts part hpart).2 id entries hreaches

/-- Keys are compared without a fault. -/
theorem total_identityFirst {a b : Value} (ha : a.Genuine) (ha' : a.unhashablePart? = Option.none)
    (hb : b.Genuine) (hb' : b.unhashablePart? = Option.none) :
    FailsWith (fun _ => False) (identityFirst a b) :=
  failsWith_sameOr
    (failsWith_equals a b (asks_of_hashable ha ha' _) (asks_of_hashable hb hb' _))

/-! ### Containers -/

theorem itemsEqual_self (xs : List Value) : itemsEqual xs xs = .ok true := by
  induction xs with
  | nil => rfl
  | cons x xs ih =>
    rw [itemsEqual, sameOr, if_pos (same_refl x)]
    exact ih

/-- Elements that can be keys all occur where they come from. -/
theorem itemsWithin_of_subset {xs ys : List Value}
    (hys : ∀ y ∈ ys, y.Genuine ∧ y.unhashablePart? = Option.none) (h : xs ⊆ ys) :
    itemsWithin xs ys = .ok true := by
  induction xs with
  | nil => rfl
  | cons x xs ih =>
    rw [List.cons_subset] at h
    obtain ⟨y, hy⟩ := exists_firstThat (p := identityFirst x) h.1 (identityFirst_self x)
      fun y hy => total_identityFirst (hys x h.1).1 (hys x h.1).2 (hys y hy).1 (hys y hy).2
    rw [itemsWithin]
    unfold identityFirst at hy
    rw [hy]
    exact ih h.2

/-- The last entries of a mapping whose keys differ all occur in it. -/
theorem entriesWithin_append {before xs : List (Value × Value)}
    (hkeys : ∀ e ∈ before ++ xs, e.1.Genuine ∧ e.1.unhashablePart? = Option.none)
    (hdiffer : KeysDiffer (before ++ xs)) : entriesWithin xs (before ++ xs) = .ok true := by
  induction xs generalizing before with
  | nil => rfl
  | cons e xs ih =>
    have hmem : e ∈ before ++ e :: xs := List.mem_append_right _ List.mem_cons_self
    have hbefore : ∀ e' ∈ before, identityFirst e.1 e'.1 = .ok false := by
      intro e' he'
      have hmem' := hkeys e' (List.mem_append_left _ he')
      obtain ⟨answer, hanswer⟩ := ok_of_failsWith_false
        (total_identityFirst (hkeys e hmem).1 (hkeys e hmem).2 hmem'.1 hmem'.2)
      have hkey := (List.pairwise_append.1 hdiffer).2.2 e' he' e List.mem_cons_self
      rw [sameKey, hanswer] at hkey
      rw [hanswer, ← hkey]
    have hfirst : firstThat (fun e' : Value × Value => identityFirst e.1 e'.1)
        (before ++ e :: xs) = .ok (some e) :=
      firstThat_append_cons hbefore (identityFirst_self e.1)
    unfold identityFirst at hfirst
    obtain ⟨k, v⟩ := e
    rw [entriesWithin, hfirst]
    dsimp only
    rw [sameOr, if_pos (same_refl v)]
    have hnext := @ih (before ++ [(k, v)]) (by simpa using hkeys) (by simpa using hdiffer)
    rwa [List.append_assoc, List.singleton_append] at hnext

/-! ### Values -/

/-- Whether a value need not be equal to itself when it is asked: what is no number is not, and an
object with an equality of its own may deny it, raise, or not decide. -/
def DeniesItself : Value → Prop
  | .float _ x => x.isNaN = true
  | .complex _ re im => re.isNaN = true ∨ im.isNaN = true
  | .comparer _ _ rule => ∃ verdict, rule.verdict? = some verdict ∧ verdict ≠ .ok true
  | _ => False

/-- **A value is equal to itself unless it denies that.** -/
theorem equals_self_iff {v : Value} (hv : v.Proper) :
    equals v v = .ok true ↔ ¬ v.DeniesItself := by
  obtain ⟨hkeys, hdiffer, hparts⟩ := proper_iff.1 hv
  -- the elements of a set can be keys
  have hset : ∀ items, items ⊆ v.parts → items ⊆ v.keys → itemsWithin items items = .ok true :=
    fun items hparts' hkeys' => itemsWithin_of_subset
      (fun y hy => ⟨(hparts y (hparts' hy)).1, hkeys y (hkeys' hy)⟩) (List.Subset.refl items)
  cases v with
  | float id x =>
    have h : equals (.float id x) (.float id x) = .ok (x.exact.equals x.exact && true) := rfl
    rw [h]
    simp [DeniesItself, Exact.equals_self, Binary64.exact_eq_notANumber_iff]
  | complex id re im =>
    have h : equals (.complex id re im) (.complex id re im) =
        .ok (re.exact.equals re.exact && im.exact.equals im.exact) := rfl
    rw [h]
    simp [DeniesItself, Exact.equals_self, Binary64.exact_eq_notANumber_iff]
  | comparer id tag rule =>
    unfold equals
    cases hrule : rule.verdict? with
    | none => simp [DeniesItself, hrule, same_refl]
    | some verdict => simp [DeniesItself, hrule]
  | list id items =>
    refine iff_of_true ?_ (fun h => h)
    rw [equals, if_pos rfl, itemsEqual_self]
  | tuple id items =>
    refine iff_of_true ?_ (fun h => h)
    simp [equals, itemsEqual_self]
  | set id items =>
    refine iff_of_true ?_ (fun h => h)
    rw [equals, if_pos rfl, hset items (List.Subset.refl _) (List.Subset.refl _)]
  | frozenset id items =>
    refine iff_of_true ?_ (fun h => h)
    rw [equals, if_pos rfl, hset items (List.Subset.refl _) (List.Subset.refl _)]
  | dict id entries =>
    refine iff_of_true ?_ (fun h => h)
    have hkeys' : ∀ e ∈ entries, e.1.Genuine ∧ e.1.unhashablePart? = Option.none := fun e he =>
      ⟨(hparts e.1 (List.mem_append_left _ (List.mem_map_of_mem he))).1,
        hkeys e.1 (List.mem_map_of_mem he)⟩
    rw [equals, if_pos rfl]
    exact @entriesWithin_append [] entries hkeys' (hdiffer id entries rfl)
  | point id tag x y =>
    refine iff_of_true ?_ (fun h => h)
    simp [equals, sameOr, same_refl]
  | str | bytes | bytearray | method =>
    refine iff_of_true ?_ (fun h => h)
    simp [equals]
  | none | bool | int | sentinel | function | object | entity | channel =>
    refine iff_of_true ?_ (fun h => h)
    unfold equals
    simp [number?, Exact.equals_self, Exact.ofInt, same_refl]

/-- **The two checks agree**, except about a value that is compared with itself and denies that they
are equal. -/
theorem directlyEqual_eq_identityFirst_iff {a b : Value} (ha : a.Proper) :
    directlyEqual a b = identityFirst a b ↔ ¬ (a = b ∧ a.DeniesItself) := by
  by_cases hsame : a = b
  · subst hsame
    rw [identityFirst_self, directlyEqual, equals_self_iff ha, not_and]
    exact ⟨fun h _ => h, fun h => h rfl⟩
  · have hidentity : identityFirst a b = equals a b := if_neg fun h => hsame (same_iff.1 h)
    rw [hidentity]
    exact iff_of_true rfl fun h => hsame h.1

/-! ### Making -/

/-- An entry goes to the place of the first key that equals its own, or to the end. -/
theorem keysDiffer_putEntry {entries : List (Value × Value)} (h : KeysDiffer entries)
    (k v : Value) : KeysDiffer (putEntry entries k v) := by
  induction entries with
  | nil => exact List.pairwise_singleton _ _
  | cons e entries ih =>
    obtain ⟨hfirst, hrest⟩ := List.pairwise_cons.1 h
    rw [putEntry]
    split
    · exact List.pairwise_cons.2 ⟨hfirst, hrest⟩
    · next hkey =>
      refine List.pairwise_cons.2 ⟨fun e' he' => ?_, ih hrest⟩
      exact (forall_mem_putEntry (P := fun key => sameKey key e.1 = false) (Q := fun _ => True)
        (by simpa using hkey) trivial (fun e' he' => ⟨hfirst e' he', trivial⟩) e' he').1

theorem keysDiffer_distinctEntries (entries : List (Value × Value)) :
    KeysDiffer (distinctEntries entries) :=
  List.foldlRecOn entries _ .nil fun _ h e _ => keysDiffer_putEntry h e.1 e.2

theorem closed_proper : Making.Closed Proper where
  of_parts {v} hkeys hparts := by
    refine proper_iff.2 ⟨fun key hkey => ?_, ?_, hparts⟩
    · rw [hkeys] at hkey
      cases hkey
    · rintro id entries rfl
      obtain rfl := List.map_eq_nil_iff.1 hkeys
      exact .nil
  set h :=
    ⟨proper_iff.2 ⟨fun _ hkey => (h _ hkey).1, fun _ _ hdict => (by cases hdict),
      fun _ hpart => (h _ hpart).2⟩,
    proper_iff.2 ⟨fun _ hkey => (h _ hkey).1, fun _ _ hdict => (by cases hdict),
      fun _ hpart => (h _ hpart).2⟩⟩
  dict {id entries} h := by
    have hkept := forall_mem_distinctEntries
      (P := fun k => k.unhashablePart? = Option.none ∧ k.Proper) h
    refine proper_iff.2 ⟨List.forall_mem_map.2 fun e he => (hkept e he).1.1, ?_,
      List.forall_mem_append.2 ⟨List.forall_mem_map.2 fun e he => (hkept e he).1.2,
        List.forall_mem_map.2 fun e he => (hkept e he).2⟩⟩
    rintro _ _ ⟨⟩
    exact keysDiffer_distinctEntries entries

/-- **What is made is proper**, if the objects that the text refers to are. -/
theorem proper_make {v made : Value} {serial serial' : ℕ}
    (h : ∀ u, v.Reaches u → u.isMade = true → u.Proper)
    (hmake : v.make.run serial = (.ok made, serial')) : made.Proper :=
  Making.Gives.make closed_proper v h serial made serial' hmake

end Value

end TrackedEntity
