import TrackedEntity.Proofs.Value.Parts
import TrackedEntity.Value.Operations

/-!
# What comparisons raise

Values of the built-in types never raise when they are asked whether they are equal.  If the
question raises, then because an object with an equality of its own does (`Value.raised_equals`).
The question which of two values comes first can also be refused (`Value.unordered_atLeast`).

A key is equal to the absence of a value exactly when it is that (`Value.identityFirst_none`).
-/

namespace TrackedEntity

open Outcome

/-- Whether a fault is raised by a hook, a handler or an object with its own equality. -/
def Fault.IsRaised (f : Fault) : Prop := ∃ kind text, f = .raised kind text

/-- Whether a fault comes from asking which of two values comes first. -/
def Fault.IsUnordered (f : Fault) : Prop :=
  f.IsRaised ∨ ∃ relation left right, f = .incomparable relation left right

namespace Value

/-! ### Equality -/

theorem raised_verdict {rule : Comparison Value} {v : Verdict} (h : rule.verdict? = some v) :
    FailsWith Fault.IsRaised v := by
  cases rule with
  | answers result =>
    obtain rfl := Option.some.inj h
    exact .ok _ _
  | raises kind text =>
    obtain rfl := Option.some.inj h
    exact .error ⟨_, _, rfl⟩
  | undecided =>
    obtain rfl := Option.some.inj h
    exact .error ⟨_, _, rfl⟩
  | abstains => cases h

section Combining

variable {P : Fault → Prop}

theorem failsWith_sameOr {a b : Value} {v : Verdict} (hv : FailsWith P v) :
    FailsWith P (sameOr a b v) := by
  unfold sameOr
  split
  · exact .ok _ _
  · exact hv

/-- One question after another, which is asked only if the answer to the first is yes. -/
theorem failsWith_andThen {v w : Verdict} (hv : FailsWith P v) (hw : FailsWith P w) :
    FailsWith P (match v with | .ok true => w | other => other) := by
  split
  · exact hw
  · exact hv

theorem failsWith_firstThat {α : Type} {p : α → Verdict} {as : List α}
    (hp : ∀ a ∈ as, FailsWith P (p a)) : FailsWith P (firstThat p as) := by
  induction as with
  | nil => exact .ok _ _
  | cons a as ih =>
    rw [List.forall_mem_cons] at hp
    unfold firstThat
    split
    · next f hf => exact .error (hp.1 f hf)
    · exact .ok _ _
    · exact ih hp.2

theorem mem_of_firstThat {α : Type} {p : α → Verdict} {as : List α} {a : α}
    (h : firstThat p as = .ok (some a)) : a ∈ as := by
  induction as with
  | nil => cases h
  | cons b as ih =>
    rw [firstThat] at h
    split at h
    · cases h
    · obtain rfl := Option.some.inj (Except.ok.inj h)
      exact List.mem_cons_self
    · exact List.mem_cons_of_mem b (ih h)

end Combining

/-- Whether the objects with an equality of their own that occur in a value fail with such faults
only. -/
def Asks (P : Fault → Prop) (v : Value) : Prop :=
  ∀ id tag rule verdict, v.Reaches (.comparer id tag rule) → rule.verdict? = some verdict →
    FailsWith P verdict

section Asking

variable {P : Fault → Prop}

theorem Asks.part {v part : Value} (h : v.Asks P) (hpart : part ∈ v.parts) : part.Asks P :=
  fun id tag rule verdict hreaches =>
    h id tag rule verdict (reaches_iff.2 (.inr ⟨part, hpart, hreaches⟩))

theorem Asks.verdict {id : Identity} {tag : String} {rule : Comparison Value} {verdict : Verdict}
    (h : (Value.comparer id tag rule).Asks P) (hrule : rule.verdict? = some verdict) :
    FailsWith P verdict :=
  h id tag rule verdict .refl hrule

theorem Asks.entries {id : Identity} {entries : List (Value × Value)}
    (h : (Value.dict id entries).Asks P) : ∀ e ∈ entries, e.1.Asks P ∧ e.2.Asks P := fun _ he =>
  ⟨h.part (List.mem_append_left _ (List.mem_map_of_mem he)),
    h.part (List.mem_append_right _ (List.mem_map_of_mem he))⟩

theorem Asks.getD_verdict {id : Identity} {tag : String} {rule : Comparison Value}
    (h : (Value.comparer id tag rule).Asks P) (b : Bool) :
    FailsWith P (rule.verdict?.getD (.ok b)) := by
  cases hrule : rule.verdict? with
  | none => exact .ok _ b
  | some verdict => exact h.verdict hrule

theorem failsWith_askRight {b : Value} (h : b.Asks P) : FailsWith P (askRight b) := by
  unfold askRight
  split
  · exact h.getD_verdict _
  · exact .ok _ _

mutual

/-- **Only objects with an equality of their own raise** when values are asked whether they are
equal. -/
theorem failsWith_equals :
    ∀ a b : Value, a.Asks P → b.Asks P → FailsWith P (equals a b)
  | .comparer i s rule, b, ha, hb => by
    unfold equals
    split
    · next hrule => exact ha.verdict hrule
    · split
      · exact hb.getD_verdict _
      · exact .ok _ _
  | .point _ _ x y, b, ha, hb => by
    unfold equals
    split
    · exact failsWith_andThen
        (failsWith_sameOr (failsWith_equals x _ (ha.part (by simp [parts]))
          (hb.part (by simp [parts]))))
        (failsWith_sameOr (failsWith_equals y _ (ha.part (by simp [parts]))
          (hb.part (by simp [parts]))))
    · exact .ok _ _
  | .list _ xs, b, ha, hb => by
    unfold equals
    split
    · split
      · exact failsWith_itemsEqual xs _ (fun _ => ha.part) fun _ => hb.part
      · exact .ok _ _
    · exact failsWith_askRight hb
  | .tuple _ xs, b, ha, hb => by
    unfold equals
    split
    · exact failsWith_andThen (failsWith_itemsEqual xs _ (fun _ => ha.part) fun _ => hb.part)
        (.ok _ _)
    · exact failsWith_askRight hb
  | .set _ xs, b, ha, hb | .frozenset _ xs, b, ha, hb => by
    have hwithin : ∀ ys : List Value, (∀ y ∈ ys, y.Asks P) →
        FailsWith P (if xs.length = ys.length then itemsWithin xs ys else .ok false) := by
      intro ys hys
      split
      · exact failsWith_itemsWithin xs ys (fun _ => ha.part) hys
      · exact .ok _ _
    unfold equals
    split
    · exact hwithin _ fun _ => hb.part
    · exact hwithin _ fun _ => hb.part
    · exact failsWith_askRight hb
  | .dict _ xs, b, ha, hb => by
    unfold equals
    split
    · split
      · exact failsWith_entriesWithin xs _ ha.entries hb.entries
      · exact .ok _ _
    · exact failsWith_askRight hb
  | .str _, b, _, hb | .method _ _, b, _, hb => by
    unfold equals
    split
    · exact .ok _ _
    · exact failsWith_askRight hb
  | .bytes _, b, _, hb | .bytearray _ _, b, _, hb => by
    unfold equals
    split
    · exact .ok _ _
    · exact .ok _ _
    · exact failsWith_askRight hb
  | .none, b, _, hb | .bool _, b, _, hb | .int _, b, _, hb | .float _ _, b, _, hb
  | .complex _ _ _, b, _, hb | .sentinel _ _, b, _, hb | .function _ _, b, _, hb
  | .object _, b, _, hb | .entity _, b, _, hb | .channel, b, _, hb => by
    unfold equals
    split
    · exact .ok _ _
    · split
      · exact .ok _ _
      · exact failsWith_askRight hb
termination_by structural a => a

theorem failsWith_itemsEqual : ∀ xs ys : List Value, (∀ x ∈ xs, x.Asks P) →
    (∀ y ∈ ys, y.Asks P) → FailsWith P (itemsEqual xs ys)
  | x :: xs, y :: ys, hxs, hys => by
    rw [List.forall_mem_cons] at hxs hys
    unfold itemsEqual
    exact failsWith_andThen (failsWith_sameOr (failsWith_equals x y hxs.1 hys.1))
      (failsWith_itemsEqual xs ys hxs.2 hys.2)
  | [], _, _, _ => by
    unfold itemsEqual
    exact .ok _ _
  | _ :: _, [], _, _ => by
    unfold itemsEqual
    exact .ok _ _
termination_by structural xs => xs

theorem failsWith_itemsWithin : ∀ xs ys : List Value, (∀ x ∈ xs, x.Asks P) →
    (∀ y ∈ ys, y.Asks P) → FailsWith P (itemsWithin xs ys)
  | [], _, _, _ => by
    unfold itemsWithin
    exact .ok _ _
  | x :: xs, ys, hxs, hys => by
    rw [List.forall_mem_cons] at hxs
    unfold itemsWithin
    have hfirst := failsWith_firstThat
      (fun y hy => failsWith_sameOr (a := x) (b := y) (failsWith_equals x y hxs.1 (hys y hy)))
    split
    · exact failsWith_itemsWithin xs ys hxs.2 hys
    · exact .ok _ _
    · next f hf => exact .error (hfirst f hf)
termination_by structural xs => xs

theorem failsWith_entriesWithin : ∀ xs ys : List (Value × Value),
    (∀ e ∈ xs, e.1.Asks P ∧ e.2.Asks P) → (∀ e ∈ ys, e.1.Asks P ∧ e.2.Asks P) →
    FailsWith P (entriesWithin xs ys)
  | [], _, _, _ => by
    unfold entriesWithin
    exact .ok _ _
  | (k, v) :: xs, ys, hxs, hys => by
    rw [List.forall_mem_cons] at hxs
    unfold entriesWithin
    have hfirst := failsWith_firstThat (fun (e : Value × Value) he =>
      failsWith_sameOr (a := k) (b := e.1) (failsWith_equals k e.1 hxs.1.1 (hys e he).1))
    split
    · next e hfound =>
      exact failsWith_andThen
        (failsWith_sameOr (failsWith_equals v e.2 hxs.1.2 (hys e (mem_of_firstThat hfound)).2))
        (failsWith_entriesWithin xs ys hxs.2 hys)
    · exact .ok _ _
    · next f hf => exact .error (hfirst f hf)
termination_by structural xs => xs

end

end Asking

theorem asks_raised (v : Value) : v.Asks Fault.IsRaised := fun _ _ _ _ _ => raised_verdict

theorem raised_equals (a b : Value) : FailsWith Fault.IsRaised (equals a b) :=
  failsWith_equals a b (asks_raised a) (asks_raised b)

theorem raised_itemsWithin (xs ys : List Value) :
    FailsWith Fault.IsRaised (itemsWithin xs ys) :=
  failsWith_itemsWithin xs ys (fun x _ => asks_raised x) fun y _ => asks_raised y

theorem raised_askRight (b : Value) : FailsWith Fault.IsRaised (askRight b) :=
  failsWith_askRight (asks_raised b)

/-- What can be a key has no equality of its own anywhere inside. -/
theorem asks_of_hashable {v : Value} (hgenuine : v.Genuine)
    (hv : v.unhashablePart? = Option.none) (P : Fault → Prop) : v.Asks P := by
  intro id tag rule verdict hreaches
  have hcomparer := hashable_of_reaches hgenuine hv hreaches
  cases hcomparer

theorem raised_identityFirst (a b : Value) : FailsWith Fault.IsRaised (identityFirst a b) :=
  failsWith_sameOr (raised_equals a b)

/-! ### Keys -/

theorem eq_str_of_str? {key : Value} {name : String} (h : key.str? = some name) :
    key = .str name := by
  cases key with
  | str s => rw [Option.some.inj h]
  | _ => cases h

/-- A key that is compared with the absence of a value is equal to it exactly when it is that: those
that could answer otherwise are no keys. -/
theorem identityFirst_none {key : Value} (h : key.requireHashable = .ok ()) :
    identityFirst key .none = .ok (decide (key = .none)) := by
  have hequals : equals key .none = .ok (same key .none) := by
    cases key with
    | point | comparer => cases h
    | _ => rfl
  have hsame : same key .none = decide (key = .none) := by
    rw [Bool.eq_iff_iff, same_iff, decide_eq_true_eq]
  rw [identityFirst, sameOr, hequals, hsame]
  split
  · next hkey => rw [hkey]
  · rfl

/-! ### Order -/

theorem unordered_incomparable (relation left right : String) {α : Type} :
    FailsWith Fault.IsUnordered (.error (.incomparable relation left right) : Except Fault α) :=
  .error (.inr ⟨_, _, _, rfl⟩)

theorem unordered_numberAtLeast (a b : Value) :
    FailsWith Fault.IsUnordered (numberAtLeast a b) := by
  unfold numberAtLeast
  split
  · exact .ok _ _
  · exact unordered_incomparable _ _ _

mutual

/-- The question which of two values comes first is refused, or an object with an equality of its
own raises. -/
theorem unordered_atLeast : ∀ a b : Value, FailsWith Fault.IsUnordered (atLeast a b)
  | .str _, b => by
    unfold atLeast
    split
    · exact .ok _ _
    · exact unordered_incomparable _ _ _
  | .bytes _, b | .bytearray _ _, b => by
    unfold atLeast
    split
    · exact .ok _ _
    · exact .ok _ _
    · exact unordered_incomparable _ _ _
  | .list _ xs, b | .tuple _ xs, b => by
    unfold atLeast
    split
    · exact unordered_itemsAtLeast xs _
    · exact unordered_incomparable _ _ _
  | .set _ xs, b | .frozenset _ xs, b => by
    have hwithin : ∀ ys, FailsWith Fault.IsUnordered (itemsWithin ys xs) := fun ys =>
      (raised_itemsWithin ys xs).mono fun f hf => .inl hf
    unfold atLeast
    split
    · exact hwithin _
    · exact hwithin _
    · exact unordered_incomparable _ _ _
  | .none, b | .bool _, b | .int _, b | .float _ _, b | .complex _ _ _, b | .dict _ _, b
  | .point _ _ _ _, b | .sentinel _ _, b | .comparer _ _ _, b | .function _ _, b
  | .method _ _, b | .object _, b | .entity _, b | .channel, b => by
    unfold atLeast
    exact unordered_numberAtLeast _ b
termination_by structural a => a

theorem unordered_itemsAtLeast :
    ∀ xs ys : List Value, FailsWith Fault.IsUnordered (itemsAtLeast xs ys)
  | _, [] => by
    unfold itemsAtLeast
    exact .ok _ _
  | [], _ :: _ => by
    unfold itemsAtLeast
    exact .ok _ _
  | x :: xs, y :: ys => by
    unfold itemsAtLeast
    have hequal := failsWith_sameOr (a := x) (b := y) (raised_equals x y)
    split
    · exact unordered_itemsAtLeast xs ys
    · exact unordered_atLeast x y
    · next f hf => exact .error (.inl (hequal f hf))
termination_by structural xs => xs

end

end Value

end TrackedEntity
