import Mathlib.Logic.Equiv.Basic
import TrackedEntity.Proofs.Outcome
import TrackedEntity.Value.Description
import TrackedEntity.Value.Making
import TrackedEntity.Value.Operations

/-!
# Other names for classes

A permutation of names acts on values: entities that occur in a value are entities of the class with
the other name then (`Value.renamed`).  Nothing that can be asked of values depends on these names:
whether they are equal, count as true or can be keys, what they are made into, what they are joined
to.  Only texts can tell, those that describe values and those of faults, and they are `Alike`: some
names in them are exchanged.
-/

namespace TrackedEntity

variable {π : Equiv.Perm String}

/-! ### Texts and faults -/

/-- Whether a text becomes another one when some names in it are exchanged. -/
inductive Text.Alike (π : Equiv.Perm String) : String → String → Prop
  | refl (s : String) : Alike π s s
  | name (s : String) : Alike π s (π s)
  | append {a a' b b' : String} (h : Alike π a a') (h' : Alike π b b') :
      Alike π (a ++ b) (a' ++ b')

theorem Text.Alike.intercalate {texts texts' : List String}
    (h : List.Forall₂ (Text.Alike π) texts texts') (separator : String) :
    Text.Alike π (separator.intercalate texts) (separator.intercalate texts') := by
  induction h with
  | nil => exact .refl _
  | @cons a a' texts texts' ha h ih =>
    cases h with
    | nil =>
      rw [String.intercalate_singleton, String.intercalate_singleton]
      exact ha
    | cons hb h =>
      rw [String.intercalate_cons_cons, String.intercalate_cons_cons]
      exact (ha.append (.refl separator)).append ih

/-- Whether two faults are the same but for names in their reports. -/
structure Fault.Alike (π : Equiv.Perm String) (f f' : Fault) : Prop where
  kind : f'.kind = f.kind
  message : Text.Alike π f.message f'.message
  problems : f'.problems = f.problems

theorem Fault.Alike.refl (π : Equiv.Perm String) (f : Fault) : Fault.Alike π f f :=
  ⟨rfl, .refl _, rfl⟩

namespace Value

/-! ### Renaming -/

mutual

/-- The value with other names for the classes of entities. -/
def renamed (π : Equiv.Perm String) : Value → Value
  | .list id items => .list id (renamedItems π items)
  | .tuple id items => .tuple id (renamedItems π items)
  | .set id items => .set id (renamedItems π items)
  | .frozenset id items => .frozenset id (renamedItems π items)
  | .dict id entries => .dict id (renamedEntries π entries)
  | .point id tag x y => .point id tag (renamed π x) (renamed π y)
  | .comparer id tag rule => .comparer id tag (renamedRule π rule)
  | .entity className => .entity (π className)
  | v => v
termination_by structural v => v

/-- Several values with other names. -/
def renamedItems (π : Equiv.Perm String) : List Value → List Value
  | [] => []
  | v :: vs => renamed π v :: renamedItems π vs
termination_by structural vs => vs

/-- Entries with other names. -/
def renamedEntries (π : Equiv.Perm String) : List (Value × Value) → List (Value × Value)
  | [] => []
  | (k, v) :: es => (renamed π k, renamed π v) :: renamedEntries π es
termination_by structural es => es

/-- An answer with other names. -/
def renamedRule (π : Equiv.Perm String) : Comparison Value → Comparison Value
  | .answers result => .answers (renamed π result)
  | .raises kind text => .raises kind text
  | .undecided => .undecided
  | .abstains => .abstains
termination_by structural rule => rule

end

theorem renamedItems_eq_map (items : List Value) :
    renamedItems π items = items.map (renamed π) := by
  induction items with
  | nil => rfl
  | cons v items ih => rw [renamedItems, ih, List.map_cons]

/-- An entry with other names. -/
def renamedEntry (π : Equiv.Perm String) (e : Value × Value) : Value × Value :=
  (e.1.renamed π, e.2.renamed π)

theorem renamedEntries_eq_map (entries : List (Value × Value)) :
    renamedEntries π entries = entries.map (renamedEntry π) := by
  induction entries with
  | nil => rfl
  | cons e entries ih => rw [renamedEntries, ih, List.map_cons, renamedEntry]

@[simp] theorem length_renamedItems (items : List Value) :
    (renamedItems π items).length = items.length := by
  rw [renamedItems_eq_map, List.length_map]

@[simp] theorem length_renamedEntries (entries : List (Value × Value)) :
    (renamedEntries π entries).length = entries.length := by
  rw [renamedEntries_eq_map, List.length_map]

theorem renamedItems_append (items items' : List Value) :
    renamedItems π (items ++ items') = renamedItems π items ++ renamedItems π items' := by
  simp only [renamedItems_eq_map, List.map_append]

mutual

/-- Renaming can be undone. -/
theorem renamed_symm : ∀ v : Value, (v.renamed π).renamed π.symm = v
  | .list id items | .tuple id items | .set id items | .frozenset id items => by
    simp only [renamed, renamedItems_symm items]
  | .dict id entries => by simp only [renamed, renamedEntries_symm entries]
  | .point id tag x y => by simp only [renamed, renamed_symm x, renamed_symm y]
  | .comparer id tag (.answers result) => by
    simp only [renamed, renamedRule, renamed_symm result]
  | .comparer id tag (.raises kind text) | .comparer id tag .undecided
  | .comparer id tag .abstains => rfl
  | .entity className => congrArg Value.entity (π.symm_apply_apply className)
  | .none | .bool _ | .int _ | .str _ | .bytes _ | .float .. | .complex .. | .bytearray ..
  | .sentinel .. | .function .. | .method .. | .object _ | .channel => rfl
termination_by structural v => v

theorem renamedItems_symm : ∀ items : List Value,
    renamedItems π.symm (renamedItems π items) = items
  | [] => rfl
  | v :: vs => by simp only [renamedItems, renamed_symm v, renamedItems_symm vs]
termination_by structural items => items

theorem renamedEntries_symm : ∀ entries : List (Value × Value),
    renamedEntries π.symm (renamedEntries π entries) = entries
  | [] => rfl
  | (k, v) :: es => by
    simp only [renamedEntries, renamed_symm k, renamed_symm v, renamedEntries_symm es]
termination_by structural entries => entries

end

theorem renamed_injective (π : Equiv.Perm String) : Function.Injective (renamed π) :=
  Function.LeftInverse.injective renamed_symm

/-- Whether a value holds no entity, so that other names make no difference to it. -/
def Nameless (v : Value) : Prop := ∀ π : Equiv.Perm String, v.renamed π = v

/-! ### Questions about values -/

@[simp] theorem same_renamed (a b : Value) : same (a.renamed π) (b.renamed π) = same a b := by
  rw [Bool.eq_iff_iff, same_iff, same_iff, (renamed_injective π).eq_iff]

@[simp] theorem truthy_renamed (v : Value) : (v.renamed π).truthy = v.truthy := by
  cases v with
  | list | tuple | set | frozenset => simp [renamed, truthy, renamedItems_eq_map]
  | dict => simp [renamed, truthy, renamedEntries_eq_map]
  | _ => rfl

@[simp] theorem number?_renamed (v : Value) : (v.renamed π).number? = v.number? := by
  cases v <;> rfl

@[simp] theorem str?_renamed (v : Value) : (v.renamed π).str? = v.str? := by
  cases v <;> rfl

@[simp] theorem verdict?_renamedRule (rule : Comparison Value) :
    (renamedRule π rule).verdict? = rule.verdict? := by
  cases rule with
  | answers result => simp [renamedRule, Comparison.verdict?]
  | _ => rfl

@[simp] theorem askRight_renamed (v : Value) : askRight (v.renamed π) = askRight v := by
  cases v with
  | comparer => simp [renamed, askRight]
  | _ => rfl

/-- Only the type of an entity has another name. -/
theorem alike_typeName (v : Value) : Text.Alike π v.typeName (v.renamed π).typeName := by
  cases v with
  | entity className => exact .name className
  | _ => exact .refl _

mutual

/-- An entity can be a key, so the types of parts that cannot keep their names. -/
theorem unhashablePart?_renamed : ∀ v : Value,
    (v.renamed π).unhashablePart? = v.unhashablePart?
  | .tuple id items => by
    simp only [renamed, unhashablePart?, firstUnhashable?_renamed items]
  | .none | .bool _ | .int _ | .str _ | .bytes _ | .float .. | .complex .. | .bytearray ..
  | .list .. | .set .. | .frozenset .. | .dict .. | .point .. | .sentinel .. | .comparer ..
  | .function .. | .method .. | .object _ | .entity _ | .channel => rfl
termination_by structural v => v

theorem firstUnhashable?_renamed : ∀ items : List Value,
    firstUnhashable? (renamedItems π items) = firstUnhashable? items
  | [] => rfl
  | v :: vs => by
    simp only [renamedItems, firstUnhashable?, unhashablePart?_renamed v,
      firstUnhashable?_renamed vs]
termination_by structural items => items

end

@[simp] theorem requireHashable_renamed (v : Value) :
    (v.renamed π).requireHashable = v.requireHashable := by
  rw [requireHashable, requireHashable, unhashablePart?_renamed]

/-! ### Equality -/

theorem firstThat_map {α β : Type} (p : β → Verdict) (g : α → β) (l : List α) :
    firstThat p (l.map g) = (firstThat (p ∘ g) l).map (Option.map g) := by
  induction l with
  | nil => rfl
  | cons x l ih =>
    rw [List.map_cons, firstThat, firstThat, Function.comp_apply, ih]
    cases p (g x) with
    | error f => rfl
    | ok b => cases b <;> rfl

/-- The comparison of two values as numbers, and else by identity, as it is with all that is no
text, sequence, point or object with an equality of its own. -/
def plainlyEqual (a b : Value) : Verdict :=
  match a.number?, b.number? with
  | some (re, im), some (re', im') => .ok (re.equals re' && im.equals im')
  | _, _ => if same a b then .ok true else askRight b

theorem equals_renamed_of_plain {a : Value} (ha : ∀ b, equals a b = plainlyEqual a b)
    (ha' : ∀ b, equals (a.renamed π) b = plainlyEqual (a.renamed π) b) (b : Value) :
    equals (a.renamed π) (b.renamed π) = equals a b := by
  simp only [ha, ha', plainlyEqual, number?_renamed, same_renamed, askRight_renamed]

mutual

/-- **Values are equal whatever the names are.** -/
theorem equals_renamed : ∀ a b : Value, equals (a.renamed π) (b.renamed π) = equals a b
  | .comparer i s rule, b => by
    simp only [renamed, equals, verdict?_renamedRule]
    cases rule.verdict? with
    | some verdict => rfl
    | none =>
      cases b with
      | comparer j t rule' =>
        have hsame := same_renamed (π := π) (.comparer i s rule) (.comparer j t rule')
        simp only [renamed] at hsame
        simp only [renamed, verdict?_renamedRule, hsame]
      | _ => rfl
  | .point i s x y, b => by
    cases b with
    | point j t x' y' =>
      simp only [renamed, equals, sameOr, same_renamed, equals_renamed x x', equals_renamed y y']
    | _ => rfl
  | .list i xs, b => by
    cases b with
    | list j ys =>
      simp only [renamed, equals, itemsEqual_renamed xs ys, length_renamedItems]
    | comparer => simp [renamed, equals, askRight]
    | _ => rfl
  | .tuple i xs, b => by
    cases b with
    | tuple j ys =>
      simp only [renamed, equals, itemsEqual_renamed xs ys, length_renamedItems]
    | comparer => simp [renamed, equals, askRight]
    | _ => rfl
  | .set i xs, b | .frozenset i xs, b => by
    cases b with
    | set j ys | frozenset j ys =>
      simp only [renamed, equals, itemsWithin_renamed xs ys, length_renamedItems]
    | comparer => simp [renamed, equals, askRight]
    | _ => rfl
  | .dict i xs, b => by
    cases b with
    | dict j ys =>
      simp only [renamed, equals, entriesWithin_renamed xs ys, length_renamedEntries]
    | comparer => simp [renamed, equals, askRight]
    | _ => rfl
  | .str s, b | .bytes s, b | .bytearray _ s, b | .method _ s, b => by
    cases b with
    | comparer => simp [renamed, equals, askRight]
    | _ => rfl
  | .none, b | .bool _, b | .int _, b | .float _ _, b | .complex _ _ _, b | .sentinel _ _, b
  | .function _ _, b | .object _, b | .entity _, b | .channel, b =>
    equals_renamed_of_plain (fun _ => rfl) (fun _ => rfl) b
termination_by structural a => a

theorem itemsEqual_renamed : ∀ xs ys : List Value,
    itemsEqual (renamedItems π xs) (renamedItems π ys) = itemsEqual xs ys
  | [], ys => by cases ys <;> rfl
  | x :: xs, [] => rfl
  | x :: xs, y :: ys => by
    simp only [renamedItems, itemsEqual, sameOr, same_renamed, equals_renamed x y,
      itemsEqual_renamed xs ys]
termination_by structural xs => xs

theorem itemsWithin_renamed : ∀ xs ys : List Value,
    itemsWithin (renamedItems π xs) (renamedItems π ys) = itemsWithin xs ys
  | [], ys => rfl
  | x :: xs, ys => by
    have hfirst : firstThat (fun y => sameOr (x.renamed π) y (equals (x.renamed π) y))
        (renamedItems π ys) =
        (firstThat (fun y => sameOr x y (equals x y)) ys).map (Option.map (renamed π)) := by
      rw [renamedItems_eq_map, firstThat_map]
      simp only [Function.comp_def, sameOr, same_renamed, equals_renamed x]
    rw [renamedItems, itemsWithin, itemsWithin, hfirst]
    cases firstThat (fun y => sameOr x y (equals x y)) ys with
    | error f => rfl
    | ok found =>
      cases found with
      | none => rfl
      | some y => exact itemsWithin_renamed xs ys
termination_by structural xs => xs

theorem entriesWithin_renamed : ∀ xs ys : List (Value × Value),
    entriesWithin (renamedEntries π xs) (renamedEntries π ys) = entriesWithin xs ys
  | [], ys => rfl
  | (k, v) :: xs, ys => by
    have hfirst : firstThat (fun e : Value × Value =>
        sameOr (k.renamed π) e.1 (equals (k.renamed π) e.1)) (renamedEntries π ys) =
        (firstThat (fun e : Value × Value => sameOr k e.1 (equals k e.1)) ys).map
          (Option.map (renamedEntry π)) := by
      rw [renamedEntries_eq_map, firstThat_map]
      simp only [Function.comp_def, renamedEntry, sameOr, same_renamed, equals_renamed k]
    rw [renamedEntries, entriesWithin, entriesWithin, hfirst]
    cases firstThat (fun e : Value × Value => sameOr k e.1 (equals k e.1)) ys with
    | error f => rfl
    | ok found =>
      cases found with
      | none => rfl
      | some e =>
        simp only [Except.map, Option.map_some, renamedEntry, sameOr, same_renamed,
          equals_renamed v e.2, entriesWithin_renamed xs ys]
termination_by structural xs => xs

end

@[simp] theorem identityFirst_renamed (a b : Value) :
    identityFirst (a.renamed π) (b.renamed π) = identityFirst a b := by
  simp only [identityFirst, sameOr, same_renamed, equals_renamed]

@[simp] theorem sameKey_renamed (a b : Value) :
    sameKey (a.renamed π) (b.renamed π) = sameKey a b := by
  rw [sameKey, sameKey, identityFirst_renamed]

/-! ### Making -/

theorem distinctItems_renamed (items : List Value) :
    distinctItems (renamedItems π items) = renamedItems π (distinctItems items) := by
  -- the same elements are dropped, whatever was kept before
  have hfold : ∀ kept : List Value,
      (renamedItems π items).foldl
          (fun kept v => if kept.any (sameKey v) then kept else kept ++ [v])
          (renamedItems π kept) =
        renamedItems π (items.foldl
          (fun kept v => if kept.any (sameKey v) then kept else kept ++ [v]) kept) := by
    induction items with
    | nil => exact fun kept => rfl
    | cons v items ih =>
      intro kept
      have hany : (renamedItems π kept).any (sameKey (v.renamed π)) = kept.any (sameKey v) := by
        simp only [renamedItems_eq_map, List.any_map, Function.comp_def, sameKey_renamed]
      rw [renamedItems, List.foldl_cons, List.foldl_cons, hany, ← ih]
      split
      · rfl
      · rw [renamedItems_append]
        rfl
  exact hfold []

theorem putEntry_renamed (entries : List (Value × Value)) (k v : Value) :
    putEntry (renamedEntries π entries) (k.renamed π) (v.renamed π) =
      renamedEntries π (putEntry entries k v) := by
  induction entries with
  | nil => rfl
  | cons e entries ih =>
    simp only [renamedEntries, putEntry, sameKey_renamed]
    split
    · rfl
    · rw [renamedEntries, ih]

theorem distinctEntries_renamed (entries : List (Value × Value)) :
    distinctEntries (renamedEntries π entries) = renamedEntries π (distinctEntries entries) := by
  have hfold : ∀ kept : List (Value × Value),
      (renamedEntries π entries).foldl (fun kept e => putEntry kept e.1 e.2)
          (renamedEntries π kept) =
        renamedEntries π (entries.foldl (fun kept e => putEntry kept e.1 e.2) kept) := by
    induction entries with
    | nil => exact fun kept => rfl
    | cons e entries ih =>
      intro kept
      rw [renamedEntries, List.foldl_cons, List.foldl_cons, ← ih, putEntry_renamed]
  exact hfold []

theorem setItems_renamed (items : List Value) :
    setItems (renamedItems π items) = renamedItems π <$> setItems items := by
  have hhashable : (renamedItems π items).forM requireHashable = items.forM requireHashable := by
    induction items with
    | nil => rfl
    | cons v items ih =>
      show ((v.renamed π).requireHashable >>= fun _ => (renamedItems π items).forM requireHashable)
        = (v.requireHashable >>= fun _ => items.forM requireHashable)
      rw [requireHashable_renamed, ih]
  rw [setItems, setItems, hhashable, distinctItems_renamed, map_bind]
  simp only [map_pure]

mutual

/-- **Objects are made in the same way whatever the names are**, with the same serial numbers. -/
theorem make_renamed : ∀ v : Value, (v.renamed π).make = renamed π <$> v.make
  | .float .. | .complex .. | .bytearray .. | .sentinel .. | .function .. | .method ..
  | .object _ => by simp only [renamed, make, map_bind, map_pure]
  | .list .written items | .tuple .written items => by
    simp only [renamed, make, makeItems_renamed items, map_bind, map_pure, bind_map_left]
  | .set .written items | .frozenset .written items => by
    simp only [renamed, make, makeItems_renamed items, setItems_renamed, map_bind, map_pure,
      bind_map_left]
  | .dict .written entries => by
    simp only [renamed, make, makeEntries_renamed entries, distinctEntries_renamed, map_bind,
      map_pure, bind_map_left]
  | .point .written _ x y => by
    simp only [renamed, make, make_renamed x, make_renamed y, map_bind, map_pure, bind_map_left]
  | .comparer .written _ (.answers result) => by
    simp only [renamed, renamedRule, make, make_renamed result, map_bind, map_pure, bind_map_left]
  | .comparer .written _ (.raises _ _) | .comparer .written _ .undecided
  | .comparer .written _ .abstains => by
    simp only [renamed, renamedRule, make, map_bind, map_pure]
  | .none | .bool _ | .int _ | .str _ | .bytes _ | .entity _ | .channel
  | .list (.made _) _ | .tuple (.made _) _ | .set (.made _) _ | .frozenset (.made _) _
  | .dict (.made _) _ | .point (.made _) _ _ _ | .comparer (.made _) _ _ => by
    simp only [renamed, make, map_pure]
termination_by structural v => v

theorem makeItems_renamed : ∀ items : List Value,
    makeItems (renamedItems π items) = renamedItems π <$> makeItems items
  | [] => by simp only [renamedItems, makeItems, map_pure]
  | v :: vs => by
    simp only [renamedItems, makeItems, make_renamed v, makeItems_renamed vs, map_bind, map_pure,
      bind_map_left]
termination_by structural items => items

theorem makeEntries_renamed : ∀ entries : List (Value × Value),
    makeEntries (renamedEntries π entries) = renamedEntries π <$> makeEntries entries
  | [] => by simp only [renamedEntries, makeEntries, map_pure]
  | (k, v) :: es => by
    simp only [renamedEntries, makeEntries, make_renamed k, make_renamed v,
      makeEntries_renamed es, requireHashable_renamed, map_bind, map_pure, bind_map_left]
termination_by structural entries => entries

end

/-! ### Computing -/

/-- Whether one value is another one with other names. -/
def Becomes (π : Equiv.Perm String) (v v' : Value) : Prop := v' = v.renamed π

/-- Whether of two computations both fail with faults alike, or both succeed, the second one with
the renamed value. -/
def Renames (π : Equiv.Perm String) : Except Fault Value → Except Fault Value → Prop :=
  Outcome.Related (Fault.Alike π) (Becomes π)

/-- A computation that gives no entities renames to itself. -/
theorem Renames.self {x : Except Fault Value} (h : ∀ v, x = .ok v → v.renamed π = v) :
    Renames π x x := by
  cases x with
  | error f => exact .fails (.refl π f)
  | ok v => exact .succeeds (h v rfl).symm

theorem integer?_renamed (v : Value) : (v.renamed π).integer? = v.integer? := by
  cases v <;> rfl

theorem float?_renamed (v : Value) : (v.renamed π).float? = v.float? := by
  cases v <;> rfl

theorem complex?_renamed (v : Value) : (v.renamed π).complex? = v.complex? := by
  cases v <;> rfl

theorem real?_renamed (v : Value) : (v.renamed π).real? = v.real? := by
  cases v <;> rfl

theorem sum?_renamed (a b : Value) : sum? (a.renamed π) (b.renamed π) = sum? a b := by
  simp only [sum?, integer?_renamed, float?_renamed, complex?_renamed]

/-- Sums are numbers. -/
theorem renamed_sum? {a b v : Value} (h : sum? a b = some (.ok v)) : v.renamed π = v := by
  unfold sum? at h
  split at h
  · obtain rfl := Except.ok.inj (Option.some.inj h)
    rfl
  · split at h
    · obtain ⟨x, -, h⟩ := Outcome.bind_eq_ok.1 (Option.some.inj h)
      obtain ⟨y, -, h⟩ := Outcome.bind_eq_ok.1 h
      obtain rfl := Except.ok.inj h
      rfl
    · split at h
      · obtain ⟨z, -, h⟩ := Outcome.bind_eq_ok.1 (Option.some.inj h)
        obtain ⟨w, -, h⟩ := Outcome.bind_eq_ok.1 h
        obtain rfl := Except.ok.inj h
        rfl
      · cases h

theorem alike_noAttribute {className className' : String}
    (h : Text.Alike π className className') (name : String) :
    Fault.Alike π (.noAttribute className name) (.noAttribute className' name) :=
  ⟨rfl, ((((Text.Alike.refl _).append h).append (.refl _)).append (.refl _)).append (.refl _), rfl⟩

theorem alike_cannotContinue {typeName typeName' : String}
    (h : Text.Alike π typeName typeName') (sequence : String) :
    Fault.Alike π (.cannotContinue sequence typeName) (.cannotContinue sequence typeName') :=
  ⟨rfl, ((((((Text.Alike.refl _).append (.refl _)).append (.refl _)).append h).append
    (.refl _)).append (.refl _)), rfl⟩

theorem alike_cannotAppend {typeName typeName' : String}
    (h : Text.Alike π typeName typeName') (bytes : String) :
    Fault.Alike π (.cannotAppend typeName bytes) (.cannotAppend typeName' bytes) :=
  ⟨rfl, (((Text.Alike.refl _).append h).append (.refl _)).append (.refl _), rfl⟩

theorem alike_incomparable {left left' right right' : String} (hl : Text.Alike π left left')
    (hr : Text.Alike π right right') (relation : String) :
    Fault.Alike π (.incomparable relation left right) (.incomparable relation left' right') :=
  ⟨rfl, ((((((Text.Alike.refl _).append (.refl _)).append (.refl _)).append hl).append
    (.refl _)).append hr).append (.refl _), rfl⟩

theorem alike_unsupportedOperands {left left' right right' : String}
    (hl : Text.Alike π left left') (hr : Text.Alike π right right') (operation : String) :
    Fault.Alike π (.unsupportedOperands operation left right)
      (.unsupportedOperands operation left' right') :=
  ⟨rfl, ((((((Text.Alike.refl _).append (.refl _)).append (.refl _)).append hl).append
    (.refl _)).append hr).append (.refl _), rfl⟩

/-- Joining values of which the first is no text or sequence. -/
theorem renames_plus_of_sum {a : Value}
    (ha : ∀ b, plus a b =
      (sum? a b).getD (.error (.unsupportedOperands "+" a.typeName b.typeName)))
    (ha' : ∀ b, plus (a.renamed π) b = (sum? (a.renamed π) b).getD
      (.error (.unsupportedOperands "+" (a.renamed π).typeName b.typeName))) (b : Value) :
    Renames π (a.plus b) ((a.renamed π).plus (b.renamed π)) := by
  rw [ha, ha', sum?_renamed]
  cases hsum : sum? a b with
  | none => exact .fails (alike_unsupportedOperands (alike_typeName a) (alike_typeName b) "+")
  | some x => exact Renames.self fun v hv => renamed_sum? (hsum.trans (congrArg some hv))

/-- **Values are joined in the same way whatever the names are.** -/
theorem renames_plus (a b : Value) : Renames π (a.plus b) ((a.renamed π).plus (b.renamed π)) := by
  cases a with
  | str s =>
    cases b with
    | str t => exact .succeeds rfl
    | _ => exact .fails (alike_cannotContinue (alike_typeName _) "str")
  | list i xs =>
    cases b with
    | list j ys =>
      exact .succeeds (congrArg (Value.list .written) (renamedItems_append xs ys).symm)
    | _ => exact .fails (alike_cannotContinue (alike_typeName _) "list")
  | tuple i xs =>
    -- joining an empty tuple gives back the other one
    cases xs with
    | nil =>
      cases b with
      | tuple j ys => exact .succeeds rfl
      | _ => exact .fails (alike_cannotContinue (alike_typeName _) "tuple")
    | cons x xs =>
      cases b with
      | tuple j ys =>
        cases ys with
        | nil => exact .succeeds rfl
        | cons y ys =>
          exact .succeeds (congrArg (Value.tuple .written)
            (renamedItems_append (x :: xs) (y :: ys)).symm)
      | _ => exact .fails (alike_cannotContinue (alike_typeName _) "tuple")
  | bytes s =>
    cases b with
    | bytes | bytearray => exact .succeeds rfl
    | _ => exact .fails (alike_cannotAppend (alike_typeName _) "bytes")
  | bytearray i s =>
    cases b with
    | bytes | bytearray => exact .succeeds rfl
    | _ => exact .fails (alike_cannotAppend (alike_typeName _) "bytearray")
  | none | bool | int | float | complex | set | frozenset | dict | point | sentinel | comparer
  | function | method | object | entity | channel =>
    exact renames_plus_of_sum (fun _ => rfl) (fun _ => rfl) b

theorem renames_strip (v : Value) : Renames π v.strip (v.renamed π).strip := by
  cases v with
  | str | bytes | bytearray => exact .succeeds rfl
  | _ => exact .fails (alike_noAttribute (alike_typeName _) "strip")

theorem part_point (id : Identity) (tag : Option String) (x y : Value) (name : String) :
    (Value.point id tag x y).part name =
      if name = "x" then .ok x else if name = "y" then .ok y
      else .error (.noAttribute "Point" name) := by
  unfold part
  split <;> simp_all [typeName]

theorem renames_part (v : Value) (name : String) :
    Renames π (v.part name) ((v.renamed π).part name) := by
  cases v with
  | point id tag x y =>
    rw [renamed, part_point, part_point]
    split
    · exact .succeeds rfl
    · split
      · exact .succeeds rfl
      · exact .fails (.refl π _)
  | bool | int | float | complex =>
    refine Renames.self fun u hu => ?_
    unfold part at hu
    split at hu
    -- what is no point has no coordinates
    all_goals first
      | (cases hu <;> rfl)
      | (next heq => cases heq)
  | _ => exact .fails (alike_noAttribute (alike_typeName _) name)

/-- Whether of two computations both fail with faults alike, or both give the same answer. -/
def Agrees (π : Equiv.Perm String) : Verdict → Verdict → Prop :=
  Outcome.Related (Fault.Alike π) Eq

theorem Agrees.self (x : Verdict) : Agrees π x x :=
  Outcome.Related.refl (Fault.Alike.refl π) (fun _ => rfl) x

theorem agrees_atLeast_of_number {a : Value} (ha : ∀ b, atLeast a b = numberAtLeast a b)
    (ha' : ∀ b, atLeast (a.renamed π) b = numberAtLeast (a.renamed π) b) (b : Value) :
    Agrees π (a.atLeast b) ((a.renamed π).atLeast (b.renamed π)) := by
  simp only [ha, ha', numberAtLeast, real?_renamed]
  split
  · exact .succeeds rfl
  · exact .fails (alike_incomparable (alike_typeName a) (alike_typeName b) ">=")

mutual

/-- **Values are in the same order whatever the names are.** -/
theorem agrees_atLeast : ∀ a b : Value,
    Agrees π (a.atLeast b) ((a.renamed π).atLeast (b.renamed π))
  | .str s, b => by
    cases b with
    | str t => exact .succeeds rfl
    | _ => exact .fails (alike_incomparable (.refl _) (alike_typeName _) ">=")
  | .bytes s, b | .bytearray _ s, b => by
    cases b with
    | bytes | bytearray => exact .succeeds rfl
    | _ => exact .fails (alike_incomparable (.refl _) (alike_typeName _) ">=")
  | .list i xs, b => by
    cases b with
    | list j ys => exact agrees_itemsAtLeast xs ys
    | _ => exact .fails (alike_incomparable (.refl _) (alike_typeName _) ">=")
  | .tuple i xs, b => by
    cases b with
    | tuple j ys => exact agrees_itemsAtLeast xs ys
    | _ => exact .fails (alike_incomparable (.refl _) (alike_typeName _) ">=")
  | .set i xs, b | .frozenset i xs, b => by
    cases b with
    | set j ys | frozenset j ys =>
      simp only [renamed, atLeast, itemsWithin_renamed]
      exact Agrees.self _
    | _ => exact .fails (alike_incomparable (.refl _) (alike_typeName _) ">=")
  | .none, b | .bool _, b | .int _, b | .float _ _, b | .complex _ _ _, b | .dict _ _, b
  | .point _ _ _ _, b | .sentinel _ _, b | .comparer _ _ _, b | .function _ _, b
  | .method _ _, b | .object _, b | .entity _, b | .channel, b =>
    agrees_atLeast_of_number (fun _ => rfl) (fun _ => rfl) b
termination_by structural a => a

theorem agrees_itemsAtLeast : ∀ xs ys : List Value,
    Agrees π (itemsAtLeast xs ys) (itemsAtLeast (renamedItems π xs) (renamedItems π ys))
  | [], [] | _ :: _, [] => .succeeds rfl
  | [], _ :: _ => .succeeds rfl
  | x :: xs, y :: ys => by
    simp only [renamedItems, itemsAtLeast, sameOr, same_renamed, equals_renamed]
    split
    · exact agrees_itemsAtLeast xs ys
    · exact agrees_atLeast x y
    · exact .fails (.refl π _)
termination_by structural xs => xs

end

/-! ### Descriptions -/

mutual

/-- **Values are described alike.** -/
theorem alike_describeWith (channel : String) : ∀ v : Value,
    Text.Alike π (v.describeWith channel) ((v.renamed π).describeWith channel)
  | .list _ items =>
    ((Text.Alike.refl _).append (.intercalate (alike_describeAll channel items) _)).append (.refl _)
  | .tuple _ [] => .refl _
  | .tuple _ [item] =>
    ((Text.Alike.refl _).append (alike_describeWith channel item)).append (.refl _)
  | .tuple _ (item :: item' :: items) =>
    ((Text.Alike.refl _).append
      (.intercalate (alike_describeAll channel (item :: item' :: items)) _)).append (.refl _)
  | .set _ [] => .refl _
  | .set _ (item :: items) =>
    ((Text.Alike.refl _).append
      (.intercalate (alike_describeAll channel (item :: items)) _)).append (.refl _)
  | .frozenset _ [] => .refl _
  | .frozenset _ (item :: items) =>
    ((Text.Alike.refl _).append
      (.intercalate (alike_describeAll channel (item :: items)) _)).append (.refl _)
  | .dict _ entries =>
    ((Text.Alike.refl _).append
      (.intercalate (alike_describeEntries channel entries) _)).append (.refl _)
  | .point _ _ x y =>
    ((((Text.Alike.refl _).append (alike_describeWith channel x)).append (.refl _)).append
      (alike_describeWith channel y)).append (.refl _)
  | .entity className => ((Text.Alike.refl _).append (.name className)).append (.refl _)
  | .none | .bool _ | .int _ | .str _ | .bytes _ | .float _ _ | .complex _ _ _ | .bytearray _ _
  | .sentinel _ _ | .comparer _ _ _ | .function _ _ | .method _ _ | .object _ | .channel =>
    .refl _
termination_by structural v => v

theorem alike_describeAll (channel : String) : ∀ items : List Value,
    List.Forall₂ (Text.Alike π) (describeAll channel items)
      (describeAll channel (renamedItems π items))
  | [] => .nil
  | v :: vs => .cons (alike_describeWith channel v) (alike_describeAll channel vs)
termination_by structural items => items

theorem alike_describeEntries (channel : String) : ∀ entries : List (Value × Value),
    List.Forall₂ (Text.Alike π) (describeEntries channel entries)
      (describeEntries channel (renamedEntries π entries))
  | [] => .nil
  | (k, v) :: es =>
    .cons (((alike_describeWith channel k).append (.refl _)).append (alike_describeWith channel v))
      (alike_describeEntries channel es)
termination_by structural entries => entries

end

end Value

end TrackedEntity
