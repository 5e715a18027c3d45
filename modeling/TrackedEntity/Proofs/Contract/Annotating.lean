import TrackedEntity.Proofs.Contract.Declarations

/-!
# Annotating the type of an attribute

Annotating a type keeps the type behind its annotations, and adds the new metadata behind its own
(`DeclaredType.split_annotate`); the first marker of all is the marker of the type.  Whether a type
declares an event is asked behind the annotations.  Whether it is that of a class variable is asked
of its outermost form, and so never of an annotated type.

Hence, but for class variables, an attribute of an annotated type is treated as one of the type
itself (`Catalog.declareAttribute_annotate`), and a class of which one attribute is annotated
declares the same as before, or fails with the same fault (`Catalog.declarations_retype`).
-/

namespace TrackedEntity

open Outcome

/-! ### Annotated types -/

namespace DeclaredType

/-- The marker among several items of metadata is found among the first of them, or else among the
others. -/
theorem splitMarker_append (own metadata : List Metadata) :
    splitMarker (own ++ metadata) =
      if (splitMarker own).1.isSome then ((splitMarker own).1, (splitMarker own).2 ++ metadata)
      else ((splitMarker metadata).1, (splitMarker own).2 ++ (splitMarker metadata).2) := by
  induction own with
  | nil => rfl
  | cons item own ih =>
    cases item with
    | marker directory => rfl
    | value v =>
      show ((splitMarker (own ++ metadata)).1,
          Metadata.value v :: (splitMarker (own ++ metadata)).2) =
        if (splitMarker own).1.isSome then
          ((splitMarker own).1, Metadata.value v :: (splitMarker own).2 ++ metadata)
        else ((splitMarker metadata).1,
          Metadata.value v :: (splitMarker own).2 ++ (splitMarker metadata).2)
      rw [ih]
      cases (splitMarker own).1 with
      | some directory => rfl
      | none => rfl

variable {t t' : DeclaredType} {metadata : List Metadata}

/-- What annotating a type gives. -/
theorem annotate_cases (h : t.annotate metadata = .ok t') (habsent : t ≠ .plain .absent) :
    (∃ base own, t = .annotated base own ∧ t' = .annotated base (own ++ metadata)) ∨
      ((∀ base own, t ≠ .annotated base own) ∧ t' = .annotated t metadata) := by
  have horAbsence : t.orAbsence = t := by
    cases t with
    | plain p =>
      cases p with
      | absent => exact absurd rfl habsent
      | _ => rfl
    | _ => rfl
  rw [annotate, horAbsence] at h
  split at h
  · cases h
  · cases t with
    | annotated base own => exact .inl ⟨base, own, rfl, (Except.ok.inj h).symm⟩
    | plain | event | classVar | applied | literal | contract | forward | value =>
      exact .inr ⟨fun _ _ heq => (by cases heq), (Except.ok.inj h).symm⟩

variable (h : t.annotate metadata = .ok t') (habsent : t ≠ .plain .absent)
include h habsent

theorem isClassVar_annotate : t'.isClassVar = false := by
  rcases annotate_cases h habsent with ⟨base, own, rfl, rfl⟩ | ⟨-, rfl⟩
  · rfl
  · rfl

theorem isEvent_annotate : t'.isEvent = t.isEvent := by
  rcases annotate_cases h habsent with ⟨base, own, rfl, rfl⟩ | ⟨hbare, rfl⟩
  · rfl
  · cases t with
    | annotated base own => exact absurd rfl (hbare base own)
    | _ => rfl

/-- Annotating keeps the type behind the annotations, and adds metadata at the end. -/
theorem split_annotate :
    t'.split = (t.split.1,
      if t.split.2.1.isSome then (t.split.2.1, t.split.2.2 ++ metadata)
      else ((splitMarker metadata).1, t.split.2.2 ++ (splitMarker metadata).2)) := by
  rcases annotate_cases h habsent with ⟨base, own, rfl, rfl⟩ | ⟨hbare, rfl⟩
  · exact congrArg (base, ·) (splitMarker_append own metadata)
  · cases t with
    | annotated base own => exact absurd rfl (hbare base own)
    | _ => rfl

end DeclaredType

/-! ### Attributes -/

/-- A declaration with more metadata at its type. -/
def Declaration.annotated (d : Declaration) (metadata : List Metadata) : Declaration :=
  if d.marker.isSome then { d with metadata := d.metadata ++ metadata }
  else { d with
    marker := (DeclaredType.splitMarker metadata).1
    metadata := d.metadata ++ (DeclaredType.splitMarker metadata).2 }

namespace Catalog

variable {catalog : Catalog} {t t' : DeclaredType} {metadata : List Metadata}

/-- **An attribute of an annotated type is treated as one of the type itself.** -/
theorem declareAttribute_annotate (h : t.annotate metadata = .ok t')
    (habsent : t ≠ .plain .absent) (hvariable : t.isClassVar = false) (c : ClassDef)
    (name : String) :
    catalog.declareAttribute c name t' =
      (catalog.declareAttribute c name t).map (Option.map (·.annotated metadata)) := by
  rw [declareAttribute, declareAttribute, DeclaredType.isClassVar_annotate h habsent, hvariable,
    DeclaredType.isEvent_annotate h habsent, DeclaredType.split_annotate h habsent]
  generalize t.split = parts
  obtain ⟨base, marker, own⟩ := parts
  cases t.isEvent with
  | true => rfl
  | false =>
    simp only [Bool.false_eq_true, ↓reduceIte]
    cases (c.members.get? name).any Member.isProperty with
    | true => rfl
    | false =>
      simp only [Bool.false_eq_true, ↓reduceIte]
      cases base.zeroValue catalog.hooks.unhashable? with
      | error f => rfl
      | ok zero =>
        show (if _ then _ else _) = Except.map _ (if _ then _ else _)
        cases (((c.members.get? name).bind Member.asDefault?).getD zero).hasUnhashableType with
        | true => rfl
        | false =>
          cases marker with
          | some directory => rfl
          | none => rfl

end Catalog

/-! ### Classes -/

namespace ClassDef

/-- An attribute with another type, if it has the name. -/
def retypeAttribute (name : String) (t : DeclaredType) (a : String × DeclaredType) :
    String × DeclaredType :=
  if a.1 = name then (a.1, t) else a

/-- The class with another type for an attribute. -/
def retype (c : ClassDef) (name : String) (t : DeclaredType) : ClassDef :=
  { c with attributes := c.attributes.map (retypeAttribute name t) }

/-- Whether the class has a property member of a name, which takes the place of an attribute. -/
def computes (c : ClassDef) (name : String) : Bool := (c.members.get? name).any Member.isProperty

end ClassDef

/-- A declaration of a class after the type of one of its attributes was annotated. -/
def Declaration.annotatedIn (c : ClassDef) (name : String) (metadata : List Metadata)
    (d : Declaration) : Declaration :=
  if d.name = name ∧ c.computes name = false then d.annotated metadata else d

namespace Declaration

theorem annotated_of_marked {d : Declaration} (h : d.marker.isSome = true)
    (metadata : List Metadata) :
    d.annotated metadata = { d with metadata := d.metadata ++ metadata } := if_pos h

theorem annotated_of_unmarked {d : Declaration} (h : d.marker = none) (metadata : List Metadata) :
    d.annotated metadata = { d with
      marker := (DeclaredType.splitMarker metadata).1
      metadata := d.metadata ++ (DeclaredType.splitMarker metadata).2 } :=
  if_neg (by rw [h]; exact Bool.false_ne_true)

theorem annotated_name (d : Declaration) (metadata : List Metadata) :
    (d.annotated metadata).name = d.name := by
  rw [annotated]
  split
  · rfl
  · rfl

theorem annotated_mutable (d : Declaration) (metadata : List Metadata) :
    (d.annotated metadata).mutable = d.mutable := by
  rw [annotated]
  split
  · rfl
  · rfl

end Declaration

namespace Catalog

/-- A type that is no text stands for itself. -/
theorem typeOf_eq_self {catalog : Catalog} {names : Table String Member} {t : DeclaredType}
    (htext : ∀ text, t ≠ .forward text) : catalog.typeOf names t = t := by
  cases t with
  | forward text => exact absurd rfl (htext text)
  | _ => rfl

variable {catalog : Catalog} {t t' : DeclaredType} {metadata : List Metadata} {c : ClassDef}
  {name : String}

theorem name_of_attribute? {other : String} {type : DeclaredType} {d : Declaration}
    (h : attribute? c other type = some d) : d.name = other ∧ c.computes other = false := by
  rw [attribute?] at h
  split at h
  · cases h
  · rename_i hnot
    obtain rfl := Option.some.inj h
    rw [Bool.not_eq_true, Bool.or_eq_false_iff] at hnot
    exact ⟨rfl, hnot.2⟩

variable (h : t.annotate metadata = .ok t') (habsent : t ≠ .plain .absent)
include h habsent

/-- Annotating a type that is no text changes nothing for the texts that are resolved. -/
theorem resolveAttributes_retype (htext : ∀ text, t ≠ .forward text)
    (hattribute : ∀ a ∈ c.attributes, a.1 = name → a.2 = t) :
    ((c.retype name t').attributes.mapM fun (other, type) => do
        return (other, ← catalog.resolveType (c.retype name t') (c.retype name t').names type) :
        Except Fault _) =
      (c.attributes.mapM fun (other, type) => do
        return (other, ← catalog.resolveType c c.names type) : Except Fault _).map
          (List.map (ClassDef.retypeAttribute name t')) := by
  have hself : ∀ type, (∀ text, type ≠ .forward text) → ∀ other : String,
      (do return (other, ← catalog.resolveType c c.names type) : Except Fault _) =
        .ok (other, type) := by
    intro type hplain other
    cases type with
    | forward text => exact absurd rfl (hplain text)
    | _ => rfl
  have htext' : ∀ text, t' ≠ .forward text := by
    intro text
    rcases DeclaredType.annotate_cases h habsent with ⟨base, own, -, rfl⟩ | ⟨-, rfl⟩
    · exact fun heq => by cases heq
    · exact fun heq => by cases heq
  refine mapM_map_eq fun a ha => ?_
  by_cases hname : a.1 = name
  · show (do return ((ClassDef.retypeAttribute name t' a).1, ← catalog.resolveType c c.names
        (ClassDef.retypeAttribute name t' a).2) : Except Fault _) =
      Except.map _ (do return (a.1, ← catalog.resolveType c c.names a.2))
    rw [hattribute a ha hname, hself t htext, ClassDef.retypeAttribute, if_pos hname,
      hself t' htext']
    simp only [Except.map, ClassDef.retypeAttribute, if_pos hname]
  · show (do return ((ClassDef.retypeAttribute name t' a).1, ← catalog.resolveType c c.names
        (ClassDef.retypeAttribute name t' a).2) : Except Fault _) =
      Except.map _ (do return (a.1, ← catalog.resolveType c c.names a.2))
    rw [ClassDef.retypeAttribute, if_neg hname]
    cases catalog.resolveType c c.names a.2 with
    | error f => rfl
    | ok type => exact (congrArg Except.ok (if_neg hname)).symm

variable (catalog c) in
/-- What attributes declare after the type of one of them was annotated. -/
theorem declareAttributes_retype (hvariable : t.isClassVar = false)
    {attributes : Table String DeclaredType} (hattribute : ∀ a ∈ attributes, a.1 = name → a.2 = t) :
    ((attributes.map (ClassDef.retypeAttribute name t')).mapM
        fun (other, type) => catalog.declareAttribute c other type) =
      (attributes.mapM fun (other, type) => catalog.declareAttribute c other type).map
        (List.map (Option.map (Declaration.annotatedIn c name metadata))) := by
  refine mapM_map_eq fun a ha => ?_
  show catalog.declareAttribute c (ClassDef.retypeAttribute name t' a).1
      (ClassDef.retypeAttribute name t' a).2 =
    (catalog.declareAttribute c a.1 a.2).map _
  have hnamed : ∀ {type d}, catalog.declareAttribute c a.1 type = .ok (some d) →
      d.name = a.1 ∧ c.computes a.1 = false :=
    fun hd => name_of_attribute? (declareAttribute_eq_ok_iff.1 hd).2.symm
  rw [ClassDef.retypeAttribute]
  by_cases hname : a.1 = name
  · rw [if_pos hname, declareAttribute_annotate h habsent hvariable, hattribute a ha hname]
    cases hd : catalog.declareAttribute c a.1 t with
    | error f => rfl
    | ok d? =>
      cases d? with
      | none => rfl
      | some d =>
        obtain ⟨hdname, hcomputes⟩ := hnamed hd
        simp only [Except.map, Option.map_some, Declaration.annotatedIn]
        rw [if_pos ⟨hdname.trans hname, hname ▸ hcomputes⟩]
  · rw [if_neg hname]
    cases hd : catalog.declareAttribute c a.1 a.2 with
    | error f => rfl
    | ok d? =>
      cases d? with
      | none => rfl
      | some d =>
        simp only [Except.map, Option.map_some, Declaration.annotatedIn]
        rw [if_neg fun hboth => hname ((hnamed hd).1.symm.trans hboth.1)]

omit h habsent in
variable (catalog c) in
/-- Property members do not look at the types of attributes. -/
theorem map_annotatedIn_property? (hmembers : (Table.keys c.members).Nodup) :
    (c.members.map fun m => catalog.property? m.1 m.2).map
        (Option.map (Declaration.annotatedIn c name metadata)) =
      c.members.map fun m => catalog.property? m.1 m.2 := by
  rw [List.map_map]
  refine List.map_congr_left fun m hm => ?_
  obtain ⟨other, member⟩ := m
  cases member with
  | property p =>
    -- a property member that has the name takes the place of the attribute
    have hget := (Table.get?_eq_some_iff hmembers).2 hm
    have hcomputes : c.computes other = true := by
      rw [ClassDef.computes, hget]
      rfl
    refine congrArg some (if_neg ?_)
    rintro ⟨rfl, hnot⟩
    exact Bool.false_ne_true (hnot.symm.trans hcomputes)
  | _ => rfl

omit h habsent in
/-- Changing some declarations before others are added that the change leaves as they are. -/
theorem bind_filterMap_map {f : Declaration → Declaration} (plain : List (Option Declaration))
    {computed? : Except Fault (List (Option Declaration))}
    (hsame : ∀ computed, computed? = .ok computed → computed.map (Option.map f) = computed) :
    (computed? >>= fun computed =>
        (.ok ((plain.map (Option.map f)).filterMap id ++ computed.filterMap id) : Except Fault _)) =
      (computed? >>= fun computed =>
        (.ok (plain.filterMap id ++ computed.filterMap id) : Except Fault _)).map (List.map f) := by
  cases computed? with
  | error f => rfl
  | ok computed =>
    have hfilter : ∀ ds : List (Option Declaration),
        (ds.map (Option.map f)).filterMap id = (ds.filterMap id).map f := by
      intro ds
      rw [List.filterMap_map, List.map_filterMap]
      rfl
    refine congrArg Except.ok ?_
    rw [List.map_append, ← hfilter, ← hfilter, hsame computed rfl]

/-- **A class with an annotated type declares the same as before**, apart from marker and metadata
of the one property. -/
theorem declarations_retype (htext : ∀ text, t ≠ .forward text) (hvariable : t.isClassVar = false)
    (hattribute : ∀ a ∈ c.attributes, a.1 = name → a.2 = t)
    (hmembers : (Table.keys c.members).Nodup) :
    catalog.declarations (c.retype name t') =
      (catalog.declarations c).map (List.map (Declaration.annotatedIn c name metadata)) := by
  have hmembers' : (c.retype name t').members = c.members := rfl
  rw [declarations, declarations, resolveAttributes_retype h habsent htext hattribute, hmembers']
  cases c.members.find? (·.2.isEvent) with
  | some m => rfl
  | none =>
    cases hresolved : (c.attributes.mapM fun (other, type) => do
        return (other, ← catalog.resolveType c c.names type) : Except Fault _) with
    | error f => rfl
    | ok attributes =>
      obtain ⟨-, rfl⟩ := resolveAttributes_eq_ok_iff.1 hresolved
      have hattribute' : ∀ a ∈ c.attributes.map fun a => (a.1, catalog.typeOf c.names a.2),
          a.1 = name → a.2 = t := by
        intro a ha hname
        obtain ⟨a, hmem, rfl⟩ := List.mem_map.1 ha
        show catalog.typeOf c.names a.2 = t
        rw [hattribute a hmem hname, typeOf_eq_self htext]
      -- the attributes one by one, and then the property members
      have hplain := declareAttributes_retype catalog c h habsent hvariable hattribute'
      show (((c.attributes.map fun a => (a.1, catalog.typeOf c.names a.2)).map
          (ClassDef.retypeAttribute name t')).mapM
            (fun (other, type) => catalog.declareAttribute c other type) >>= fun plain =>
          c.members.mapM _ >>= fun computed =>
            (.ok (plain.filterMap id ++ computed.filterMap id) : Except Fault _)) =
        Except.map _ (((c.attributes.map fun a => (a.1, catalog.typeOf c.names a.2)).mapM
            (fun (other, type) => catalog.declareAttribute c other type)) >>= fun plain =>
          c.members.mapM _ >>= fun computed =>
            (.ok (plain.filterMap id ++ computed.filterMap id) : Except Fault _))
      rw [hplain]
      cases (c.attributes.map fun a => (a.1, catalog.typeOf c.names a.2)).mapM
          fun (other, type) => catalog.declareAttribute c other type with
      | error f => rfl
      | ok plain =>
        refine bind_filterMap_map plain fun computed hcomputed => ?_
        obtain ⟨-, rfl⟩ := declareMembers_eq_ok_iff.1 hcomputed
        exact map_annotatedIn_property? catalog c hmembers

end Catalog

end TrackedEntity
