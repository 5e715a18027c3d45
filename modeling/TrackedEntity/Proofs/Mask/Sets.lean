import Mathlib.Data.Finset.Sort
import TrackedEntity.Proofs.Mask.Membership
import TrackedEntity.Proofs.Outcome

/-!
# Both forms of masks are sets of ordinals

A mask of a layout `Holds` a finite set of ordinals when it fits the layout and the set is what it
has.  A new mask holds the empty set, marking an ordinal inserts it (`Holds.mark`), and whatever can
be asked of the mask is answered as the set answers it (`Holds.perform`), so a whole course of uses
is answered as the set answers it (`Holds.performAll`).

Nothing in this depends on the form.  So the scalars that are allocated for up to 64 properties and
byte masks for the same number give the same answers (`Layout.masks_are_sets`).
-/

namespace TrackedEntity

/-! ### Uses of masks -/

/-- What can be done with a mask. -/
inductive MaskUse where
  | mark (ordinal : ℕ)
  | isSet (ordinal : ℕ)
  | any
  | ordinals

/-- What a mask replies. -/
inductive MaskReply where
  | nothing
  | truth (b : Bool)
  | listed (ordinals : List ℕ)
deriving DecidableEq

namespace MaskUse

/-- The ordinal that a use is about. -/
def ordinal? : MaskUse → Option ℕ
  | .mark i | .isSet i => some i
  | .any | .ordinals => none

/-- What a finite set replies, and the set afterwards. -/
def onSet (s : Finset ℕ) : MaskUse → MaskReply × Finset ℕ
  | .mark i => (.nothing, insert i s)
  | .isSet i => (.truth (decide (i ∈ s)), s)
  | .any => (.truth (decide s.Nonempty), s)
  | .ordinals => (.listed (s.sort (· ≤ ·)), s)

/-- What a finite set replies to uses one after another, and the set afterwards. -/
def allOnSet : Finset ℕ → List MaskUse → List MaskReply × Finset ℕ
  | s, [] => ([], s)
  | s, use :: uses =>
    let (reply, s) := use.onSet s
    let (replies, s) := allOnSet s uses
    (reply :: replies, s)

end MaskUse

namespace Mask

/-- What a mask replies, and the mask afterwards. -/
def perform (mask : Mask) : MaskUse → Except Fault (MaskReply × Mask)
  | .mark i => do return (.nothing, ← mask.mark i)
  | .isSet i => do return (.truth (← mask.isSet i), mask)
  | .any => return (.truth mask.any, mask)
  | .ordinals => return (.listed mask.ordinals, mask)

/-- What a mask replies to uses one after another, and the mask afterwards. -/
def performAll : Mask → List MaskUse → Except Fault (List MaskReply × Mask)
  | mask, [] => return ([], mask)
  | mask, use :: uses => do
    let (reply, mask) ← mask.perform use
    let (replies, mask) ← performAll mask uses
    return (reply :: replies, mask)

/-- The mask with ordinals marked, one after another. -/
def markAll (mask : Mask) (ordinals : List ℕ) : Except Fault Mask :=
  ordinals.foldlM (fun mask (i : ℕ) => mask.mark (i : ℤ)) mask

/-- A byte index that is not counted from the end is found only inside. -/
theorem eq_of_byteIndex {length i j : ℕ} (h : byteIndex length (i : ℤ) = .ok j) :
    j = i ∧ i < length := by
  rw [byteIndex] at h
  split at h
  · cases h
  · by_cases hi : i < length
    · rw [Position.fromEnds?_natCast hi] at h
      exact ⟨(Except.ok.inj h).symm, hi⟩
    · rw [Position.fromEnds?, if_neg (by omega), if_neg (by omega)] at h
      cases h

/-- An ordinal behind the last byte is refused. -/
theorem exists_isSet_bytes_iff {data : List UInt8} (hroom : data.length < leastTooLarge) {i : ℕ} :
    (∃ b, (Mask.bytes data).isSet (i : ℤ) = .ok b) ↔ i < 8 * data.length := by
  constructor
  · rintro ⟨b, hb⟩
    simp only [isSet, byteAndBit_natCast] at hb
    obtain ⟨j, hj, -⟩ := Outcome.map_eq_ok.1 hb
    obtain ⟨-, hlt⟩ := eq_of_byteIndex hj
    omega
  · intro hi
    exact ⟨_, isSet_eq ⟨hi, hroom⟩⟩

end Mask

/-! ### Layouts for a number of properties -/

namespace Layout

variable {layout : Layout} {n : ℕ} {mask : Mask} {s : Finset ℕ}

/-- The narrowest scalar kind with a bit for each property is chosen, or bytes where none has. -/
theorem kindFor_spec (n : ℕ) :
    (∃ width, (kindFor n).width? = some width ∧ n ≤ width ∧
      ∀ kind width', MaskKind.width? kind = some width' → n ≤ width' → width ≤ width') ∨
    kindFor n = .bytes ∧ 64 < n := by
  have hscalar : ∀ kind width', MaskKind.width? kind = some width' → kind ∈ MaskKind.scalars := by
    intro kind width' hwidth
    cases kind <;> cases hwidth <;> decide
  have hincreasing : MaskKind.scalars.Pairwise fun a b => a.width?.getD 0 ≤ b.width?.getD 0 := by
    decide
  unfold kindFor
  cases hfind : MaskKind.scalars.find? fun kind => (n : ℤ) ≤ (kind.width?.getD 0 : ℕ) with
  | none =>
    have hwide := List.find?_eq_none.1 hfind .uint64 (by decide)
    rw [decide_eq_true_eq] at hwide
    have hwidth : MaskKind.uint64.width?.getD 0 = 64 := rfl
    exact .inr ⟨rfl, by omega⟩
  | some chosen =>
    obtain ⟨hle, before, after, hsplit, hbefore⟩ := List.find?_eq_some_iff_append.1 hfind
    have hmem : chosen ∈ MaskKind.scalars := List.mem_of_find?_eq_some hfind
    have hall : ∀ kind ∈ MaskKind.scalars, kind.width?.isSome = true := by decide
    obtain ⟨width, hwidth⟩ := Option.isSome_iff_exists.1 (hall chosen hmem)
    rw [hwidth, Option.getD_some, decide_eq_true_eq] at hle
    refine .inl ⟨width, hwidth, by omega, fun kind width' hwidth' hle' => ?_⟩
    -- a kind that is wide enough is not among the narrower ones before the chosen one
    have hkind := hscalar kind width' hwidth'
    rw [hsplit, List.mem_append, List.mem_cons] at hkind
    rcases hkind with hkind | rfl | hkind
    · have hnarrow := hbefore kind hkind
      simp [hwidth'] at hnarrow
      omega
    · rw [hwidth] at hwidth'
      exact (Option.some.inj hwidth').le
    · rw [hsplit, List.pairwise_append, List.pairwise_cons] at hincreasing
      have hlater := hincreasing.2.1.1 kind hkind
      rwa [hwidth, hwidth', Option.getD_some, Option.getD_some] at hlater

/-- The two layouts for a number of properties: the one that is allocated, and bytes. -/
theorem serves_of_new (hl : allocate n = .ok layout ∨ layout = ⟨.bytes, n⟩)
    (hn : layout.new = .ok mask) : layout.Serves n := by
  rcases hl with hl | rfl
  · exact (allocated_of_new hl hn).serves
  · refine ⟨rfl, nofun, fun _ => ?_⟩
    rcases new_cases hn with ⟨h, -⟩ | ⟨-, hroom, -⟩
    · cases h
    · dsimp only at hroom
      omega

theorem exists_new_iff (hcount : layout.count = n) :
    (∃ mask, layout.new = .ok mask) ↔
      layout.kind.isScalar = true ∨ (n + 7) / 8 < Mask.leastTooLarge := by
  constructor
  · rintro ⟨mask, hn⟩
    rcases new_cases hn with ⟨hs, -⟩ | ⟨-, hroom, -⟩
    · exact .inl hs
    · exact .inr (by omega)
  · intro h
    by_cases hs : layout.kind.isScalar = true
    · exact ⟨_, if_pos hs⟩
    · exact exists_new_of_roomy hcount (h.resolve_left hs)

/-! ### Masks that hold a set -/

/-- Whether a mask of a layout holds the ordinals of a set, and no others. -/
structure Holds (layout : Layout) (mask : Mask) (s : Finset ℕ) : Prop where
  fits : layout.Fits mask
  has_iff : ∀ i, mask.has i = true ↔ i ∈ s

theorem holds_new (hl : layout.Serves n) (hn : layout.new = .ok mask) : layout.Holds mask ∅ :=
  ⟨fits_new hl hn, fun i => by simp [has_new hn]⟩

namespace Holds

/-- What a mask holds determines it. -/
theorem unique {mask' : Mask} (h : layout.Holds mask s) (h' : layout.Holds mask' s) :
    mask = mask' :=
  h.fits.ext h'.fits fun i => Bool.eq_iff_iff.2 ((h.has_iff i).trans (h'.has_iff i).symm)

variable (h : layout.Holds mask s) (hl : layout.Serves n)
include h

theorem lt_of_mem (hl : layout.Serves n) {i : ℕ} (hi : i ∈ s) : i < n := by
  by_contra hge
  have hnone := h.fits.has_eq_false (i := i) (by rw [hl.count_eq]; omega)
  rw [(h.has_iff i).2 hi] at hnone
  cases hnone

include hl in
/-- **Marking an ordinal inserts it.** -/
theorem mark {i : ℕ} (hi : i < n) :
    ∃ marked, mask.mark (i : ℤ) = .ok marked ∧ layout.Holds marked (insert i s) := by
  have hroom := h.fits.hasRoom hl hi
  refine ⟨mask.insert i, Mask.mark_eq hroom, h.fits.insert hl hi, fun j => ?_⟩
  rw [Mask.has_insert hroom, Bool.or_eq_true, decide_eq_true_eq, h.has_iff, Finset.mem_insert]

theorem any_eq : mask.any = decide s.Nonempty := by
  rw [Bool.eq_iff_iff, Mask.any_iff, decide_eq_true_eq]
  exact exists_congr h.has_iff

theorem ordinals_eq : mask.ordinals = s.sort (· ≤ ·) := by
  -- two sorted lists of the same ordinals, each without repetitions
  refine List.Perm.eq_of_pairwise' (r := (· ≤ ·)) ?_ (s.pairwise_sort _) ?_
  · exact (Mask.pairwise_ordinals mask).imp Nat.le_of_lt
  · have hnodup : mask.ordinals.Nodup := (Mask.pairwise_ordinals mask).imp Nat.ne_of_lt
    rw [List.perm_ext_iff_of_nodup hnodup (s.sort_nodup _)]
    intro i
    rw [Mask.mem_ordinals, h.has_iff, Finset.mem_sort]

/-- A mask can be asked for every ordinal that it has a place for. -/
theorem isSet_cases (hl : layout.Serves n) (i : ℕ) :
    ((∃ b, mask.isSet (i : ℤ) = .ok b) ↔
      layout.kind.isScalar = true ∨ i < 8 * ((n + 7) / 8)) ∧
    ∀ b, mask.isSet (i : ℤ) = .ok b → (b = true ↔ i ∈ s) := by
  have hfits := h.fits
  rw [← h.has_iff]
  cases mask with
  | scalar bits =>
    have hanswer : (Mask.scalar bits).isSet (i : ℤ) = .ok ((Mask.scalar bits).has i) := by
      simp [Mask.isSet, Mask.has]
    refine ⟨iff_of_true ⟨_, hanswer⟩ (.inl hfits.1), fun b hb => ?_⟩
    rw [← Except.ok.inj (hanswer.symm.trans hb)]
  | bytes data =>
    have hlength : data.length = (n + 7) / 8 := by
      rw [hfits.2.1, hl.count_eq, Int.toNat_natCast]
    have hroom : data.length < Mask.leastTooLarge := hlength ▸ hl.roomy hfits.1
    have hanswers := Mask.exists_isSet_bytes_iff hroom (i := i)
    refine ⟨?_, fun b hb => ?_⟩
    · rw [hanswers, hlength]
      simp [hfits.1]
    · have hplace : (Mask.bytes data).HasRoom i := ⟨hanswers.1 ⟨b, hb⟩, hroom⟩
      rw [← Except.ok.inj ((Mask.isSet_eq hplace).symm.trans hb)]

include hl

theorem isSet_eq {i : ℕ} (hi : i < n) : mask.isSet (i : ℤ) = .ok (decide (i ∈ s)) := by
  rw [Mask.isSet_eq (h.fits.hasRoom hl hi)]
  congr 1
  rw [Bool.eq_iff_iff, h.has_iff, decide_eq_true_eq]

/-- **A mask replies as the set that it holds**, and then holds the set afterwards. -/
theorem perform {use : MaskUse} (huse : ∀ i, use.ordinal? = some i → i < n) :
    ∃ mask', mask.perform use = .ok ((use.onSet s).1, mask') ∧
      layout.Holds mask' (use.onSet s).2 := by
  cases use with
  | mark i =>
    obtain ⟨marked, hmark, hholds⟩ := h.mark hl (huse i rfl)
    refine ⟨marked, ?_, hholds⟩
    rw [Mask.perform, hmark]
    rfl
  | isSet i =>
    refine ⟨mask, ?_, h⟩
    rw [Mask.perform, h.isSet_eq hl (huse i rfl)]
    rfl
  | any => exact ⟨mask, by rw [Mask.perform, h.any_eq]; rfl, h⟩
  | ordinals => exact ⟨mask, by rw [Mask.perform, h.ordinals_eq]; rfl, h⟩

omit h in
theorem performAll {uses : List MaskUse} (h : layout.Holds mask s)
    (huses : ∀ use ∈ uses, ∀ i, use.ordinal? = some i → i < n) :
    ∃ mask', mask.performAll uses = .ok ((MaskUse.allOnSet s uses).1, mask') ∧
      layout.Holds mask' (MaskUse.allOnSet s uses).2 := by
  induction uses generalizing mask s with
  | nil => exact ⟨mask, rfl, h⟩
  | cons use uses ih =>
    rw [List.forall_mem_cons] at huses
    obtain ⟨mask', hperform, h'⟩ := h.perform hl huses.1
    obtain ⟨mask'', hall, h''⟩ := ih h' huses.2
    refine ⟨mask'', ?_, h''⟩
    rw [Mask.performAll, hperform]
    show (do let (replies, mask) ← mask'.performAll uses
             return ((use.onSet s).1 :: replies, mask) : Except Fault _) = _
    rw [hall]
    rfl

omit h in
theorem markAll {ordinals : List ℕ} (h : layout.Holds mask s) (hlt : ∀ i ∈ ordinals, i < n) :
    ∃ marked, mask.markAll ordinals = .ok marked ∧
      layout.Holds marked (s ∪ ordinals.toFinset) := by
  induction ordinals generalizing mask s with
  | nil => exact ⟨mask, rfl, by simpa using h⟩
  | cons i ordinals ih =>
    rw [List.forall_mem_cons] at hlt
    obtain ⟨mask', hmark, h'⟩ := h.mark hl hlt.1
    obtain ⟨marked, hall, hholds⟩ := ih h' hlt.2
    refine ⟨marked, ?_, ?_⟩
    · rw [Mask.markAll, List.foldlM_cons, hmark]
      exact hall
    · have hsets : insert i s ∪ ordinals.toFinset = s ∪ (i :: ordinals).toFinset := by
        ext j
        simp only [Finset.mem_union, Finset.mem_insert, List.toFinset_cons]
        tauto
      exact hsets ▸ hholds

end Holds

/-! ### Both forms -/

/-- Whether ordinals are stored in a mask as they are to be: in a number with a bit for each that is
no wider than the kind, or in just as many bytes as needed, eight ordinals in each. -/
def Stores (layout : Layout) (n : ℕ) (marks : List ℕ) : Mask → Prop
  | .scalar bits =>
    bits < 2 ^ n ∧ (∃ width, layout.kind.width? = some width ∧ bits < 2 ^ width) ∧
      ∀ i, bits.testBit i = true ↔ i ∈ marks
  | .bytes data =>
    layout.kind = .bytes ∧ data.length = (n + 7) / 8 ∧ (∀ byte ∈ data, byte.toNat < 256) ∧
      ∀ i < 8 * data.length, ∃ byte, data[i / 8]? = some byte ∧
        (byte.toNat.testBit (i % 8) = true ↔ i ∈ marks)

/-- Whether a mask of a layout shows that certain ordinals were marked, whatever it is asked. -/
structure Shows (layout : Layout) (n : ℕ) (mask : Mask) (marks : List ℕ) : Prop where
  /-- It can be asked for each ordinal that it has a place for. -/
  exists_isSet_iff : ∀ j : ℕ, (∃ b, mask.isSet (j : ℤ) = .ok b) ↔
    layout.kind.isScalar = true ∨ j < 8 * ((n + 7) / 8)
  isSet : ∀ (j : ℕ) b, mask.isSet (j : ℤ) = .ok b → (b = true ↔ j ∈ marks)
  any : mask.any = true ↔ marks ≠ []
  pairwise_ordinals : mask.ordinals.Pairwise (· < ·)
  mem_ordinals : ∀ j, j ∈ mask.ordinals ↔ j ∈ marks
  mark_again : ∀ i ∈ marks, mask.mark (i : ℤ) = .ok mask
  mark_comm : ∀ i < n, ∀ j < n,
    ∃ mask', mask.markAll [i, j] = .ok mask' ∧ mask.markAll [j, i] = .ok mask'
  stores : layout.Stores n marks mask

theorem Holds.stores (hl : layout.Serves n)
    (hwide : ∀ width, layout.kind.width? = some width → n ≤ width) {marks : List ℕ}
    (h : layout.Holds mask marks.toFinset) : layout.Stores n marks mask := by
  have hfits := h.fits
  have hhas := h.has_iff
  simp only [List.mem_toFinset] at hhas
  cases mask with
  | scalar bits =>
    obtain ⟨hscalar, hlt⟩ := hfits
    rw [hl.count_eq, Int.toNat_natCast] at hlt
    obtain ⟨width, hwidth⟩ := Option.isSome_iff_exists.1 hscalar
    have hpow : 2 ^ n ≤ 2 ^ width := Nat.pow_le_pow_right (by norm_num) (hwide width hwidth)
    exact ⟨hlt, ⟨width, hwidth, by omega⟩, hhas⟩
  | bytes data =>
    obtain ⟨hscalar, hlength, -⟩ := hfits
    rw [hl.count_eq, Int.toNat_natCast] at hlength
    have hkind : layout.kind = .bytes := by
      revert hscalar
      cases layout.kind <;> decide
    refine ⟨hkind, hlength, fun byte _ => byte.toNat_lt, fun i hi => ?_⟩
    have hbyte : i / 8 < data.length := by omega
    refine ⟨_, List.getElem?_eq_getElem hbyte, ?_⟩
    rw [← hhas i, Mask.has, List.getD_eq_getElem _ _ hbyte]

theorem Holds.shows (hl : layout.Serves n)
    (hwide : ∀ width, layout.kind.width? = some width → n ≤ width) {marks : List ℕ}
    (h : layout.Holds mask marks.toFinset) : layout.Shows n mask marks where
  exists_isSet_iff j := (h.isSet_cases hl j).1
  isSet j b hb := by rw [(h.isSet_cases hl j).2 b hb, List.mem_toFinset]
  any := by rw [h.any_eq, decide_eq_true_eq, List.toFinset_nonempty_iff]
  pairwise_ordinals := Mask.pairwise_ordinals mask
  mem_ordinals j := by rw [Mask.mem_ordinals, h.has_iff, List.mem_toFinset]
  mark_again i hi := by
    have hmem : i ∈ marks.toFinset := List.mem_toFinset.2 hi
    -- the set stays the same, and a mask is determined by what it holds
    obtain ⟨marked, hmark, hholds⟩ := h.mark hl (h.lt_of_mem hl hmem)
    rw [Finset.insert_eq_of_mem hmem] at hholds
    rw [hmark, h.unique hholds]
  mark_comm i hi j hj := by
    obtain ⟨marked, hmark, hholds⟩ := h.markAll hl (show ∀ k ∈ [i, j], k < n by simp [hi, hj])
    obtain ⟨marked', hmark', hholds'⟩ := h.markAll hl (show ∀ k ∈ [j, i], k < n by simp [hi, hj])
    have hsame : [j, i].toFinset = [i, j].toFinset := by simp [Finset.pair_comm]
    rw [hsame] at hholds'
    exact ⟨marked, hmark, by rw [hmark', hholds.unique hholds']⟩
  stores := h.stores hl hwide

/-- **Both forms of masks are sets of ordinals.**

For any number of properties a layout is allocated, with the narrowest scalar width that has a bit
for each, or bytes beyond the widest.  On this layout, and as well on bytes for the same number, a
new mask shows, after ordinals below the number were marked in any order and with any repetitions,
that just these were marked; and it replies to any course of uses as a set of numbers does, which
has nothing to do with the form. -/
theorem masks_are_sets (n : ℕ) :
    (∃ layout, allocate n = .ok layout ∧ layout.count = n ∧
      ((∃ width, layout.kind.width? = some width ∧ n ≤ width ∧
          ∀ kind width', MaskKind.width? kind = some width' → n ≤ width' → width ≤ width') ∨
        layout.kind = .bytes ∧ 64 < n)) ∧
    ∀ layout, allocate n = .ok layout ∨ layout = ⟨.bytes, n⟩ →
      ((∃ new, layout.new = .ok new) ↔
        layout.kind.isScalar = true ∨ (n + 7) / 8 < Mask.leastTooLarge) ∧
      ∀ new, layout.new = .ok new →
        (∀ marks : List ℕ, (∀ i ∈ marks, i < n) →
          ∃ mask, new.markAll marks = .ok mask ∧ layout.Shows n mask marks) ∧
        ∀ uses : List MaskUse, (∀ use ∈ uses, ∀ i, use.ordinal? = some i → i < n) →
          (new.performAll uses).map Prod.fst = .ok (MaskUse.allOnSet ∅ uses).1 := by
  have hallocate : allocate n = .ok ⟨kindFor n, n⟩ := if_neg (by omega)
  refine ⟨⟨_, hallocate, rfl, kindFor_spec n⟩, fun layout hlayout => ?_⟩
  have hcases : layout = ⟨kindFor n, n⟩ ∨ layout = ⟨.bytes, n⟩ :=
    hlayout.imp_left fun h => (Except.ok.inj (hallocate.symm.trans h)).symm
  have hcount : layout.count = n := by
    rcases hcases with rfl | rfl <;> rfl
  have hwide : ∀ width, layout.kind.width? = some width → n ≤ width := by
    intro width hwidth
    rcases hcases with rfl | rfl
    · rcases kindFor_spec n with ⟨width', hwidth', hle, -⟩ | ⟨hbytes, -⟩
      · rw [← Option.some.inj (hwidth'.symm.trans hwidth)]
        exact hle
      · simp [hbytes, MaskKind.width?] at hwidth
    · cases hwidth
  refine ⟨exists_new_iff hcount, fun new hnew => ?_⟩
  have hserves := serves_of_new hlayout hnew
  have hempty := holds_new hserves hnew
  refine ⟨fun marks hmarks => ?_, fun uses huses => ?_⟩
  · obtain ⟨mask, hmask, hholds⟩ := hempty.markAll hserves hmarks
    rw [Finset.empty_union] at hholds
    exact ⟨mask, hmask, hholds.shows hserves hwide⟩
  · obtain ⟨mask, hperform, -⟩ := hempty.performAll hserves huses
    rw [hperform]
    rfl

/-- Ten properties have a scalar of sixteen bits; two bytes answer as it does. -/
theorem masks_are_sets_ten :
    allocate 10 = .ok ⟨.uint16, 10⟩ ∧
    (∃ mask, (Mask.scalar 0).markAll [9, 0, 9] = .ok mask ∧ mask = .scalar 513 ∧
      ∀ j, j ∈ mask.ordinals ↔ j ∈ [9, 0, 9]) ∧
    (∃ mask, (Mask.bytes [0, 0]).markAll [9, 0, 9] = .ok mask ∧ mask = .bytes [1, 2] ∧
      ∀ j, j ∈ mask.ordinals ↔ j ∈ [9, 0, 9]) ∧
    ((Mask.scalar 0).performAll [.mark 9, .isSet 1, .ordinals, .any]).map Prod.fst =
      ((Mask.bytes [0, 0]).performAll [.mark 9, .isSet 1, .ordinals, .any]).map Prod.fst := by
  obtain ⟨-, hlayouts⟩ := masks_are_sets 10
  obtain ⟨hscalar, hscalarUses⟩ := (hlayouts ⟨.uint16, 10⟩ (.inl rfl)).2 (.scalar 0) rfl
  obtain ⟨hbytes, hbytesUses⟩ := (hlayouts ⟨.bytes, 10⟩ (.inr rfl)).2 (.bytes [0, 0]) rfl
  obtain ⟨word, hword, hwordShows⟩ := hscalar [9, 0, 9] (by decide)
  obtain ⟨data, hdata, hdataShows⟩ := hbytes [9, 0, 9] (by decide)
  refine ⟨rfl, ⟨word, hword, ?_, hwordShows.mem_ordinals⟩,
    ⟨data, hdata, ?_, hdataShows.mem_ordinals⟩, ?_⟩
  · exact (Except.ok.inj hword).symm
  · exact (Except.ok.inj hdata).symm
  · rw [hscalarUses _ (by decide), hbytesUses _ (by decide)]

end Layout

end TrackedEntity
