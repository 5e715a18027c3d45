import TrackedEntity.Mask.Layout
import TrackedEntity.Proofs.Mask.Bits

/-!
# Masks as sets of ordinals

`Mask.has` is the one view of a mask: which ordinals it holds, whatever its form.  Through it,
`insert` adds one ordinal (`has_insert`), `any` says whether there is one (`any_iff`), and
`ordinals` enumerates them from below (`mem_ordinals`, `pairwise_ordinals`).

`mark` and `isSet` answer for every integer, and refuse those that a mask has no place for; inside
of `HasRoom` they are `insert` and `has` (`mark_eq`, `isSet_eq`).

The `blank` mask stands for form and length, which together with the ordinals held determine a mask
(`ext_of_blank`).

A mask `Fits` a layout when it has the layout's form and size and holds no ordinal at or above the
layout's count.  A new mask fits and is empty (`fits_new`, `has_new`), inserting an ordinal below
the count keeps the fit (`Fits.insert`), and masks that fit are equal when they hold the same
(`Fits.ext`).
-/

namespace TrackedEntity

namespace Mask

/-! ### The view -/

/-- Whether the mask holds an ordinal. -/
def has : Mask → ℕ → Bool
  | .scalar bits, i => bits.testBit i
  | .bytes data, i => (data.getD (i / 8) 0).toNat.testBit (i % 8)

/-- The mask with an ordinal added. -/
def insert : Mask → ℕ → Mask
  | .scalar bits, i => .scalar (bits ||| 1 <<< i)
  | .bytes data, i => .bytes (data.modify (i / 8) (setByteBit · (i % 8)))

/-- Whether the mask has a place for an ordinal. -/
def HasRoom : Mask → ℕ → Prop
  | .scalar _, i => i < leastTooLarge
  | .bytes data, i => i < 8 * data.length ∧ data.length < leastTooLarge

/-- Whether an ordinal lies within the length of the mask, if that has one. -/
def Within : Mask → ℕ → Prop
  | .scalar _, _ => True
  | .bytes data, i => i < 8 * data.length

theorem HasRoom.within {mask : Mask} {i : ℕ} (h : mask.HasRoom i) : mask.Within i := by
  cases mask with
  | scalar bits => trivial
  | bytes data => exact h.1

theorem byteAndBit_natCast (i : ℕ) : byteAndBit (i : ℤ) = (((i / 8 : ℕ) : ℤ), i % 8) := by
  unfold byteAndBit
  congr 1

theorem byteIndex_natCast {length i : ℕ} (hi : i < length) (hl : length < leastTooLarge) :
    byteIndex length (i : ℤ) = .ok i := by
  have hw : Position.isWord (i : ℤ) = true := by
    unfold leastTooLarge at hl
    simp only [Position.isWord, Bool.and_eq_true, decide_eq_true_eq]
    omega
  simp [byteIndex, hw, Position.fromEnds?_natCast hi]

theorem isSet_eq {mask : Mask} {i : ℕ} (h : mask.HasRoom i) :
    mask.isSet (i : ℤ) = .ok (mask.has i) := by
  cases mask with
  | scalar bits => simp [isSet, has]
  | bytes data =>
    simp only [isSet, byteAndBit_natCast]
    rw [byteIndex_natCast (by have := h.1; omega) h.2]
    rfl

theorem mark_eq {mask : Mask} {i : ℕ} (h : mask.HasRoom i) :
    mask.mark (i : ℤ) = .ok (mask.insert i) := by
  cases mask with
  | scalar bits =>
    have hi : i < leastTooLarge := h
    have hl : i < leastTooLong := by
      unfold leastTooLong
      unfold leastTooLarge at hi
      omega
    simp [mark, insert, Nat.not_le.2 hi, Nat.not_le.2 hl]
  | bytes data =>
    simp only [mark, byteAndBit_natCast]
    rw [byteIndex_natCast (by have := h.1; omega) h.2]
    rfl

/-! ### Adding an ordinal -/

theorem testBit_setByteBit (byte : UInt8) {bit : ℕ} (hb : bit < 8) (j : ℕ) :
    (setByteBit byte bit).toNat.testBit j = (decide (j = bit) || byte.toNat.testBit j) := by
  have hone : (1 <<< UInt8.ofNat bit : UInt8).toNat = 2 ^ bit := by
    interval_cases bit <;> rfl
  rw [setByteBit, UInt8.toNat_or, hone, Nat.testBit_or, Nat.testBit_two_pow, Bool.or_comm]
  congr 1
  exact decide_eq_decide.2 eq_comm

/-- Inserting adds one ordinal and no other. -/
theorem has_insert_of_within {mask : Mask} {i : ℕ} (h : mask.Within i) (j : ℕ) :
    (mask.insert i).has j = (decide (j = i) || mask.has j) := by
  cases mask with
  | scalar bits =>
    simp only [insert, has, Nat.testBit_or, Nat.one_shiftLeft, Nat.testBit_two_pow]
    rw [Bool.or_comm]
    congr 1
    exact decide_eq_decide.2 eq_comm
  | bytes data =>
    have hlt : i / 8 < data.length := Nat.div_lt_of_lt_mul h
    simp only [insert, has, List.getD_eq_getElem?_getD, List.getElem?_modify]
    by_cases hb : i / 8 = j / 8
    · -- within the byte, bits are distinct when ordinals are
      simp only [if_pos hb]
      rw [← hb, List.getElem?_eq_getElem hlt]
      simp only [Option.map_eq_map, Option.map_some, Option.getD_some]
      rw [testBit_setByteBit _ (Nat.mod_lt _ (by norm_num))]
      congr 1
      exact decide_eq_decide.2 ⟨fun h' => by omega, fun h' => by omega⟩
    · simp [if_neg hb, show j ≠ i by rintro rfl; exact hb rfl]

theorem has_insert {mask : Mask} {i : ℕ} (h : mask.HasRoom i) (j : ℕ) :
    (mask.insert i).has j = (decide (j = i) || mask.has j) :=
  has_insert_of_within h.within j

theorem HasRoom.insert {mask : Mask} {i : ℕ} (h : mask.HasRoom i) (j : ℕ) :
    (mask.insert j).HasRoom i := by
  cases mask with
  | scalar bits => exact h
  | bytes data => simpa [Mask.insert, HasRoom] using h

/-! ### Enumerating -/

theorem lt_eight_of_testBit {byte : UInt8} {i : ℕ} (h : byte.toNat.testBit i = true) : i < 8 := by
  have hge := Nat.ge_two_pow_of_testBit h
  have hlt : 2 ^ i < 2 ^ 8 := Nat.lt_of_le_of_lt hge byte.toNat_lt
  exact (Nat.pow_lt_pow_iff_right (by norm_num)).1 hlt

theorem mem_ordinalsFrom {byte i : ℕ} {data : List UInt8} :
    i ∈ ordinalsFrom byte data ↔
      8 * byte ≤ i ∧ (data.getD (i / 8 - byte) 0).toNat.testBit (i % 8) = true := by
  induction data generalizing byte with
  | nil => simp [ordinalsFrom]
  | cons b bs ih =>
    simp only [ordinalsFrom, List.mem_append, List.mem_map, mem_setBits, ih]
    constructor
    · rintro (⟨j, hj, rfl⟩ | ⟨hle, hbit⟩)
      · -- a bit of the first byte
        have hj8 := lt_eight_of_testBit hj
        rw [show (8 * byte + j) / 8 - byte = 0 by omega, show (8 * byte + j) % 8 = j by omega]
        exact ⟨by omega, hj⟩
      · obtain ⟨d, hd⟩ : ∃ d, i / 8 - byte = d + 1 := ⟨i / 8 - byte - 1, by omega⟩
        rw [hd]
        rw [show i / 8 - (byte + 1) = d by omega] at hbit
        exact ⟨by omega, hbit⟩
    · rintro ⟨hle, hbit⟩
      by_cases hlt : i < 8 * byte + 8
      · rw [show i / 8 - byte = 0 by omega] at hbit
        exact Or.inl ⟨i % 8, hbit, by omega⟩
      · obtain ⟨d, hd⟩ : ∃ d, i / 8 - byte = d + 1 := ⟨i / 8 - byte - 1, by omega⟩
        rw [hd] at hbit
        refine Or.inr ⟨by omega, ?_⟩
        rw [show i / 8 - (byte + 1) = d by omega]
        exact hbit

/-- The enumerated ordinals are those in the mask. -/
@[simp] theorem mem_ordinals {mask : Mask} {i : ℕ} : i ∈ mask.ordinals ↔ mask.has i = true := by
  cases mask with
  | scalar bits => exact mem_setBits
  | bytes data =>
    rw [ordinals, mem_ordinalsFrom]
    simp [has]

theorem pairwise_ordinalsFrom (byte : ℕ) (data : List UInt8) :
    (ordinalsFrom byte data).Pairwise (· < ·) := by
  induction data generalizing byte with
  | nil => exact List.Pairwise.nil
  | cons b bs ih =>
    rw [ordinalsFrom, List.pairwise_append]
    refine ⟨?_, ih _, ?_⟩
    · rw [List.pairwise_map]
      exact (pairwise_setBits _).imp fun h => by omega
    · intro i hi j hj
      obtain ⟨k, hk, rfl⟩ := List.mem_map.1 hi
      have hk8 := lt_eight_of_testBit (mem_setBits.1 hk)
      have hj8 := (mem_ordinalsFrom.1 hj).1
      omega

/-- Lowest first. -/
theorem pairwise_ordinals (mask : Mask) : mask.ordinals.Pairwise (· < ·) := by
  cases mask with
  | scalar bits => exact pairwise_setBits bits
  | bytes data => exact pairwise_ordinalsFrom 0 data

/-- A mask has any ordinal at all if there is one that it holds. -/
theorem any_iff {mask : Mask} : mask.any = true ↔ ∃ i, mask.has i = true := by
  cases mask with
  | scalar bits =>
    simp only [any, bne_iff_ne, ne_eq, has]
    constructor
    · intro h
      exact Nat.exists_testBit_of_ne_zero h
    · rintro ⟨i, hi⟩ rfl
      simp at hi
  | bytes data =>
    simp only [any, List.any_eq_true, bne_iff_ne, ne_eq, has]
    constructor
    · rintro ⟨b, hb, hne⟩
      obtain ⟨k, hk, rfl⟩ := List.mem_iff_getElem.1 hb
      obtain ⟨j, hj⟩ := Nat.exists_testBit_of_ne_zero
        (fun h0 : data[k].toNat = 0 => hne (UInt8.eq_of_toBitVec_eq (BitVec.eq_of_toNat_eq h0)))
      have hj8 := lt_eight_of_testBit hj
      refine ⟨8 * k + j, ?_⟩
      rw [show (8 * k + j) / 8 = k by omega, show (8 * k + j) % 8 = j by omega,
        List.getD_eq_getElem _ _ hk]
      exact hj
    · rintro ⟨i, hi⟩
      by_cases hlt : i / 8 < data.length
      · rw [List.getD_eq_getElem _ _ hlt] at hi
        refine ⟨_, List.getElem_mem hlt, fun h0 => ?_⟩
        rw [h0] at hi
        simp at hi
      · -- there are no bits behind the last byte
        rw [List.getD_eq_default _ _ (by omega)] at hi
        simp at hi

/-! ### Form and length -/

/-- The mask of the same form and length that has no ordinals. -/
def blank : Mask → Mask
  | .scalar _ => .scalar 0
  | .bytes data => .bytes (List.replicate data.length 0)

theorem has_replicate_zero (n i : ℕ) : (Mask.bytes (List.replicate n 0)).has i = false := by
  by_cases hi : i / 8 < n
  · simp [has, List.getD_eq_getElem?_getD, hi]
  · simp [has, List.getD_eq_getElem?_getD, hi]

@[simp] theorem has_blank (mask : Mask) (i : ℕ) : mask.blank.has i = false := by
  cases mask with
  | scalar bits => simp [blank, has]
  | bytes data => exact has_replicate_zero _ i

@[simp] theorem blank_blank (mask : Mask) : mask.blank.blank = mask.blank := by
  cases mask with
  | scalar bits => rfl
  | bytes data => rw [blank, blank, List.length_replicate]

@[simp] theorem blank_insert (mask : Mask) (i : ℕ) : (mask.insert i).blank = mask.blank := by
  cases mask with
  | scalar bits => rfl
  | bytes data => simp [insert, blank]

/-- Bytes are equal when their bits are. -/
theorem byte_eq_of_testBit {a b : UInt8} (h : ∀ j < 8, a.toNat.testBit j = b.toNat.testBit j) :
    a = b := by
  refine UInt8.toNat_inj.1 (Nat.eq_of_testBit_eq fun j => ?_)
  by_cases hj : j < 8
  · exact h j hj
  · have hout : ∀ byte : UInt8, byte.toNat.testBit j = false := fun byte => by
      rw [← Bool.not_eq_true]
      exact fun hbit => hj (lt_eight_of_testBit hbit)
    rw [hout a, hout b]

/-- **A mask is determined by its form, its length and what it holds.** -/
theorem ext_of_blank {mask mask' : Mask} (hblank : mask.blank = mask'.blank)
    (hsame : ∀ i, mask.has i = mask'.has i) : mask = mask' := by
  cases mask with
  | scalar bits =>
    cases mask' with
    | scalar bits' => rw [Nat.eq_of_testBit_eq hsame]
    | bytes data' => cases hblank
  | bytes data =>
    cases mask' with
    | scalar bits' => cases hblank
    | bytes data' =>
      have hlength : data.length = data'.length := by simpa [blank] using hblank
      congr 1
      refine List.ext_getElem hlength fun k hk hk' => ?_
      refine byte_eq_of_testBit fun j hj => ?_
      -- the bit of the byte is that of one ordinal
      have hbit := hsame (8 * k + j)
      simp only [has, show (8 * k + j) / 8 = k by omega, show (8 * k + j) % 8 = j by omega,
        List.getD_eq_getElem _ _ hk, List.getD_eq_getElem _ _ hk'] at hbit
      exact hbit

end Mask

/-! ### Masks of a layout -/

namespace Layout

/-- Whether a mask has the form and the size of the layout, and no ordinal outside it. -/
def Fits (layout : Layout) (mask : Mask) : Prop :=
  match mask with
  | .scalar bits => layout.kind.isScalar = true ∧ bits < 2 ^ layout.count.toNat
  | .bytes data =>
    layout.kind.isScalar = false ∧ data.length = (layout.count.toNat + 7) / 8 ∧
      ∀ i, layout.count.toNat ≤ i → mask.has i = false

/-- The scalar kinds serve up to 64 ordinals. -/
theorem isScalar_kindFor (count : ℤ) : (kindFor count).isScalar = decide (count ≤ 64) := by
  unfold kindFor MaskKind.scalars
  simp only [List.find?_cons, List.find?_nil, MaskKind.width?, Option.getD_some]
  by_cases h8 : count ≤ 8
  · simp [h8, MaskKind.isScalar, MaskKind.width?, show count ≤ 64 by omega]
  by_cases h16 : count ≤ 16
  · simp [h8, h16, MaskKind.isScalar, MaskKind.width?, show count ≤ 64 by omega]
  by_cases h32 : count ≤ 32
  · simp [h8, h16, h32, MaskKind.isScalar, MaskKind.width?, show count ≤ 64 by omega]
  by_cases h64 : count ≤ 64
  · simp [h8, h16, h32, h64, MaskKind.isScalar, MaskKind.width?]
  · simp [h8, h16, h32, h64, MaskKind.isScalar, MaskKind.width?]

theorem size_of_not_isScalar {layout : Layout} (h : layout.kind.isScalar = false) :
    layout.size = (layout.count + 7) / 8 := by
  unfold MaskKind.isScalar at h
  unfold size
  cases hw : layout.kind.width? with
  | none => rfl
  | some w => simp [hw] at h

/-- A layout as it is allocated for a number of properties, with room for its masks in memory. -/
structure Allocated (layout : Layout) (count : ℕ) : Prop where
  count_eq : layout.count = count
  kind_eq : layout.kind = kindFor count
  roomy : (count + 7) / 8 < Mask.leastTooLarge

/-- A layout that serves a number of properties: a scalar has bits for up to 64, and bytes have as
many as there is room for in memory. -/
structure Serves (layout : Layout) (count : ℕ) : Prop where
  count_eq : layout.count = count
  narrow : layout.kind.isScalar = true → count ≤ 64
  roomy : layout.kind.isScalar = false → (count + 7) / 8 < Mask.leastTooLarge

variable {layout : Layout} {count : ℕ} {mask : Mask}

theorem Allocated.serves (h : layout.Allocated count) : layout.Serves count where
  count_eq := h.count_eq
  narrow hs := by
    rw [h.kind_eq, isScalar_kindFor, decide_eq_true_eq] at hs
    omega
  roomy _ := h.roomy

/-- What a new mask is. -/
theorem new_cases (hn : layout.new = .ok mask) :
    layout.kind.isScalar = true ∧ mask = .scalar 0 ∨
    layout.kind.isScalar = false ∧ (layout.count + 7) / 8 < Mask.leastTooLarge ∧
      mask = .bytes (List.replicate ((layout.count + 7) / 8).toNat 0) := by
  unfold new at hn
  by_cases hs : layout.kind.isScalar = true
  · rw [if_pos hs] at hn
    exact Or.inl ⟨hs, (Except.ok.inj hn).symm⟩
  · have hs' : layout.kind.isScalar = false := by simpa using hs
    rw [if_neg hs, size_of_not_isScalar hs'] at hn
    split at hn
    · cases hn
    · split at hn
      · cases hn
      · split at hn
        · cases hn
        · rename_i hlt
          exact Or.inr ⟨hs', by omega, (Except.ok.inj hn).symm⟩

theorem allocated_of_new (ha : allocate count = .ok layout) (hn : layout.new = .ok mask) :
    layout.Allocated count := by
  rw [allocate, if_neg (by omega)] at ha
  obtain rfl := Except.ok.inj ha
  refine ⟨rfl, rfl, ?_⟩
  rcases new_cases hn with ⟨hs, -⟩ | ⟨-, hlt, -⟩
  · rw [isScalar_kindFor, decide_eq_true_eq] at hs
    unfold Mask.leastTooLarge
    omega
  · dsimp only at hlt
    omega

/-- A layout has new masks, if there is room in memory. -/
theorem exists_new_of_roomy (hcount : layout.count = count)
    (hroom : (count + 7) / 8 < Mask.leastTooLarge) : ∃ mask, layout.new = .ok mask := by
  by_cases hs : layout.kind.isScalar = true
  · exact ⟨.scalar 0, if_pos hs⟩
  · have hsize := size_of_not_isScalar (by simpa using hs)
    rw [hcount] at hsize
    have hword : Position.isWord (((count : ℤ) + 7) / 8) = true := by
      unfold Mask.leastTooLarge at hroom
      simp only [Position.isWord, Bool.and_eq_true, decide_eq_true_eq]
      omega
    refine ⟨.bytes (List.replicate (((count : ℤ) + 7) / 8).toNat 0), ?_⟩
    rw [new, if_neg hs, hsize, hword, if_neg (by simp), if_neg (by omega), if_neg (by omega)]

/-- A layout that is allocated has new masks, if there is room in memory. -/
theorem exists_new (ha : allocate count = .ok layout) (hroom : (count + 7) / 8 < Mask.leastTooLarge) :
    ∃ mask, layout.new = .ok mask := by
  refine exists_new_of_roomy ?_ hroom
  rw [allocate, if_neg (by omega)] at ha
  rw [← Except.ok.inj ha]

/-- A new mask fits its layout. -/
theorem fits_new (hl : layout.Serves count) (hn : layout.new = .ok mask) :
    layout.Fits mask := by
  rcases new_cases hn with ⟨hs, rfl⟩ | ⟨hs, -, rfl⟩
  · exact ⟨hs, Nat.two_pow_pos _⟩
  · refine ⟨hs, ?_, fun i _ => Mask.has_replicate_zero _ i⟩
    rw [List.length_replicate, hl.count_eq]
    omega

/-- A new mask holds nothing. -/
theorem has_new (hn : layout.new = .ok mask) (i : ℕ) : mask.has i = false := by
  rcases new_cases hn with ⟨-, rfl⟩ | ⟨-, -, rfl⟩
  · simp [Mask.has]
  · exact Mask.has_replicate_zero _ i

/-- Nothing at or above the count is in a mask that fits. -/
theorem Fits.has_eq_false (h : layout.Fits mask) {i : ℕ} (hi : layout.count.toNat ≤ i) :
    mask.has i = false := by
  cases mask with
  | scalar bits =>
    exact Nat.testBit_lt_two_pow (h.2.trans_le (Nat.pow_le_pow_right (by norm_num) hi))
  | bytes data => exact h.2.2 i hi

/-- A mask that fits has a place for each ordinal below the count. -/
theorem Fits.hasRoom (h : layout.Fits mask) (hl : layout.Serves count) {i : ℕ}
    (hi : i < count) : mask.HasRoom i := by
  cases mask with
  | scalar bits =>
    have hnarrow := hl.narrow h.1
    show i < Mask.leastTooLarge
    unfold Mask.leastTooLarge
    omega
  | bytes data =>
    have hlength := h.2.1
    have hroomy := hl.roomy h.1
    rw [hl.count_eq, Int.toNat_natCast] at hlength
    exact ⟨by omega, by omega⟩

/-- Inserting an ordinal below the count keeps the fit. -/
theorem Fits.insert (h : layout.Fits mask) (hl : layout.Serves count) {i : ℕ}
    (hi : i < count) : layout.Fits (mask.insert i) := by
  have hcount : layout.count.toNat = count := by rw [hl.count_eq, Int.toNat_natCast]
  have houtside : ∀ j, layout.count.toNat ≤ j → (mask.insert i).has j = false := by
    intro j hj
    have hne : j ≠ i := by omega
    rw [Mask.has_insert (h.hasRoom hl hi), decide_eq_false hne, Bool.false_or, h.has_eq_false hj]
  cases mask with
  | scalar bits => exact ⟨h.1, Nat.lt_pow_two_of_testBit _ houtside⟩
  | bytes data => exact ⟨h.1, by simpa using h.2.1, houtside⟩

/-- **A mask that fits is determined by what it holds.** -/
theorem Fits.ext {mask' : Mask} (h : layout.Fits mask) (h' : layout.Fits mask')
    (hsame : ∀ i, mask.has i = mask'.has i) : mask = mask' := by
  refine Mask.ext_of_blank ?_ hsame
  cases mask with
  | scalar bits =>
    cases mask' with
    | scalar bits' => rfl
    | bytes data' => exact absurd h.1 (by rw [h'.1]; exact Bool.false_ne_true)
  | bytes data =>
    cases mask' with
    | scalar bits' => exact absurd h'.1 (by rw [h.1]; exact Bool.false_ne_true)
    | bytes data' => rw [Mask.blank, Mask.blank, h.2.1, h'.2.1]

end Layout

end TrackedEntity
