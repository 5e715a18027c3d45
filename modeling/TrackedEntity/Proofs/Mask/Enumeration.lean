import Mathlib.Data.Int.Bitwise
import Mathlib.Data.Nat.BitIndices
import TrackedEntity.Proofs.Mask.Sets
import TrackedEntity.Proofs.Outcome

/-!
# Enumerating a mask and marking it again

The ordinals that a mask lists are those that it has, and marking them on a blank mask of the same
form and length gives the mask back (`Mask.ordinals_mark_again`).  So the ordinals determine the
mask among those of its form and length.

A mask is enumerated in rounds (`Mask.Rounds`): as long as the number is not zero, its lowest bit is
isolated as what the number and its negative have in common, the position of that bit is listed, and
the bit is taken out again.  Every round takes out one bit, so the rounds come to an end, and what
they list is `Mask.ordinals` (`Mask.enumerates_iff`).

Marking needs room in memory.  Where there is none for the mask, marking may be refused; but what it
gives, if it gives anything, is the mask.
-/

namespace TrackedEntity.Mask

/-! ### Rounds -/

/-- The rounds in which the bits of a number are listed, lowest first, counted from an offset. -/
inductive Rounds (offset : ℕ) : ℕ → List ℕ → Prop
  | done : Rounds offset 0 []
  | round {n low : ℕ} {rest : List ℕ} (hn : n ≠ 0) (hlow : (low : ℤ) = Int.land n (-n))
      (h : Rounds offset (n ^^^ low) rest) :
        Rounds offset n ((offset + Nat.size low - 1) :: rest)

/-- The rounds for each byte in turn, from the byte of an index on. -/
inductive ByteRounds : ℕ → List UInt8 → List ℕ → Prop
  | done {index : ℕ} : ByteRounds index [] []
  | byte {index : ℕ} {b : UInt8} {bs : List UInt8} {own rest : List ℕ}
      (hown : Rounds (8 * index) b.toNat own) (hrest : ByteRounds (index + 1) bs rest) :
      ByteRounds index (b :: bs) (own ++ rest)

/-- Whether enumerating a mask comes to an end with a list. -/
def Enumerates : Mask → List ℕ → Prop
  | .scalar bits => Rounds 0 bits
  | .bytes data => ByteRounds 0 data

/-- What a number and its negative have in common is what taking out the lowest bit removes. -/
theorem land_neg (n : ℕ) : Int.land n (-n) = (n ^^^ clearLowest n : ℕ) := by
  cases n with
  | zero => rfl
  | succ n =>
    show ((Nat.ldiff (n + 1) n : ℕ) : ℤ) = _
    congr 1
    apply Nat.eq_of_testBit_eq
    intro i
    rw [Nat.testBit_ldiff, clearLowest, Nat.testBit_xor, Nat.testBit_and, Nat.add_sub_cancel]
    cases (n + 1).testBit i <;> cases n.testBit i <;> rfl

theorem size_xor_clearLowest {n : ℕ} (hn : n ≠ 0) :
    Nat.size (n ^^^ clearLowest n) = Nat.log2 (n ^^^ clearLowest n) + 1 := by
  obtain ⟨k, q, rfl⟩ := exists_lowest hn
  rw [log2_lowest, xor_clearLowest_lowest, Nat.size_pow]

/-- The rounds come to an end, and they list the positions of the bits. -/
theorem rounds_iff {offset n : ℕ} {listed : List ℕ} :
    Rounds offset n listed ↔ listed = (setBits n).map (offset + ·) := by
  constructor
  · intro h
    induction h with
    | done => rw [setBits_zero, List.map_nil]
    | @round n low rest hn hlow _ ih =>
      obtain rfl : low = n ^^^ clearLowest n := Int.ofNat_inj.1 (hlow.trans (land_neg n))
      rw [Nat.xor_xor_cancel_left] at ih
      rw [setBits, dif_neg hn, List.map_cons, ih, size_xor_clearLowest hn, ← Nat.add_assoc,
        Nat.add_sub_cancel]
  · rintro rfl
    induction n using Nat.strong_induction_on with
    | _ n ih =>
      by_cases hn : n = 0
      · rw [hn, setBits_zero, List.map_nil]
        exact .done
      · have hrest : Rounds offset (n ^^^ (n ^^^ clearLowest n))
            ((setBits (clearLowest n)).map (offset + ·)) := by
          rw [Nat.xor_xor_cancel_left]
          exact ih _ (clearLowest_lt hn)
        have hround := Rounds.round hn (land_neg n).symm hrest
        rw [size_xor_clearLowest hn, ← Nat.add_assoc, Nat.add_sub_cancel] at hround
        rw [setBits, dif_neg hn]
        exact hround

theorem byteRounds_iff {index : ℕ} {data : List UInt8} {listed : List ℕ} :
    ByteRounds index data listed ↔ listed = ordinalsFrom index data := by
  constructor
  · intro h
    induction h with
    | done => rfl
    | byte hown _ ih => rw [ordinalsFrom, ih, rounds_iff.1 hown]
  · rintro rfl
    induction data generalizing index with
    | nil => exact .done
    | cons b bs ih => exact .byte (rounds_iff.2 rfl) ih

/-- **Enumerating a mask comes to an end, with the ordinals of the mask.** -/
theorem enumerates_iff {mask : Mask} {listed : List ℕ} :
    mask.Enumerates listed ↔ listed = mask.ordinals := by
  cases mask with
  | scalar bits =>
    rw [Enumerates, rounds_iff, ordinals]
    simp
  | bytes data => exact byteRounds_iff

/-! ### The number of ordinals -/

/-- The bits of a mask: those of the number, or of each byte in turn. -/
def bits : Mask → List Bool
  | .scalar bits => bits.bits
  | .bytes data => data.flatMap (·.toNat.bits)

theorem setBits_eq_bitIndices (n : ℕ) : setBits n = n.bitIndices := by
  -- two strictly increasing lists of the same positions
  have hsorted := pairwise_setBits n
  have hsorted' : n.bitIndices.Pairwise (· < ·) := Nat.bitIndices_sorted.pairwise
  have hperm : (setBits n).Perm n.bitIndices := by
    rw [List.perm_ext_iff_of_nodup (hsorted.imp Nat.ne_of_lt) (hsorted'.imp Nat.ne_of_lt)]
    intro i
    rw [mem_setBits, Nat.mem_bitIndices]
  exact hperm.eq_of_pairwise' (hsorted.imp Nat.le_of_lt) (hsorted'.imp Nat.le_of_lt)

theorem length_setBits (n : ℕ) : (setBits n).length = n.bits.count true := by
  rw [setBits_eq_bitIndices]
  induction n using Nat.binaryRec' with
  | zero => simp
  | bit b n hb ih =>
    rw [Nat.bits_append_bit n b hb]
    cases b with
    | false => simp [ih]
    | true => simp [ih]

theorem length_ordinalsFrom (index : ℕ) (data : List UInt8) :
    (ordinalsFrom index data).length = (data.flatMap (·.toNat.bits)).count true := by
  induction data generalizing index with
  | nil => rfl
  | cons b bs ih =>
    rw [ordinalsFrom, List.length_append, List.length_map, length_setBits, ih, List.flatMap_cons,
      List.count_append]

theorem length_ordinals (mask : Mask) : mask.ordinals.length = mask.bits.count true := by
  cases mask with
  | scalar bits => exact length_setBits bits
  | bytes data => exact length_ordinalsFrom 0 data

/-! ### Marking on a blank mask -/

/-- Whether memory has room for the mask. -/
def InMemory : Mask → Prop
  | .scalar bits => bits.size ≤ leastTooLarge
  | .bytes data => data.length < leastTooLarge

variable {mask marked : Mask} {i : ℕ}

theorem within_of_has (h : mask.has i = true) : mask.Within i := by
  cases mask with
  | scalar bits => trivial
  | bytes data =>
    show i < 8 * data.length
    by_contra hi
    -- there are no bits behind the last byte
    rw [has, List.getD_eq_default _ _ (by omega)] at h
    simp at h

theorem InMemory.hasRoom_blank (h : mask.InMemory) (hi : mask.has i = true) :
    mask.blank.HasRoom i := by
  cases mask with
  | scalar bits =>
    have hlt : i < bits.size := Nat.lt_size.2 (Nat.ge_two_pow_of_testBit hi)
    exact Nat.lt_of_lt_of_le hlt h
  | bytes data =>
    rw [blank, HasRoom, List.length_replicate]
    exact ⟨within_of_has hi, h⟩

/-- If marking an ordinal gives a mask at all, the ordinal was inserted. -/
theorem eq_insert_of_mark (h : mask.mark (i : ℤ) = .ok marked) :
    mask.Within i ∧ marked = mask.insert i := by
  cases mask with
  | scalar bits =>
    refine ⟨trivial, ?_⟩
    simp only [mark] at h
    repeat' split at h
    · cases h
    · cases h
    · cases h
    · exact (Except.ok.inj h).symm
  | bytes data =>
    simp only [mark, byteAndBit_natCast] at h
    obtain ⟨j, hj, rfl⟩ := Outcome.map_eq_ok.1 h
    obtain ⟨rfl, hlt⟩ := eq_of_byteIndex hj
    exact ⟨show i < 8 * data.length by omega, rfl⟩

/-- If a mask answers at all whether it has an ordinal, it answers right. -/
theorem eq_has_of_isSet {b : Bool} (h : mask.isSet (i : ℤ) = .ok b) : b = mask.has i := by
  cases mask with
  | scalar bits =>
    rw [isSet, if_neg (by omega)] at h
    exact (Except.ok.inj h).symm
  | bytes data =>
    simp only [isSet, byteAndBit_natCast] at h
    obtain ⟨j, hj, rfl⟩ := Outcome.map_eq_ok.1 h
    obtain ⟨rfl, -⟩ := eq_of_byteIndex hj
    rfl

theorem InMemory.exists_isSet (h : mask.InMemory) (hi : mask.Within i) :
    ∃ b, mask.isSet (i : ℤ) = .ok b := by
  cases mask with
  | scalar bits => exact ⟨bits.testBit i, by simp [isSet]⟩
  | bytes data => exact (exists_isSet_bytes_iff h).2 hi

/-- What marking ordinals gives, if it gives anything: the form and the length stay, and exactly
these ordinals are new. -/
theorem markAll_spec {marks : List ℕ} (h : mask.markAll marks = .ok marked) :
    marked.blank = mask.blank ∧ ∀ j, marked.has j = (decide (j ∈ marks) || mask.has j) := by
  induction marks generalizing mask with
  | nil =>
    obtain rfl := Except.ok.inj h
    simp
  | cons i marks ih =>
    rw [markAll, List.foldlM_cons] at h
    obtain ⟨next, hnext, h⟩ := Outcome.bind_eq_ok.1 h
    obtain ⟨hwithin, rfl⟩ := eq_insert_of_mark hnext
    obtain ⟨hblank, hhas⟩ := ih h
    refine ⟨hblank.trans (blank_insert mask i), fun j => ?_⟩
    rw [hhas, has_insert_of_within hwithin, ← Bool.or_assoc, ← Bool.decide_or]
    simp only [List.mem_cons, or_comm]

theorem exists_markAll {marks : List ℕ} (h : ∀ i ∈ marks, mask.HasRoom i) :
    ∃ marked, mask.markAll marks = .ok marked := by
  induction marks generalizing mask with
  | nil => exact ⟨mask, rfl⟩
  | cons i marks ih =>
    rw [List.forall_mem_cons] at h
    obtain ⟨marked, hmarked⟩ := @ih (mask.insert i) fun j hj => (h.2 j hj).insert i
    exact ⟨marked, by rw [markAll, List.foldlM_cons, mark_eq h.1]; exact hmarked⟩

/-- Marking what a mask has on its blank mask gives nothing but the mask. -/
theorem eq_of_markAll_blank {marks : List ℕ} (hmarks : ∀ i, i ∈ marks ↔ i ∈ mask.ordinals)
    (h : mask.blank.markAll marks = .ok marked) : marked = mask := by
  obtain ⟨hblank, hhas⟩ := markAll_spec h
  refine ext_of_blank (hblank.trans (blank_blank mask)) fun j => ?_
  rw [hhas, has_blank, Bool.or_false, Bool.eq_iff_iff, decide_eq_true_eq, hmarks, mem_ordinals]

theorem InMemory.markAll_blank (h : mask.InMemory) {marks : List ℕ}
    (hmarks : ∀ i, i ∈ marks ↔ i ∈ mask.ordinals) : mask.blank.markAll marks = .ok mask := by
  have hroom : ∀ i ∈ marks, mask.blank.HasRoom i := fun i hi =>
    h.hasRoom_blank (mem_ordinals.1 ((hmarks i).1 hi))
  obtain ⟨marked, hmarked⟩ := exists_markAll hroom
  rw [hmarked, eq_of_markAll_blank hmarks hmarked]

/-- **Enumerating a mask and marking it again is the identity.**

The rounds for a mask come to an end with one list only.  It increases strictly, it has an ordinal
within the mask exactly if the mask does, it is as long as the mask has one bits, and it is empty
exactly if the mask has none.  Marking its ordinals, in any order, on the blank mask of the same
form and length gives the mask back, as long as memory has room for it, and never another one; and
no other mask of that form and length has the same ordinals. -/
theorem ordinals_mark_again (mask : Mask) :
    (∀ listed, mask.Enumerates listed ↔ listed = mask.ordinals) ∧
    mask.ordinals.Pairwise (· < ·) ∧
    (∀ j ∈ mask.ordinals, mask.Within j) ∧
    (∀ j : ℕ, mask.Within j →
      (mask.InMemory → ∃ b, mask.isSet (j : ℤ) = .ok b) ∧
      ∀ b, mask.isSet (j : ℤ) = .ok b → (b = true ↔ j ∈ mask.ordinals)) ∧
    mask.ordinals.length = mask.bits.count true ∧
    (mask.ordinals = [] ↔ mask.any = false) ∧
    (∀ marks : List ℕ, (∀ i, i ∈ marks ↔ i ∈ mask.ordinals) →
      (mask.InMemory → mask.blank.markAll marks = .ok mask) ∧
      ∀ marked, mask.blank.markAll marks = .ok marked → marked = mask) ∧
    ∀ mask' : Mask, mask'.blank = mask.blank → mask'.ordinals = mask.ordinals → mask' = mask := by
  refine ⟨fun listed => enumerates_iff, pairwise_ordinals mask,
    fun j hj => within_of_has (mem_ordinals.1 hj), fun j hj => ⟨fun h => h.exists_isSet hj, ?_⟩,
    length_ordinals mask, ?_, fun marks hmarks =>
      ⟨fun h => h.markAll_blank hmarks, fun marked => eq_of_markAll_blank hmarks⟩, ?_⟩
  · intro b hb
    rw [mem_ordinals, eq_has_of_isSet hb]
  · rw [← Bool.not_eq_true, any_iff, List.eq_nil_iff_forall_not_mem]
    simp only [mem_ordinals, not_exists]
  · intro mask' hblank hordinals
    refine ext_of_blank hblank fun j => ?_
    rw [Bool.eq_iff_iff, ← mem_ordinals, ← mem_ordinals, hordinals]

/-- A number and three bytes, marked again in another order; the byte in the middle is empty. -/
theorem ordinals_mark_again_shuffled :
    (scalar 82).ordinals = [1, 4, 6] ∧
    (scalar 0).markAll [6, 1, 4] = .ok (scalar 82) ∧
    (bytes [129, 0, 18]).ordinals = [0, 7, 17, 20] ∧
    (bytes [0, 0, 0]).markAll [20, 0, 17, 7] = .ok (bytes [129, 0, 18]) ∧
    (bytes [129, 0, 18]).bits.count true = 4 := by
  obtain ⟨-, -, -, -, -, -, hword, -⟩ := ordinals_mark_again (scalar 82)
  obtain ⟨-, -, -, -, hcount, -, hbytes, -⟩ := ordinals_mark_again (bytes [129, 0, 18])
  have hordinals : (scalar 82).ordinals = [1, 4, 6] := by cbv
  have hordinals' : (bytes [129, 0, 18]).ordinals = [0, 7, 17, 20] := by cbv
  rw [hordinals] at hword
  rw [hordinals'] at hcount hbytes
  have hroom : (scalar 82).InMemory := show Nat.size 82 ≤ leastTooLarge by decide
  have hroom' : (bytes [129, 0, 18]).InMemory := show 3 < leastTooLarge by decide
  exact ⟨hordinals, (hword [6, 1, 4] (by grind)).1 hroom, hordinals',
    (hbytes [20, 0, 17, 7] (by grind)).1 hroom', hcount.symm⟩

end TrackedEntity.Mask
