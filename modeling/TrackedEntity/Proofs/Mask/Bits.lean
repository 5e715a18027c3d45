import Mathlib.Data.Nat.Bitwise
import Mathlib.Algebra.Ring.Parity
import Mathlib.Tactic.IntervalCases
import Mathlib.Tactic.NormNum
import Mathlib.Tactic.Ring
import TrackedEntity.Mask.Basic

/-!
# The bits of a number, lowest first

`setBits n` lists the positions of the bits of `n` (`mem_setBits`), in strictly increasing order
(`pairwise_setBits`).  The argument writes a number other than zero as `2 ^ (k + 1) * q + 2 ^ k`,
where `k` is the position of its lowest bit (`exists_lowest`): `clearLowest` takes the second
summand away, and the two differ in the bit `k` only, which is what `log2` finds.
-/

namespace TrackedEntity.Mask

/-! ### The lowest bit -/

/-- A number other than zero, taken apart at its lowest bit. -/
theorem exists_lowest {n : ℕ} (h : n ≠ 0) : ∃ k q, n = 2 ^ (k + 1) * q + 2 ^ k := by
  induction n using Nat.strong_induction_on with
  | _ n ih =>
    rcases Nat.even_or_odd' n with ⟨m, rfl | rfl⟩
    · obtain ⟨k, q, hm⟩ := ih m (by omega) (by omega)
      refine ⟨k + 1, q, ?_⟩
      rw [hm]
      ring
    · exact ⟨0, m, by simp⟩

theorem testBit_lowest (k q i : ℕ) :
    (2 ^ (k + 1) * q + 2 ^ k).testBit i = (decide (i = k) || (2 ^ (k + 1) * q).testBit i) := by
  have hlt : 2 ^ k < 2 ^ (k + 1) := Nat.pow_lt_pow_right (by norm_num) (by omega)
  rw [Nat.testBit_two_pow_mul_add _ hlt, Nat.testBit_two_pow_mul, Nat.testBit_two_pow]
  by_cases hi : i < k + 1
  · rw [if_pos hi]
    simp [show ¬ k + 1 ≤ i by omega, eq_comm]
  · rw [if_neg hi]
    simp [show k + 1 ≤ i by omega, show i ≠ k by omega]

theorem clearLowest_lowest (k q : ℕ) :
    clearLowest (2 ^ (k + 1) * q + 2 ^ k) = 2 ^ (k + 1) * q := by
  have hlt : 2 ^ k < 2 ^ (k + 1) := Nat.pow_lt_pow_right (by norm_num) (by omega)
  -- below the lowest bit the predecessor has ones, and above it nothing changes
  have hpred : 2 ^ (k + 1) * q + 2 ^ k - 1 = 2 ^ (k + 1) * q + (2 ^ k - 1) := by
    have : 0 < 2 ^ k := Nat.two_pow_pos k
    omega
  apply Nat.eq_of_testBit_eq
  intro i
  rw [clearLowest, hpred, Nat.testBit_and, testBit_lowest,
    Nat.testBit_two_pow_mul_add _ (show 2 ^ k - 1 < 2 ^ (k + 1) by omega), Nat.testBit_two_pow_mul,
    Nat.testBit_two_pow_sub_one]
  by_cases hi : i < k + 1
  · rw [if_pos hi]
    simp only [show ¬ k + 1 ≤ i by omega, decide_false, Bool.false_and, Bool.or_false]
    by_cases hk : i = k
    · simp [hk]
    · simp [hk]
  · rw [if_neg hi]
    simp only [show k + 1 ≤ i by omega, decide_true, Bool.true_and, show i ≠ k by omega,
      decide_false, Bool.false_or, Bool.and_self]

theorem xor_clearLowest_lowest (k q : ℕ) :
    (2 ^ (k + 1) * q + 2 ^ k) ^^^ clearLowest (2 ^ (k + 1) * q + 2 ^ k) = 2 ^ k := by
  apply Nat.eq_of_testBit_eq
  intro i
  rw [clearLowest_lowest, Nat.testBit_xor, testBit_lowest, Nat.testBit_two_pow_mul,
    Nat.testBit_two_pow]
  by_cases hk : i = k
  · simp [hk]
  · simp [hk, Ne.symm hk]

theorem log2_lowest (k q : ℕ) :
    Nat.log2 ((2 ^ (k + 1) * q + 2 ^ k) ^^^ clearLowest (2 ^ (k + 1) * q + 2 ^ k)) = k := by
  rw [xor_clearLowest_lowest, Nat.log2_two_pow]

/-! ### All bits -/

@[simp] theorem setBits_zero : setBits 0 = [] := by rw [setBits, dif_pos rfl]

theorem setBits_lowest (k q : ℕ) :
    setBits (2 ^ (k + 1) * q + 2 ^ k) = k :: setBits (2 ^ (k + 1) * q) := by
  have hne : 2 ^ (k + 1) * q + 2 ^ k ≠ 0 := by
    have := Nat.two_pow_pos k
    omega
  rw [setBits, dif_neg hne, log2_lowest, clearLowest_lowest]

/-- The listed positions are those of the bits. -/
@[simp] theorem mem_setBits {n i : ℕ} : i ∈ setBits n ↔ n.testBit i = true := by
  induction n using Nat.strong_induction_on with
  | _ n ih =>
    by_cases hn : n = 0
    · rw [setBits, dif_pos hn, hn]
      simp
    · obtain ⟨k, q, rfl⟩ := exists_lowest hn
      have hlt : 2 ^ (k + 1) * q < 2 ^ (k + 1) * q + 2 ^ k := by
        have := Nat.two_pow_pos k
        omega
      rw [setBits_lowest, List.mem_cons, ih _ hlt, testBit_lowest, Bool.or_eq_true,
        decide_eq_true_eq]

/-- Lowest first. -/
theorem pairwise_setBits (n : ℕ) : (setBits n).Pairwise (· < ·) := by
  induction n using Nat.strong_induction_on with
  | _ n ih =>
    by_cases hn : n = 0
    · rw [setBits, dif_pos hn]
      exact List.Pairwise.nil
    · obtain ⟨k, q, rfl⟩ := exists_lowest hn
      have hlt : 2 ^ (k + 1) * q < 2 ^ (k + 1) * q + 2 ^ k := by
        have := Nat.two_pow_pos k
        omega
      rw [setBits_lowest, List.pairwise_cons]
      refine ⟨fun i hi => ?_, ih _ hlt⟩
      rw [mem_setBits, Nat.testBit_two_pow_mul, Bool.and_eq_true, decide_eq_true_eq] at hi
      omega

end TrackedEntity.Mask
