import Mathlib.Data.Rat.Cast.Order
import Mathlib.Algebra.Order.Field.Power
import Mathlib.Tactic.Linarith
import Mathlib.Tactic.NormNum
import Mathlib.Tactic.Positivity
import Mathlib.Tactic.Ring
import Mathlib.Tactic.FieldSimp
import TrackedEntity.Number.Rounding

/-!
# Rounding keeps the order

The floating point number nearest to a fraction grows with the fraction, and a number of at most
fifty-three binary digits is its own nearest.  Both are said of `Binary64.RoundsTo`, which relates a
value to the exponent and the significand that it is rounded to: larger values have larger patterns
(`Binary64.RoundsTo.patternOf_mono`) and stand for larger values (`Binary64.RoundsTo.value_mono`).

The exponent of a fraction is chosen so that the significand has fifty-three digits
(`Binary64.exponentFor_spec`).  Among fractions with one exponent the rounded significands are in
order (`roundHalfEven_mono`), and one that is rounded up as far as it can be still does not go
beyond the next exponent (`Binary64.RoundsTo.order`).
-/

namespace TrackedEntity

/-! ### Rounded quotients -/

/-- Larger fractions do not round to smaller integers. -/
theorem roundHalfEven_mono {a b c d : ℕ} (hb : 0 < b) (hd : 0 < d)
    (h : (a : ℚ) / b ≤ (c : ℚ) / d) : roundHalfEven a b ≤ roundHalfEven c d := by
  have hcross : a * d ≤ c * b := by
    rw [div_le_div_iff₀ (by positivity) (by positivity)] at h
    exact_mod_cast h
  have ha := Nat.div_add_mod a b
  have hc := Nat.div_add_mod c d
  have hra := Nat.mod_lt a hb
  have hrc := Nat.mod_lt c hd
  have hfloor : a / b ≤ c / d := by
    rw [Nat.le_div_iff_mul_le hd]
    refine Nat.le_of_mul_le_mul_right (c := b) ?_ hb
    calc a / b * d * b = b * (a / b) * d := by ring
      _ ≤ a * d := Nat.mul_le_mul_right d (by omega)
      _ ≤ c * b := hcross
  unfold roundHalfEven
  dsimp only
  rcases hfloor.lt_or_eq with hlt | heq
  · split <;> split <;> omega
  · -- with one integer part the remainders are in order
    have hrest : a % b * d ≤ c % d * b := by
      have hsplit : (b * (c / d)) * d + a % b * d ≤ (d * (c / d)) * b + c % d * b := by
        rw [← Nat.add_mul, ← Nat.add_mul, ← heq, ha, heq, hc]
        exact hcross
      have hsame : (b * (c / d)) * d = (d * (c / d)) * b := by ring
      omega
    rw [heq]
    split
    · next hup =>
      have hhalf : b ≤ 2 * (a % b) := by omega
      have hhalf' : d ≤ 2 * (c % d) := by
        refine Nat.le_of_mul_le_mul_right (c := b) ?_ hb
        calc d * b = b * d := Nat.mul_comm d b
          _ ≤ 2 * (a % b) * d := Nat.mul_le_mul_right d hhalf
          _ = 2 * (a % b * d) := Nat.mul_assoc _ _ _
          _ ≤ 2 * (c % d * b) := Nat.mul_le_mul_left 2 hrest
          _ = 2 * (c % d) * b := (Nat.mul_assoc _ _ _).symm
      have hup' : d < 2 * (c % d) ∨ 2 * (c % d) = d ∧ c / d % 2 = 1 := by
        by_cases hmore : d < 2 * (c % d)
        · exact .inl hmore
        · refine .inr ⟨by omega, ?_⟩
          rcases hup with hup | hup
          · -- then the other remainder would be more than half as well
            exfalso
            have hstrict : b * d < 2 * (a % b) * d := Nat.mul_lt_mul_of_pos_right hup hd
            have hle : 2 * (a % b) * d ≤ 2 * (c % d) * b := by
              rw [Nat.mul_assoc, Nat.mul_assoc]
              exact Nat.mul_le_mul_left 2 hrest
            have heven : 2 * (c % d) * b = d * b := by rw [show 2 * (c % d) = d by omega]
            rw [heven, Nat.mul_comm d b] at hle
            omega
          · exact hup.2
      rw [if_pos hup']
    · split <;> omega

theorem roundHalfEven_of_eq {a b k : ℕ} (hb : 0 < b) (h : (a : ℚ) / b = k) :
    roundHalfEven a b = k := by
  have ha : a = b * k := by
    rw [div_eq_iff (by positivity)] at h
    rw [Nat.mul_comm]
    exact_mod_cast h
  subst ha
  unfold roundHalfEven
  rw [Nat.mul_div_cancel_left _ hb, Nat.mul_mod_right]
  dsimp only
  rw [if_neg (by omega)]

theorem roundHalfEven_le {a b k : ℕ} (hb : 0 < b) (h : (a : ℚ) / b ≤ k) :
    roundHalfEven a b ≤ k := by
  have hone : (k : ℚ) / (1 : ℕ) = k := by simp
  rw [← roundHalfEven_of_eq Nat.one_pos hone]
  exact roundHalfEven_mono hb Nat.one_pos (by rwa [hone])

theorem le_roundHalfEven {a b k : ℕ} (hb : 0 < b) (h : (k : ℚ) ≤ (a : ℚ) / b) :
    k ≤ roundHalfEven a b := by
  have hone : (k : ℚ) / (1 : ℕ) = k := by simp
  conv_lhs => rw [← roundHalfEven_of_eq Nat.one_pos hone]
  exact roundHalfEven_mono Nat.one_pos hb (by rwa [hone])

theorem twoPow_eq (n : ℕ) : twoPow n = 2 ^ n := rfl

/-- More digits are a factor. -/
theorem two_zpow_add (q : ℤ) (k : ℕ) : (2 : ℚ) ^ (q + k) = (2 ^ k : ℕ) * 2 ^ q := by
  rw [add_comm, zpow_add₀ (by norm_num), zpow_natCast, Nat.cast_pow, Nat.cast_ofNat]

/-! ### Exact numbers in order -/

namespace Exact

theorem cast_align (m e : ℤ) {target : ℤ} (h : target ≤ e) :
    ((align m e target : ℤ) : ℚ) = m * 2 ^ e / 2 ^ target := by
  have hpow : (2 : ℚ) ^ e = 2 ^ (e - target).toNat * 2 ^ target := by
    rw [← zpow_natCast, Int.toNat_of_nonneg (by omega), ← zpow_add₀ (by norm_num)]
    congr 1
    omega
  rw [align, twoPow_eq, hpow]
  push_cast
  field_simp

theorem less_finite_iff {m e m' e' : ℤ} :
    less (.finite m e) (.finite m' e') = true ↔ (m : ℚ) * 2 ^ e < m' * 2 ^ e' := by
  have hpos : (0 : ℚ) < 2 ^ min e e' := by positivity
  rw [less, decide_eq_true_eq, ← Int.cast_lt (R := ℚ), cast_align _ _ (min_le_left e e'),
    cast_align _ _ (min_le_right e e'), div_lt_div_iff_of_pos_right hpos]

theorem equals_finite_iff {m e m' e' : ℤ} :
    equals (.finite m e) (.finite m' e') = true ↔ (m : ℚ) * 2 ^ e = m' * 2 ^ e' := by
  have hpos : (2 : ℚ) ^ min e e' ≠ 0 := by positivity
  rw [equals, beq_iff_eq, ← Int.cast_inj (α := ℚ), cast_align _ _ (min_le_left e e'),
    cast_align _ _ (min_le_right e e'), div_left_inj' hpos]

theorem atMost_finite_iff {m e m' e' : ℤ} :
    atMost (.finite m e) (.finite m' e') = true ↔ (m : ℚ) * 2 ^ e ≤ m' * 2 ^ e' := by
  rw [atMost, Bool.or_eq_true, less_finite_iff, equals_finite_iff, le_iff_lt_or_eq]

end Exact

namespace Binary64

/-! ### Patterns -/

/-- The pattern of `s · 2 ^ q`, for a significand `s` of fifty-three digits, or of fewer if `q` is
the smallest exponent. -/
def patternOf (q : ℤ) (s : ℕ) : ℕ := (q + 1074).toNat * twoPow 52 + s

/-- A pattern below that of infinity stands for its value, also if the significand carries. -/
theorem exact_patternOf {q : ℤ} {s : ℕ} (hq : -1074 ≤ q) (hs : s ≤ 2 ^ 53)
    (hfull : q = -1074 ∨ 2 ^ 52 ≤ s) (h : patternOf q s < infinityPattern) :
    ∃ m e : ℤ, (⟨UInt64.ofNat (patternOf q s)⟩ : Binary64).exact = .finite m e ∧
      (m : ℚ) * 2 ^ e = s * 2 ^ q := by
  have hinfinity : infinityPattern = 2047 * 2 ^ 52 := rfl
  have hpattern : patternOf q s = (q + 1074).toNat * 2 ^ 52 + s := rfl
  generalize patternOf q s = p at h hpattern ⊢
  generalize hx : (⟨UInt64.ofNat p⟩ : Binary64) = x
  have hbits : x.bits.toNat = p := by
    rw [← hx, UInt64.toNat_ofNat']
    omega
  have hfield : x.exponentField = p / 2 ^ 52 := by
    rw [exponentField, hbits, twoPow_eq]
    omega
  have hfraction : x.fraction = p % 2 ^ 52 := by
    rw [fraction, hbits, twoPow_eq]
  have hpositive : x.isNegative = false := by
    rw [isNegative, hbits, twoPow_eq, decide_eq_false_iff_not]
    omega
  have hfinite : (x.exponentField == 2047) = false := by
    rw [hfield, beq_eq_false_iff_ne]
    omega
  have hexact : x.exact = .finite x.significand x.scale := by
    rw [exact, isNaN, isInfinite, hfinite, hpositive]
    rfl
  refine ⟨_, _, hexact, ?_⟩
  rcases lt_or_ge s (2 ^ 52) with hsmall | hlarge
  · -- the exponent is the smallest one
    obtain rfl : q = -1074 := by omega
    have hsignificand : x.significand = s := by
      rw [significand, hfield, hfraction, if_pos (by omega)]
      omega
    have hscale : x.scale = -1074 := by
      rw [scale, hfield, if_pos (by omega)]
    rw [hsignificand, hscale, Int.cast_natCast]
  rcases hs.lt_or_eq with hnormal | rfl
  · have hsignificand : x.significand = s := by
      rw [significand, hfield, hfraction, if_neg (by omega), twoPow_eq]
      omega
    have hscale : x.scale = q := by
      rw [scale, hfield, if_neg (by omega)]
      omega
    rw [hsignificand, hscale, Int.cast_natCast]
  · have hsignificand : x.significand = 2 ^ 52 := by
      rw [significand, hfield, hfraction, if_neg (by omega), twoPow_eq]
      omega
    have hscale : x.scale = q + 1 := by
      rw [scale, hfield, if_neg (by omega)]
      omega
    rw [hsignificand, hscale, zpow_add_one₀ (by norm_num)]
    push_cast
    ring

theorem exact_infinity :
    (⟨UInt64.ofNat infinityPattern⟩ : Binary64).exact = .infinite false := by
  decide +kernel

/-! ### Exponents of fractions -/

variable {num den : ℕ}

theorem log2_bounds (hnum : 0 < num) :
    (2 : ℚ) ^ (Nat.log2 num : ℤ) ≤ num ∧ (num : ℚ) < 2 ^ ((Nat.log2 num : ℤ) + 1) := by
  have hlow : 2 ^ Nat.log2 num ≤ num := Nat.log2_self_le (by omega)
  have hhigh : num < 2 ^ (Nat.log2 num + 1) := Nat.lt_log2_self
  constructor
  · rw [zpow_natCast]
    exact_mod_cast hlow
  · rw [← Nat.cast_succ, zpow_natCast]
    exact_mod_cast hhigh

/-- A fraction lies between two powers of two that its logarithms tell. -/
theorem between_log2 (hnum : 0 < num) (hden : 0 < den) :
    (2 : ℚ) ^ ((Nat.log2 num : ℤ) - Nat.log2 den - 1) ≤ num / den ∧
      (num / den : ℚ) < 2 ^ ((Nat.log2 num : ℤ) - Nat.log2 den + 1) := by
  obtain ⟨hnumLow, hnumHigh⟩ := log2_bounds hnum
  obtain ⟨hdenLow, hdenHigh⟩ := log2_bounds hden
  have hdenPos : (0 : ℚ) < den := by exact_mod_cast hden
  constructor
  · rw [le_div_iff₀ hdenPos]
    calc (2 : ℚ) ^ ((Nat.log2 num : ℤ) - Nat.log2 den - 1) * den
        ≤ 2 ^ ((Nat.log2 num : ℤ) - Nat.log2 den - 1) * 2 ^ ((Nat.log2 den : ℤ) + 1) :=
          mul_le_mul_of_nonneg_left hdenHigh.le (by positivity)
      _ = 2 ^ (Nat.log2 num : ℤ) := by
          rw [← zpow_add₀ (by norm_num)]
          congr 1
          ring
      _ ≤ num := hnumLow
  · rw [div_lt_iff₀ hdenPos]
    calc (num : ℚ) < 2 ^ ((Nat.log2 num : ℤ) + 1) := hnumHigh
      _ = 2 ^ ((Nat.log2 num : ℤ) - Nat.log2 den + 1) * 2 ^ (Nat.log2 den : ℤ) := by
          rw [← zpow_add₀ (by norm_num)]
          congr 1
          ring
      _ ≤ 2 ^ ((Nat.log2 num : ℤ) - Nat.log2 den + 1) * den :=
          mul_le_mul_of_nonneg_left hdenLow (by positivity)

/-- Comparing a fraction with a power of two, written with numbers only. -/
theorem full_iff (hden : 0 < den) (guess : ℤ) :
    (if 0 ≤ guess then decide (den * twoPow guess.toNat * twoPow 52 ≤ num)
      else decide (den * twoPow 52 ≤ num * twoPow (-guess).toNat)) = true ↔
      (2 : ℚ) ^ (guess + 52) ≤ num / den := by
  have hdenPos : (0 : ℚ) < den := by exact_mod_cast hden
  have hsplit : (2 : ℚ) ^ (guess + 52) = (2 ^ 52 : ℕ) * 2 ^ guess := two_zpow_add guess 52
  rw [le_div_iff₀ hdenPos, hsplit]
  by_cases hguess : 0 ≤ guess
  · obtain ⟨g, rfl⟩ := Int.eq_ofNat_of_zero_le hguess
    have hcast : (2 ^ 52 : ℕ) * (2 : ℚ) ^ (g : ℤ) * den = (den * 2 ^ g * 2 ^ 52 : ℕ) := by
      rw [zpow_natCast]
      push_cast
      ring
    rw [if_pos hguess, decide_eq_true_eq, hcast, Nat.cast_le, Int.toNat_natCast, twoPow_eq,
      twoPow_eq]
  · obtain ⟨g, hg⟩ := Int.eq_ofNat_of_zero_le (a := -guess) (by omega)
    obtain rfl : guess = -(g : ℤ) := by omega
    have hpow : (0 : ℚ) < 2 ^ g := by positivity
    have hcast : (2 ^ 52 : ℕ) * (2 : ℚ) ^ (-(g : ℤ)) * den = (den * 2 ^ 52 : ℕ) / 2 ^ g := by
      rw [zpow_neg, zpow_natCast]
      push_cast
      field_simp
    rw [if_neg hguess, decide_eq_true_eq, hcast, div_le_iff₀ hpow, neg_neg, Int.toNat_natCast,
      twoPow_eq, twoPow_eq]
    exact_mod_cast Iff.rfl

/-- The exponent of a fraction: its quotient has at most fifty-three digits, and no fewer unless the
exponent is the smallest one. -/
theorem exponentFor_spec (hnum : 0 < num) (hden : 0 < den) :
    -1074 ≤ exponentFor num den ∧ (num / den : ℚ) < 2 ^ (exponentFor num den + 53) ∧
      (exponentFor num den = -1074 ∨ (2 : ℚ) ^ (exponentFor num den + 52) ≤ num / den) := by
  obtain ⟨hlow, hhigh⟩ := between_log2 hnum hden
  have hguess := @full_iff num den hden ((Nat.log2 num : ℤ) - Nat.log2 den - 52)
  -- the guess, or one less, has fifty-three digits
  obtain ⟨q, hq, hqLow, hqHigh⟩ : ∃ q, exponentFor num den = max (-1074) q ∧
      (2 : ℚ) ^ (q + 52) ≤ num / den ∧ (num / den : ℚ) < 2 ^ (q + 53) := by
    by_cases hfull : (2 : ℚ) ^ ((Nat.log2 num : ℤ) - Nat.log2 den - 52 + 52) ≤ num / den
    · refine ⟨_, congrArg (max _) (if_pos (hguess.2 hfull)), hfull, ?_⟩
      exact hhigh.trans_le (zpow_le_zpow_right₀ (by norm_num) (by omega))
    · refine ⟨_, congrArg (max _) (if_neg (mt hguess.1 hfull)), ?_, ?_⟩
      · exact (zpow_le_zpow_right₀ (by norm_num) (by omega)).trans hlow
      · exact (not_le.1 hfull).trans_le (zpow_le_zpow_right₀ (by norm_num) (by omega))
  rw [hq]
  refine ⟨le_max_left _ _, ?_, ?_⟩
  · exact hqHigh.trans_le (zpow_le_zpow_right₀ (by norm_num) (by omega))
  · rcases le_total q (-1074) with hsmall | hlarge
    · exact .inl (max_eq_left hsmall)
    · rw [max_eq_right hlarge]
      exact .inr hqLow

/-! ### Rounded fractions -/

/-- Whether a value that is not negative rounds to `s · 2 ^ q`. -/
structure RoundsTo (v : ℚ) (q : ℤ) (s : ℕ) : Prop where
  least : -1074 ≤ q
  below : v < 2 ^ (q + 53)
  full : q = -1074 ∨ 2 ^ (q + 52) ≤ v
  quotient : ∃ a b : ℕ, 0 < b ∧ (a / b : ℚ) = v / 2 ^ q ∧ roundHalfEven a b = s

theorem exists_significandAt (num : ℕ) (hden : 0 < den) (q : ℤ) :
    ∃ a b : ℕ, 0 < b ∧ (a / b : ℚ) = num / den / 2 ^ q ∧
      roundHalfEven a b = significandAt num den q := by
  rw [significandAt]
  by_cases hq : 0 ≤ q
  · obtain ⟨n, rfl⟩ := Int.eq_ofNat_of_zero_le hq
    refine ⟨num, den * 2 ^ n, by positivity, ?_, ?_⟩
    · push_cast
      rw [div_div, zpow_natCast]
    · rw [if_pos hq, Int.toNat_natCast, twoPow_eq]
  · obtain ⟨n, hn⟩ := Int.eq_ofNat_of_zero_le (a := -q) (by omega)
    obtain rfl : q = -(n : ℤ) := by omega
    refine ⟨num * 2 ^ n, den, hden, ?_, ?_⟩
    · push_cast
      rw [zpow_neg, zpow_natCast, div_inv_eq_mul, div_mul_eq_mul_div]
    · rw [if_neg hq, neg_neg, Int.toNat_natCast, twoPow_eq]

/-- The nearest number has the pattern of what the fraction rounds to, or is infinity. -/
theorem exists_nearest (num : ℕ) (hden : 0 < den) :
    ∃ q s, RoundsTo (num / den) q s ∧
      nearest num den = ⟨UInt64.ofNat (min (patternOf q s) infinityPattern)⟩ := by
  rcases Nat.eq_zero_or_pos num with rfl | hnum
  · refine ⟨-1074, 0, ⟨le_rfl, ?_, .inl rfl, 0, 1, Nat.one_pos, by simp, rfl⟩, rfl⟩
    rw [Nat.cast_zero, zero_div]
    positivity
  · obtain ⟨hleast, hbelow, hfull⟩ := exponentFor_spec hnum hden
    refine ⟨exponentFor num den, significandAt num den (exponentFor num den),
      ⟨hleast, hbelow, hfull, exists_significandAt num hden _⟩, ?_⟩
    rw [nearest, if_neg (by omega)]
    rfl

namespace RoundsTo

variable {v v' : ℚ} {q q' : ℤ} {s s' : ℕ}

theorem significand_le (h : RoundsTo v q s) : s ≤ 2 ^ 53 := by
  obtain ⟨a, b, hb, heq, rfl⟩ := h.quotient
  refine roundHalfEven_le hb ?_
  rw [heq, div_le_iff₀ (by positivity)]
  calc v ≤ 2 ^ (q + 53) := h.below.le
    _ = (2 ^ 53 : ℕ) * 2 ^ q := two_zpow_add q 53

theorem le_significand (h : RoundsTo v q s) (hlarge : (2 : ℚ) ^ (q + 52) ≤ v) : 2 ^ 52 ≤ s := by
  obtain ⟨a, b, hb, heq, rfl⟩ := h.quotient
  refine le_roundHalfEven hb ?_
  rw [heq, le_div_iff₀ (by positivity)]
  calc ((2 ^ 52 : ℕ) : ℚ) * 2 ^ q = 2 ^ (q + 52) := (two_zpow_add q 52).symm
    _ ≤ v := hlarge

theorem normal (h : RoundsTo v q s) : q = -1074 ∨ 2 ^ 52 ≤ s :=
  h.full.imp id h.le_significand

/-- Larger values have no smaller exponent, and with one exponent no smaller significand. -/
theorem order (h : RoundsTo v q s) (h' : RoundsTo v' q' s') (hle : v ≤ v') :
    q = q' ∧ s ≤ s' ∨ q < q' ∧ 2 ^ 52 ≤ s' := by
  rcases lt_trichotomy q q' with hlt | rfl | hgt
  · have hfull : q' ≠ -1074 := by
      have := h.least
      omega
    exact .inr ⟨hlt, h'.normal.resolve_left hfull⟩
  · obtain ⟨a, b, hb, heq, rfl⟩ := h.quotient
    obtain ⟨c, d, hd, heq', rfl⟩ := h'.quotient
    refine .inl ⟨rfl, roundHalfEven_mono hb hd ?_⟩
    rw [heq, heq']
    exact div_le_div_of_nonneg_right hle (by positivity)
  · exfalso
    have hfull : (2 : ℚ) ^ (q + 52) ≤ v := h.full.resolve_left (by
      have := h'.least
      omega)
    have hpow : (2 : ℚ) ^ (q' + 53) ≤ 2 ^ (q + 52) :=
      zpow_le_zpow_right₀ (by norm_num) (by omega)
    exact absurd (hfull.trans hle) (not_le.2 (h'.below.trans_le hpow))

/-- **Rounding keeps the order of patterns.** -/
theorem patternOf_mono (h : RoundsTo v q s) (h' : RoundsTo v' q' s') (hle : v ≤ v') :
    patternOf q s ≤ patternOf q' s' := by
  have hs := h.significand_le
  have hleast := h.least
  rw [patternOf, patternOf, twoPow_eq]
  rcases h.order h' hle with ⟨rfl, hle⟩ | ⟨hlt, hs'⟩ <;> omega

/-- **Rounding keeps the order of values.** -/
theorem value_mono (h : RoundsTo v q s) (h' : RoundsTo v' q' s') (hle : v ≤ v') :
    (s * 2 ^ q : ℚ) ≤ s' * 2 ^ q' := by
  rcases h.order h' hle with ⟨rfl, hle⟩ | ⟨hlt, hs'⟩
  · exact mul_le_mul_of_nonneg_right (by exact_mod_cast hle) (by positivity)
  · calc (s * 2 ^ q : ℚ) ≤ (2 ^ 53 : ℕ) * 2 ^ q :=
          mul_le_mul_of_nonneg_right (by exact_mod_cast h.significand_le) (by positivity)
      _ = 2 ^ 52 * 2 ^ (q + 1) := by
          rw [zpow_add_one₀ (by norm_num)]
          push_cast
          ring
      _ ≤ 2 ^ 52 * 2 ^ q' :=
          mul_le_mul_of_nonneg_left (zpow_le_zpow_right₀ (by norm_num) (by omega)) (by positivity)
      _ ≤ s' * 2 ^ q' :=
          mul_le_mul_of_nonneg_right (by exact_mod_cast hs') (by positivity)

/-- **A value of at most fifty-three digits is not changed by rounding.** -/
theorem value_eq (h : RoundsTo v q s) {t : ℕ} {e : ℤ} (ht : t ≤ 2 ^ 53) (he : -1074 ≤ e)
    (hv : v = t * 2 ^ e) : (s * 2 ^ q : ℚ) = v := by
  -- it is a multiple of the power of its exponent
  obtain ⟨k, hk⟩ : ∃ k : ℕ, v / 2 ^ q = k := by
    rcases le_or_gt q e with hle | hgt
    · obtain ⟨n, hn⟩ := Int.eq_ofNat_of_zero_le (a := e - q) (by omega)
      refine ⟨t * 2 ^ n, ?_⟩
      rw [div_eq_iff (by positivity), hv, show e = n + q by omega, zpow_add₀ (by norm_num),
        zpow_natCast]
      push_cast
      ring
    · have hfull : (2 : ℚ) ^ (q + 52) ≤ v := h.full.resolve_left (by omega)
      have hpow : (2 : ℚ) ^ (e + 53) = (2 ^ 53 : ℕ) * 2 ^ e := two_zpow_add e 53
      have hle : v ≤ 2 ^ (e + 53) := by
        rw [hv, hpow]
        exact mul_le_mul_of_nonneg_right (by exact_mod_cast ht) (by positivity)
      have hexponents : q + 52 ≤ e + 53 := by
        rw [← zpow_le_zpow_iff_right₀ (one_lt_two (α := ℚ))]
        exact hfull.trans hle
      obtain rfl : q = e + 1 := by omega
      refine ⟨2 ^ 52, ?_⟩
      have hle' : v ≤ 2 ^ (e + 1 + 52) := by rwa [show e + 1 + 52 = e + 53 by ring]
      have heq : v = 2 ^ (e + 1 + 52) := le_antisymm hle' hfull
      rw [heq, div_eq_iff (by positivity)]
      exact two_zpow_add (e + 1) 52
  obtain ⟨a, b, hb, heq, rfl⟩ := h.quotient
  rw [roundHalfEven_of_eq hb (heq.trans hk), ← hk]
  exact div_mul_cancel₀ v (by positivity)

end RoundsTo

/-! ### Products -/

/-- A number that is not negative, times a power of two, is the nearest of a fraction. -/
theorem exists_ofDyadic (k : ℕ) (e : ℤ) :
    ∃ q s, RoundsTo (k * 2 ^ e) q s ∧
      ofDyadic k e = ⟨UInt64.ofNat (min (patternOf q s) infinityPattern)⟩ := by
  rw [ofDyadic, if_neg (by omega)]
  by_cases he : 0 ≤ e
  · obtain ⟨n, rfl⟩ := Int.eq_ofNat_of_zero_le he
    obtain ⟨q, s, hrounds, heq⟩ := exists_nearest (k * 2 ^ n) Nat.one_pos
    refine ⟨q, s, ?_, by rw [if_pos he, Int.natAbs_natCast, Int.toNat_natCast, twoPow_eq, heq]⟩
    convert hrounds using 1
    rw [zpow_natCast]
    push_cast
    ring
  · obtain ⟨n, hn⟩ := Int.eq_ofNat_of_zero_le (a := -e) (by omega)
    obtain rfl : e = -(n : ℤ) := by omega
    obtain ⟨q, s, hrounds, heq⟩ := @exists_nearest (2 ^ n) k (by positivity)
    refine ⟨q, s, ?_, by
      rw [if_neg he, Int.natAbs_natCast, neg_neg, Int.toNat_natCast, twoPow_eq, heq]⟩
    convert hrounds using 1
    rw [zpow_neg, zpow_natCast, div_eq_mul_inv]
    push_cast
    rfl

/-- The product of a finite number that is not negative is rounded once, and compared exactly. -/
theorem exists_timesNat {x : Binary64} {m : ℕ} {e : ℤ} (hx : x.exact = .finite m e) (n : ℕ) :
    ∃ q s, RoundsTo (m * n * 2 ^ e) q s ∧
      ∀ k : ℕ, (x.timesNat n).less (.ofInt k) = true ↔
        patternOf q s < infinityPattern ∧ (s * 2 ^ q : ℚ) < k := by
  obtain ⟨q, s, hrounds, hproduct⟩ := exists_ofDyadic (m * n) e
  rw [Nat.cast_mul] at hrounds
  have htimes : x.timesNat n = (ofDyadic (m * n : ℕ) e).exact := by
    rw [timesNat, hx, Nat.cast_mul]
  refine ⟨q, s, hrounds, fun k => ?_⟩
  rw [htimes, hproduct]
  by_cases hfinite : patternOf q s < infinityPattern
  · obtain ⟨m', e', hexact, hvalue⟩ :=
      exact_patternOf hrounds.least hrounds.significand_le hrounds.normal hfinite
    rw [min_eq_left hfinite.le, hexact, Exact.ofInt, Exact.less_finite_iff, hvalue, zpow_zero,
      mul_one, Int.cast_natCast]
    exact ⟨fun h => ⟨hfinite, h⟩, fun h => h.2⟩
  · -- what is too large is infinite, and infinity is not below anything
    rw [min_eq_right (not_lt.1 hfinite), exact_infinity]
    exact ⟨fun h => (by cases h), fun h => absurd h.1 hfinite⟩

end Binary64

end TrackedEntity
