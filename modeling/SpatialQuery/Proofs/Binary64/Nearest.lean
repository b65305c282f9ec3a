import Mathlib.Algebra.Order.Field.Power
import Mathlib.Data.Int.Log
import Mathlib.Data.Rat.Floor
import Mathlib.Tactic.Positivity
import SpatialQuery.Binary64.Rounding

namespace SpatialQuery.Binary64

/-- An integer power of two as a ratio of natural powers, of which one is `1`. -/
theorem zpow_eq_div (k : ℤ) : (2 : ℚ) ^ k = 2 ^ k.toNat / 2 ^ (-k).toNat := by
  conv_lhs => rw [← Int.toNat_sub_toNat_neg k]
  rw [zpow_sub₀ two_ne_zero, zpow_natCast, zpow_natCast]

theorem log_eq {r : ℚ} {k : ℤ} (lower : 2 ^ k ≤ r) (upper : r < 2 ^ (k + 1)) : Int.log 2 r = k := by
  have positive : 0 < r := lt_of_lt_of_le (zpow_pos two_pos k) lower
  have above := (Int.zpow_le_iff_le_log (b := 2) one_lt_two positive).mp (mod_cast lower)
  have below := (Int.lt_zpow_iff_log_lt (b := 2) one_lt_two positive).mp (mod_cast upper)
  omega

theorem floorLog2_eq_log {num den : ℕ} (hn : num ≠ 0) (hd : den ≠ 0) :
    floorLog2 num den = Int.log 2 (num / den : ℚ) := by
  have den_pos : (0 : ℚ) < den := mod_cast Nat.pos_of_ne_zero hd
  have num_low : (2 : ℚ) ^ (num.log2 : ℤ) ≤ num := mod_cast Nat.log2_self_le hn
  have num_high : (num : ℚ) < 2 ^ (num.log2 + 1 : ℤ) := mod_cast Nat.lt_log2_self
  have den_low : (2 : ℚ) ^ (den.log2 : ℤ) ≤ den := mod_cast Nat.log2_self_le hd
  have den_high : (den : ℚ) < 2 ^ (den.log2 + 1 : ℤ) := mod_cast Nat.lt_log2_self
  have reaches (k : ℤ) : den * Nat.pow 2 k.toNat ≤ num * Nat.pow 2 (-k).toNat ↔
      (2 : ℚ) ^ k ≤ num / den := by
    rw [zpow_eq_div, div_le_div_iff₀ (by positivity) den_pos, mul_comm]
    exact_mod_cast Iff.rfl
  have high : (num / den : ℚ) < 2 ^ ((num.log2 : ℤ) - den.log2 + 1) := by
    rw [div_lt_iff₀ den_pos]
    calc
      (num : ℚ) < 2 ^ (num.log2 + 1 : ℤ) := num_high
      _ = 2 ^ ((num.log2 : ℤ) - den.log2 + 1) * 2 ^ (den.log2 : ℤ) := by
        rw [← zpow_add₀ two_ne_zero]
        congr 1
        omega
      _ ≤ 2 ^ ((num.log2 : ℤ) - den.log2 + 1) * den := by gcongr
  have low : (2 : ℚ) ^ ((num.log2 : ℤ) - den.log2 - 1) ≤ num / den := by
    rw [le_div_iff₀ den_pos]
    calc
      2 ^ ((num.log2 : ℤ) - den.log2 - 1) * (den : ℚ)
        ≤ 2 ^ ((num.log2 : ℤ) - den.log2 - 1) * 2 ^ (den.log2 + 1 : ℤ) := by gcongr
      _ = 2 ^ (num.log2 : ℤ) := by
        rw [← zpow_add₀ two_ne_zero]
        congr 1
        omega
      _ ≤ num := num_low
  rw [floorLog2]
  split
  · next h => exact (log_eq ((reaches _).mp h) high).symm
  · next h =>
    rw [reaches, not_le] at h
    exact (log_eq low (by rwa [sub_add_cancel])).symm

theorem roundHalfEven_mul_mul (num den : ℕ) {c : ℕ} (hc : 0 < c) :
    roundHalfEven (num * c) (den * c) = roundHalfEven num den := by
  have less : 2 * (num % den * c) < den * c ↔ 2 * (num % den) < den := by
    rw [← Nat.mul_assoc]
    exact Nat.mul_lt_mul_right hc
  have equal : 2 * (num % den * c) = den * c ↔ 2 * (num % den) = den := by
    rw [← Nat.mul_assoc]
    exact Nat.mul_left_inj (Nat.ne_of_gt hc)
  rw [roundHalfEven, roundHalfEven, Nat.mul_mod_mul_right, Nat.mul_div_mul_right num den hc]
  simp only [less, equal]

theorem nearestCode_mul_mul (num : ℕ) {den c : ℕ} (hd : den ≠ 0) (hc : c ≠ 0) :
    nearestCode (num * c) (den * c) = nearestCode num den := by
  by_cases hn : num = 0
  · rw [hn, Nat.zero_mul, nearestCode, nearestCode, if_pos rfl, if_pos rfl]
  · have ratio : ((num * c : ℕ) / (den * c : ℕ) : ℚ) = num / den := by
      push_cast
      exact mul_div_mul_right _ _ (mod_cast hc)
    have scale : scaleOf (num * c) (den * c) = scaleOf num den := by
      rw [scaleOf, scaleOf, floorLog2_eq_log (Nat.mul_ne_zero hn hc) (Nat.mul_ne_zero hd hc), ratio,
        floorLog2_eq_log hn hd]
    simp only [nearestCode, Nat.mul_ne_zero hn hc, hn, if_false, scale, Nat.mul_right_comm _ c,
      roundHalfEven_mul_mul _ _ (Nat.pos_of_ne_zero hc)]

/-- The nearest number depends on the value of a ratio alone. -/
theorem ofRatio_eq_of_mul_eq (negative : Bool) {num den num' den' : ℕ} (hd : den ≠ 0) (hd' : den' ≠ 0)
    (same : num * den' = num' * den) : ofRatio negative num den = ofRatio negative num' den' := by
  have code : nearestCode num den = nearestCode num' den' := by
    rw [← nearestCode_mul_mul num hd hd', same, Nat.mul_comm den, nearestCode_mul_mul num' hd' hd]
  simp only [ofRatio, code]

namespace Finite

variable {x : Finite}

/-- Significands have 53 bits, but at the least exponent they may have fewer. -/
theorem significand_cases (x : Finite) :
    x.exponent = -1074 ∧ x.significand < significands ∨
      -1074 ≤ x.exponent ∧ significands ≤ x.significand ∧ x.significand < 2 * significands := by
  have positive : 0 < significands := by decide
  rw [exponent, significand]
  split
  · next small => exact .inl ⟨rfl, small⟩
  · next large =>
    have least : 1 ≤ x.code.val / significands := (Nat.one_le_div_iff positive).mpr (by omega)
    have below := Nat.mod_lt x.code.val positive
    exact .inr ⟨by omega, by omega, by omega⟩

/-- Codes count the significands of each exponent in turn. -/
theorem code_eq (x : Finite) :
    x.code.val = (x.exponent + 1074).toNat * significands + x.significand := by
  have positive : 0 < significands := by decide
  rw [exponent, significand]
  split
  · exact (Nat.zero_add _).symm
  · next large =>
    have least : 1 ≤ x.code.val / significands := (Nat.one_le_div_iff positive).mpr (by omega)
    have exponents : (((x.code.val / significands : ℕ) : ℤ) - 1075 + 1074).toNat + 1 =
        x.code.val / significands := by omega
    rw [← Nat.add_assoc, ← Nat.succ_mul, Nat.succ_eq_add_one, exponents, Nat.mul_comm,
      Nat.div_add_mod]

theorem significand_eq_zero_iff : x.significand = 0 ↔ x.code.val = 0 := by
  have positive : 0 < significands := by decide
  rw [significand]
  split
  · rfl
  · omega

theorem numerator_eq_zero_iff : x.numerator = 0 ↔ x.code.val = 0 := by
  rw [numerator, Nat.mul_eq_zero, significand_eq_zero_iff, or_iff_left]
  exact Nat.ne_of_gt (Nat.two_pow_pos _)

theorem denominator_ne_zero (x : Finite) : x.denominator ≠ 0 := Nat.ne_of_gt (Nat.two_pow_pos _)

theorem numerator_div_denominator (x : Finite) :
    (x.numerator / x.denominator : ℚ) = x.significand * 2 ^ x.exponent := by
  have num : (x.numerator : ℚ) = x.significand * 2 ^ x.exponent.toNat := mod_cast rfl
  have den : (x.denominator : ℚ) = 2 ^ (-x.exponent).toNat := mod_cast rfl
  rw [zpow_eq_div, ← mul_div_assoc, num, den]

/-- The scale of a number is the power of two that counts its significand: either this has 53 bits, or
the power is the least one. -/
theorem scaleOf_eq_exponent (hx : x.code.val ≠ 0) :
    scaleOf x.numerator x.denominator = x.exponent := by
  have hm : x.significand ≠ 0 := mt significand_eq_zero_iff.mp hx
  have log : Int.log 2 (x.numerator / x.denominator : ℚ) = x.significand.log2 + x.exponent := by
    rw [numerator_div_denominator]
    apply log_eq
    · rw [zpow_add₀ two_ne_zero]
      have low : (2 : ℚ) ^ (x.significand.log2 : ℤ) ≤ x.significand := mod_cast Nat.log2_self_le hm
      gcongr
    · rw [add_right_comm, zpow_add₀ two_ne_zero]
      have high : (x.significand : ℚ) < 2 ^ (x.significand.log2 + 1 : ℤ) := mod_cast Nat.lt_log2_self
      gcongr
  rw [scaleOf, floorLog2_eq_log (mt numerator_eq_zero_iff.mp hx) x.denominator_ne_zero, log]
  rcases x.significand_cases with ⟨least, few⟩ | ⟨least, low, high⟩
  · have bits : x.significand.log2 < 52 := (Nat.log2_lt hm).mpr few
    omega
  · have bits : x.significand.log2 = 52 := (Nat.log2_eq_iff hm).mpr ⟨low, high⟩
    omega

theorem nearestCode_self (x : Finite) : nearestCode x.numerator x.denominator = x.code.val := by
  by_cases hx : x.code.val = 0
  · rw [nearestCode, if_pos (numerator_eq_zero_iff.mpr hx), hx]
  · have positive : 0 < Nat.pow 2 (-x.exponent).toNat * Nat.pow 2 x.exponent.toNat :=
      Nat.mul_pos (Nat.two_pow_pos _) (Nat.two_pow_pos _)
    have rounded : roundHalfEven (x.numerator * Nat.pow 2 (-x.exponent).toNat)
        (x.denominator * Nat.pow 2 x.exponent.toNat) = x.significand := by
      rw [numerator, denominator, Nat.mul_assoc, Nat.mul_comm (Nat.pow 2 x.exponent.toNat)]
      exact roundHalfEven_mul _ positive
    simp only [nearestCode, mt numerator_eq_zero_iff.mp hx, if_false, scaleOf_eq_exponent hx, rounded]
    exact x.code_eq.symm

/-- Every finite number is the nearest to its own value. -/
theorem ofRatio_self (x : Finite) : ofRatio x.negative x.numerator x.denominator = .finite x := by
  rw [ofRatio]
  simp only [nearestCode_self, x.code.isLt, dif_pos]

end Finite

end SpatialQuery.Binary64
