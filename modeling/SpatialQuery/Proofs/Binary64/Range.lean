import Mathlib.Algebra.Group.Nat.Defs
import SpatialQuery.Binary64.Rounding
import SpatialQuery.Json.Basic

namespace SpatialQuery

namespace Binary64

theorem exists_finite {x : Binary64} (h : x.isFinite = true) : ∃ y, x = .finite y := by
  cases x with
  | finite y => exact ⟨y, rfl⟩
  | nan | infinity => cases h

theorem roundHalfEven_le (num den : Nat) : roundHalfEven num den ≤ num / den + 1 := by
  rw [roundHalfEven]
  split <;> omega

theorem floorLog2_one {num : Nat} (positive : num ≠ 0) : floorLog2 num 1 = num.log2 := by
  have power : 1 * Nat.pow 2 (num.log2 : Int).toNat ≤ num * Nat.pow 2 (-(num.log2 : Int)).toNat := by
    have negative : (-(num.log2 : Int)).toNat = 0 := by omega
    rw [negative, Int.toNat_natCast, Nat.one_mul]
    exact Nat.le_trans (Nat.log2_self_le positive) (Nat.le_of_eq (Nat.mul_one num).symm)
  have one : Nat.log2 1 = 0 := by decide
  simp only [floorLog2, one, Int.natCast_zero, Int.sub_zero]
  exact if_pos power

/-- An integer shifted to 53 bits has no more than these. -/
theorem shifted_lt {num : Nat} (positive : num ≠ 0) :
    num * Nat.pow 2 (-scaleOf num 1).toNat / (1 * Nat.pow 2 (scaleOf num 1).toNat) < 2 ^ 53 := by
  have scale : scaleOf num 1 = num.log2 - 52 := by
    rw [scaleOf, floorLog2_one positive]
    omega
  have power : 1 * Nat.pow 2 (scaleOf num 1).toNat = 2 ^ (scaleOf num 1).toNat := Nat.one_mul _
  have exponents : num.log2 + 1 + (-scaleOf num 1).toNat = 53 + (scaleOf num 1).toNat := by omega
  rw [power, Nat.div_lt_iff_lt_mul (Nat.two_pow_pos _), ← Nat.pow_add, ← exponents, Nat.pow_add]
  exact Nat.mul_lt_mul_of_pos_right Nat.lt_log2_self (Nat.two_pow_pos _)

theorem nearestCode_lt {num : Nat} (h : num < 2 ^ 64) : nearestCode num 1 < magnitudes := by
  by_cases zero : num = 0
  · rw [nearestCode, if_pos zero]
    decide
  · have log : num.log2 < 64 := (Nat.log2_lt zero).mpr h
    have scale : (scaleOf num 1 + 1074).toNat ≤ 1085 := by
      rw [scaleOf, floorLog2_one zero]
      omega
    have rounded := roundHalfEven_le (num * Nat.pow 2 (-scaleOf num 1).toNat)
      (1 * Nat.pow 2 (scaleOf num 1).toNat)
    have shifted := shifted_lt zero
    rw [nearestCode, if_neg zero]
    calc
      _ ≤ 1085 * significands + 2 ^ 53 := Nat.add_le_add (Nat.mul_le_mul_right _ scale) (by omega)
      _ < magnitudes := by decide

theorem ofInt_isFinite {n : Int} (h : n.natAbs < 2 ^ 64) : (ofInt n).isFinite = true := by
  rw [ofInt, ofRatio, dif_pos (nearestCode_lt h)]
  rfl

end Binary64

/-- Whatever is written as a number has a finite value. -/
theorem Json.Number.toBinary64_isFinite (n : Json.Number) : n.toBinary64.isFinite = true := by
  cases n with
  | float x => rfl
  | integer value lower upper =>
    exact Binary64.ofInt_isFinite (by omega)

end SpatialQuery
