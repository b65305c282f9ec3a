import SpatialQuery.Decimal.Shortest
import SpatialQuery.Proofs.Binary64.Nearest

namespace SpatialQuery

namespace Decimal

theorem toBinary64_of_digits_eq_zero {d : Decimal} (h : d.digits = 0) :
    d.toBinary64 = .finite ⟨d.negative, 0⟩ := by
  rw [toBinary64, if_pos h]
  rfl

/-- Exponents that are not far beyond the range leave the power to be computed. -/
theorem toBinary64_eq_ofRatio {d : Decimal} (digits : d.digits ≠ 0) (high : d.exponent ≤ 400)
    (low : -400 ≤ d.exponent + d.digits.log2 + 1) :
    d.toBinary64 = .ofRatio d.negative (d.digits * Nat.pow 10 d.exponent.toNat)
      (Nat.pow 10 (-d.exponent).toNat) := by
  rw [toBinary64, if_neg digits, if_neg (by omega), if_neg (by omega)]

theorem exponent_le {d : Decimal} (digits : d.digits ≠ 0) {x : Binary64.Finite}
    (h : d.toBinary64 = .finite x) : d.exponent ≤ 400 := by
  by_contra high
  rw [toBinary64, if_neg digits, if_pos (by omega)] at h
  cases h

/-- Zeros up to the point and one behind it do not change the number. -/
theorem toBinary64_point {d : Decimal} {x : Binary64.Finite} (h : d.toBinary64 = .finite x)
    (he : 0 ≤ d.exponent) :
    toBinary64 ⟨d.negative, d.digits * 10 ^ (d.exponent.toNat + 1), -1⟩ = .finite x := by
  by_cases digits : d.digits = 0
  · rw [toBinary64_of_digits_eq_zero (by simp [digits]), ← h, toBinary64_of_digits_eq_zero digits]
  · have high := exponent_le digits h
    have shifted : d.digits * 10 ^ (d.exponent.toNat + 1) ≠ 0 :=
      Nat.mul_ne_zero digits (Nat.ne_of_gt (Nat.pow_pos (by decide)))
    rw [toBinary64_eq_ofRatio digits high (by omega)] at h
    rw [toBinary64_eq_ofRatio shifted (by simp only; omega) (by simp only; omega), ← h]
    apply Binary64.ofRatio_eq_of_mul_eq
    · exact Nat.ne_of_gt (Nat.pow_pos (by decide))
    · exact Nat.ne_of_gt (Nat.pow_pos (by decide))
    · have whole : (-d.exponent).toNat = 0 := by omega
      rw [whole]
      change d.digits * 10 ^ (d.exponent.toNat + 1) * 1 * 1 = d.digits * 10 ^ d.exponent.toNat * 10
      rw [Nat.pow_succ, Nat.mul_one, Nat.mul_one, Nat.mul_assoc]

end Decimal

namespace Binary64.Finite

variable {x : Finite} {half : Decimal.Half} {grid : Int} {digits : Nat} {d : Decimal}

theorem eq_zero_of_isZero (h : x.isZero = true) : x = ⟨x.negative, 0⟩ := by
  obtain ⟨negative, code⟩ := x
  rw [isZero, beq_iff_eq] at h
  congr
  exact Fin.ext h

theorem readsBack?_eq_some (h : x.readsBack? grid digits = some d) : d.toBinary64 = .finite x := by
  rw [readsBack?] at h
  split at h
  · next same =>
    cases h
    exact same
  · cases h

theorem onGrid?_eq_some (h : onGrid? half x grid = some d) : d.toBinary64 = .finite x := by
  simp only [onGrid?] at h
  split at h
  · next low high =>
    split at h
    · cases h
      exact readsBack?_eq_some low
    · cases h
      exact readsBack?_eq_some high
  · next low _ =>
    cases h
    exact readsBack?_eq_some low
  · exact readsBack?_eq_some h

/-- The digits of a binary fraction are those of its numerator times a power of five. -/
theorem toBinary64_allDigits (h : x.isZero = false) : x.allDigits.toBinary64 = .finite x := by
  have exponent : x.allDigits.exponent = -((-x.exponent).toNat : Int) := by
    change min 0 x.exponent = _
    omega
  have nonzero : x.numerator ≠ 0 := by
    rw [isZero, beq_eq_false_iff_ne] at h
    exact mt numerator_eq_zero_iff.mp h
  have many : 2 ^ (-x.exponent).toNat ≤ x.allDigits.digits :=
    calc
      2 ^ (-x.exponent).toNat ≤ 5 ^ (-x.exponent).toNat := Nat.pow_le_pow_left (by decide) _
      _ ≤ x.numerator * 5 ^ (-x.exponent).toNat := Nat.le_mul_of_pos_left _ (Nat.pos_of_ne_zero nonzero)
  have digits : x.allDigits.digits ≠ 0 := Nat.ne_of_gt (Nat.lt_of_lt_of_le (Nat.two_pow_pos _) many)
  have bits : (-x.exponent).toNat ≤ x.allDigits.digits.log2 := (Nat.le_log2 digits).mpr many
  rw [Decimal.toBinary64_eq_ofRatio digits (by omega) (by omega), ← ofRatio_self x, exponent]
  apply ofRatio_eq_of_mul_eq
  · exact Nat.ne_of_gt (Nat.pow_pos (by decide))
  · exact x.denominator_ne_zero
  · have whole : (-((-x.exponent).toNat : Int)).toNat = 0 := by omega
    have places : (- -((-x.exponent).toNat : Int)).toNat = (-x.exponent).toNat := by omega
    rw [whole, places]
    change x.numerator * 5 ^ (-x.exponent).toNat * 1 * 2 ^ (-x.exponent).toNat =
      x.numerator * 10 ^ (-x.exponent).toNat
    rw [Nat.mul_one, Nat.mul_assoc, ← Nat.mul_pow]

theorem toBinary64_shortest (half : Decimal.Half) (x : Finite) :
    (x.shortest half).toBinary64 = .finite x := by
  rw [shortest]
  split
  · next zero =>
    rw [eq_zero_of_isZero zero]
    exact Decimal.toBinary64_of_digits_eq_zero rfl
  · next nonzero =>
    cases found : (List.range 24).findSome? fun (step : Nat) => onGrid? half x (x.topGrid - step) with
    | none => exact toBinary64_allDigits (by simpa using nonzero)
    | some d =>
      obtain ⟨step, _, h⟩ := List.exists_of_findSome?_eq_some found
      exact onGrid?_eq_some h

/-- Zero is written with the power of ten that counts ones. -/
theorem exponent_shortest (h : (x.shortest half).digits = 0) : (x.shortest half).exponent = 0 := by
  have value := toBinary64_shortest half x
  rw [Decimal.toBinary64_of_digits_eq_zero h] at value
  have zero : x.isZero = true := beq_iff_eq.mpr (congrArg (·.code.val) (finite.inj value)).symm
  rw [shortest, if_pos zero]

end Binary64.Finite
end SpatialQuery
