import SpatialQuery.Binary64.Basic

namespace SpatialQuery.Binary64

/-- The integer nearest to `num / den`; a half goes to the even neighbour. -/
def roundHalfEven (num den : Nat) : Nat :=
  if 2 * (num % den) < den ∨ (2 * (num % den) = den ∧ num / den % 2 = 0) then
    num / den
  else
    num / den + 1

theorem roundHalfEven_mul (n : Nat) {den : Nat} (positive : 0 < den) :
    roundHalfEven (n * den) den = n := by
  rw [roundHalfEven, Nat.mul_mod_left, Nat.mul_div_cancel n positive]
  exact if_pos (.inl (by omega))

/-- The largest `k` with `2 ^ k ≤ num / den`, for a positive ratio. -/
def floorLog2 (num den : Nat) : Int :=
  let k : Int := (num.log2 : Int) - den.log2
  if den * Nat.pow 2 k.toNat ≤ num * Nat.pow 2 (-k).toNat then k else k - 1

/-- The exponent that counts the significand of a ratio: 53 bits, but none below `2 ^ (-1074)`. -/
def scaleOf (num den : Nat) : Int := max (-1074) (floorLog2 num den - 52)

/-- The code of the nearest magnitude, had the codes no upper end. A significand that rounds up to
`2 ^ 53` carries into the exponent by itself. -/
def nearestCode (num den : Nat) : Nat :=
  if num = 0 then 0 else
    let scale := scaleOf num den
    (scale + 1074).toNat * significands +
      roundHalfEven (num * Nat.pow 2 (-scale).toNat) (den * Nat.pow 2 scale.toNat)

/-- The number nearest to a ratio with a sign; beyond the largest finite one lies infinity. -/
def ofRatio (negative : Bool) (num den : Nat) : Binary64 :=
  if fits : nearestCode num den < magnitudes then
    .finite ⟨negative, nearestCode num den, fits⟩
  else
    .infinity negative

def ofInt (n : Int) : Binary64 := ofRatio (n < 0) n.natAbs 1

end SpatialQuery.Binary64
