/-! Binary64 numbers, held exactly. Structural equality tells apart everything that bits tell apart;
`valueEq` compares as arithmetic does. -/
namespace SpatialQuery

namespace Binary64

/-- How many significands there are with each exponent: `2 ^ 52`. -/
abbrev significands : Nat := 0x10000000000000

/-- How many magnitudes are finite, of 2047 exponents. -/
abbrev magnitudes : Nat := 2047 * significands

/-- A finite number. Magnitudes are counted upwards from zero, which is how their bits read. -/
structure Finite where
  negative : Bool
  code : Fin magnitudes
  deriving DecidableEq, Repr

end Binary64

/-- A binary64 number. All that is not a number is one value. -/
inductive Binary64 where
  | nan
  | infinity (negative : Bool)
  | finite (number : Binary64.Finite)
  deriving DecidableEq, Repr

namespace Binary64

namespace Finite

/-- Zero and minus zero. -/
def isZero (x : Finite) : Bool := x.code.val == 0

/-- The integer `m` of the magnitude `m * 2 ^ exponent`; only the lowest exponent has small ones. -/
def significand (x : Finite) : Nat :=
  if x.code.val < significands then x.code.val else significands + x.code.val % significands

/-- The power of two that counts the significand. -/
def exponent (x : Finite) : Int :=
  if x.code.val < significands then -1074 else (x.code.val / significands : Nat) - 1075

/-- The magnitude is `numerator / denominator`. -/
def numerator (x : Finite) : Nat := x.significand * Nat.pow 2 x.exponent.toNat

def denominator (x : Finite) : Nat := Nat.pow 2 (-x.exponent).toNat

/-- Equality of numbers: the two zeros are equal. -/
def valueEq (x y : Finite) : Bool := x == y || (x.isZero && y.isZero)

theorem valueEq_iff (x y : Finite) :
    x.valueEq y = true ↔ x = y ∨ (x.code.val = 0 ∧ y.code.val = 0) := by
  simp [valueEq, isZero]

theorem valueEq_refl (x : Finite) : x.valueEq x = true := (valueEq_iff x x).mpr (.inl rfl)

theorem valueEq_symm {x y : Finite} (same : x.valueEq y = true) : y.valueEq x = true := by
  rcases (valueEq_iff x y).mp same with rfl | ⟨hx, hy⟩
  · exact valueEq_refl x
  · exact (valueEq_iff y x).mpr (.inr ⟨hy, hx⟩)

theorem valueEq_trans {x y z : Finite} (first : x.valueEq y = true) (second : y.valueEq z = true) :
    x.valueEq z = true := by
  rcases (valueEq_iff x y).mp first with rfl | ⟨hx, hy⟩
  · exact second
  · rcases (valueEq_iff y z).mp second with rfl | ⟨_, hz⟩
    · exact first
    · exact (valueEq_iff x z).mpr (.inr ⟨hx, hz⟩)

end Finite

/-- Equality of numbers: the two zeros are equal, and what is no number equals nothing. -/
def valueEq : Binary64 → Binary64 → Bool
  | .finite x, .finite y => x.valueEq y
  | .infinity s, .infinity t => s == t
  | _, _ => false

def isFinite : Binary64 → Bool
  | .finite _ => true
  | _ => false

def finite? : Binary64 → Option Finite
  | .finite x => some x
  | _ => none

end Binary64
end SpatialQuery
