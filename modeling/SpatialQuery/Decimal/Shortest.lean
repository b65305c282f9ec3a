import SpatialQuery.Decimal.Basic

/-! Grids of powers of ten are tried from coarse to fine. If a point of a grid reads back, so does one of
the two points beside the number. -/
namespace SpatialQuery

/-- Where to go from the middle between two shortest decimals. -/
inductive Decimal.Half where
  | up
  | even
  deriving DecidableEq, Repr

namespace Binary64.Finite

/-- The decimal `digits * 10 ^ grid` with the sign of `x`, if it reads back as `x`. -/
def readsBack? (x : Finite) (grid : Int) (digits : Nat) : Option Decimal :=
  if Decimal.toBinary64 ⟨x.negative, digits, grid⟩ = .finite x then some ⟨x.negative, digits, grid⟩
  else none

/-- The decimal on a grid that reads back as `x`: of two the nearer. -/
def onGrid? (half : Decimal.Half) (x : Finite) (grid : Int) : Option Decimal :=
  let num := x.numerator * Nat.pow 10 (-grid).toNat
  let den := x.denominator * Nat.pow 10 grid.toNat
  let below := num / den
  match x.readsBack? grid below, x.readsBack? grid (below + 1) with
  | some low, some high =>
    let twice := 2 * (num % den)
    if twice < den ∨ (twice = den ∧ half = .even ∧ below % 2 = 0) then some low else some high
  | some low, none => some low
  | none, found => found

/-- All digits of a number: every binary fraction is a decimal one. -/
def allDigits (x : Finite) : Decimal :=
  ⟨x.negative, x.significand * Nat.pow 2 x.exponent.toNat * Nat.pow 5 (-x.exponent).toNat, min 0 x.exponent⟩

/-- A power of ten above the magnitude of `x`; `log10 2` is a little below `30103 / 100000`. -/
def topGrid (x : Finite) : Int :=
  (floorLog2 x.numerator x.denominator + 1) * 30103 / 100000 + 2

/-- The shortest decimal that reads back as `x`. Seventeen digits always do. -/
def shortest (half : Decimal.Half) (x : Finite) : Decimal :=
  if x.isZero then ⟨x.negative, 0, 0⟩
  else
    ((List.range 24).findSome? fun (step : Nat) => onGrid? half x (x.topGrid - step)).getD x.allDigits

end Binary64.Finite
end SpatialQuery
