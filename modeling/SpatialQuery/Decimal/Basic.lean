import SpatialQuery.Binary64.Rounding

namespace SpatialQuery

structure Decimal where
  negative : Bool
  digits : Nat
  exponent : Int
  deriving DecidableEq, Repr

namespace Decimal

/-- The nearest binary64 number. Exponents far beyond its range are settled without computing the
power: from `10 ^ 400` on all is infinite, and `digits < 10 ^ (log2 digits + 1)`. -/
def toBinary64 (d : Decimal) : Binary64 :=
  if d.digits = 0 then .ofRatio d.negative 0 1
  else if 400 < d.exponent then .infinity d.negative
  else if d.exponent + d.digits.log2 + 1 < -400 then .ofRatio d.negative 0 1
  else .ofRatio d.negative (d.digits * Nat.pow 10 d.exponent.toNat) (Nat.pow 10 (-d.exponent).toNat)

end Decimal
end SpatialQuery
