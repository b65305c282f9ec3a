import SpatialQuery.Decimal.Shortest

namespace SpatialQuery.Decimal

structure Format where
  /-- The least exponent `e` of `d.ddd * 10 ^ e` that is written with a point alone. -/
  lowest : Int
  /-- The greatest such exponent. -/
  highest : Int
  /-- Whether a positive exponent carries a sign. -/
  plus : Bool
  half : Half
  deriving DecidableEq, Repr

def digitsOf (n : Nat) : List Char := Nat.toDigits 10 n

/-- An integer with a sign only where it is negative. -/
def ofInt (n : Int) : List Char :=
  if n < 0 then '-' :: digitsOf n.natAbs else digitsOf n.natAbs

/-- Digits with a point, the first of them standing at `10 ^ exponent`; no side of the point is empty. -/
def positional (digits : List Char) (exponent : Int) : List Char :=
  if exponent < 0 then
    '0' :: '.' :: (List.replicate (-exponent - 1).toNat '0' ++ digits)
  else
    let whole := exponent.toNat + 1
    let fraction := digits.drop whole
    digits.take whole ++ List.replicate (whole - digits.length) '0' ++
      '.' :: (if fraction.isEmpty then ['0'] else fraction)

/-- One digit, a point before the others if there are any, and the exponent. -/
def scientific (plus : Bool) (digits : List Char) (exponent : Int) : List Char :=
  let fraction := digits.drop 1
  digits.take 1 ++ (if fraction.isEmpty then [] else '.' :: fraction) ++
    'e' :: ((if plus && decide (0 ≤ exponent) then ['+'] else []) ++ ofInt exponent)

def Format.decimal (format : Format) (d : Decimal) : List Char :=
  let digits := digitsOf d.digits
  let exponent := d.exponent + digits.length - 1
  (if d.negative then ['-'] else []) ++
    if format.lowest ≤ exponent ∧ exponent ≤ format.highest then positional digits exponent
    else scientific format.plus digits exponent

def Format.write (format : Format) (x : Binary64.Finite) : List Char :=
  format.decimal (x.shortest format.half)

end SpatialQuery.Decimal
