import SpatialQuery.Decimal.Basic

namespace SpatialQuery.Decimal

/-- The parts of a numeral, all digits being `0` to `9`. -/
structure Numeral where
  negative : Bool
  whole : List Char
  /-- The digits after the point; none without a point. -/
  fraction : List Char
  exponent : Option Int
  deriving DecidableEq, Repr

def valueOf (digits : List Char) : Nat :=
  digits.foldl (fun n c => 10 * n + (c.toNat - '0'.toNat)) 0

/-- A nonempty run of digits, and what follows it. -/
def digits? (text : List Char) : Option (List Char × List Char) :=
  let digits := text.takeWhile Char.isDigit
  if digits.isEmpty then none else some (digits, text.dropWhile Char.isDigit)

namespace Numeral

/-- The exponent after its letter, up to the end. -/
def exponent? (text : List Char) : Option Int := do
  let (sign, text) := match text with
    | '+' :: rest => ((1 : Int), rest)
    | '-' :: rest => (-1, rest)
    | _ => (1, text)
  let (digits, []) ← digits? text | none
  return sign * valueOf digits

/-- The numeral that is the whole text, if it is one. -/
def read? (text : List Char) : Option Numeral := do
  let (negative, text) := match text with
    | '-' :: rest => (true, rest)
    | _ => (false, text)
  let (whole, text) ← digits? text
  if whole.head? = some '0' ∧ whole ≠ ['0'] then none
  let (fraction, text) ← match text with
    | '.' :: rest => digits? rest
    | _ => some ([], text)
  match text with
  | [] => return ⟨negative, whole, fraction, none⟩
  | c :: rest =>
    if c = 'e' ∨ c = 'E' then return ⟨negative, whole, fraction, some (← exponent? rest)⟩ else none

def isInteger (numeral : Numeral) : Bool := numeral.fraction.isEmpty && numeral.exponent.isNone

def toDecimal (numeral : Numeral) : Decimal where
  negative := numeral.negative
  digits := valueOf (numeral.whole ++ numeral.fraction)
  exponent := numeral.exponent.getD 0 - numeral.fraction.length

end Numeral
end SpatialQuery.Decimal
