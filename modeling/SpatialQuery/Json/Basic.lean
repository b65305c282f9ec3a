import SpatialQuery.Decimal.Basic

namespace SpatialQuery

namespace Json

/-- A JSON number: an integer of at most 64 bits or a finite binary64 number. -/
inductive Number where
  | integer (value : Int) (lower : -0x8000000000000000 ≤ value)
    (upper : value < 0x10000000000000000)
  | float (value : Binary64.Finite)
  deriving DecidableEq, Repr

namespace Number

def ofInt? (n : Int) : Option Number :=
  if fits : -0x8000000000000000 ≤ n ∧ n < 0x10000000000000000 then some (.integer n fits.1 fits.2) else none

def ofInt64 (n : Int64) : Number :=
  .integer n.toInt n.le_toInt (Int.lt_trans n.toInt_lt (by decide))

def ofUInt32 (n : UInt32) : Number :=
  .integer n.toNat (by omega) (by have := n.toNat_lt; omega)

/-- An integer that fits 64 bits with a sign. -/
def int64? : Number → Option Int64
  | .integer n _ _ => if n < 0x8000000000000000 then some (Int64.ofInt n) else none
  | .float _ => none

theorem int64?_ofInt64 (n : Int64) : (ofInt64 n).int64? = some n := by
  have fits : n.toInt < 0x8000000000000000 := n.toInt_lt
  rw [ofInt64, int64?, if_pos fits, Int64.ofInt_toInt]

def toBinary64 : Number → Binary64
  | .integer n _ _ => .ofInt n
  | .float x => .finite x

/-- Equality of numbers of one form: an integer equals no binary64 number. -/
def valueEq : Number → Number → Bool
  | .integer m _ _, .integer n _ _ => m == n
  | .float x, .float y => x.valueEq y
  | _, _ => false

end Number
end Json

/-- A JSON value. Where a name is repeated, its first member counts. -/
inductive Json where
  | null
  | bool (value : Bool)
  | number (value : Json.Number)
  | string (value : String)
  | array (items : List Json)
  | object (members : List (String × Json))
  deriving Repr

namespace Json

/-- A binary64 number; one that is not finite becomes null. -/
def ofBinary64 : Binary64 → Json
  | .finite x => .number (.float x)
  | _ => .null

def isNull : Json → Bool
  | .null => true
  | _ => false

def string? : Json → Option String
  | .string s => some s
  | _ => none

/-- Gives a member a value: in its place if its name is there, else at the end. -/
def put (name : String) (value : Json) : List (String × Json) → List (String × Json)
  | [] => [(name, value)]
  | (other, old) :: rest =>
    if other = name then (name, value) :: rest else (other, old) :: put name value rest

mutual

/-- Equality with numbers compared by value and objects compared without regard to order. -/
def valueEq : Json → Json → Bool
  | .null, .null => true
  | .bool a, .bool b => a == b
  | .number a, .number b => a.valueEq b
  | .string a, .string b => a == b
  | .array a, .array b => itemsEq a b
  | .object a, .object b => a.length == b.length && membersIn a b
  | _, _ => false

def itemsEq : List Json → List Json → Bool
  | [], [] => true
  | a :: as, b :: bs => valueEq a b && itemsEq as bs
  | _, _ => false

/-- Whether each member has an equal one of its name. -/
def membersIn : List (String × Json) → List (String × Json) → Bool
  | [], _ => true
  | (name, a) :: rest, others =>
    (match others.lookup name with
      | some b => valueEq a b
      | none => false) && membersIn rest others

end

end Json
end SpatialQuery
