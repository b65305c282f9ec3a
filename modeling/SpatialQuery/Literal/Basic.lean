import SpatialQuery.Binary64.Basic

namespace SpatialQuery

inductive Literal where
  | null
  | int (value : Int64)
  | float (value : Binary64)
  | string (value : String)
  | boolean (value : Bool)
  | enum (name : String)
  | list (items : List Literal)
  | object (fields : List (String × Literal))

namespace Literal

inductive Kind where
  | null
  | int
  | float
  | string
  | boolean
  | enum
  | list
  | object
  deriving DecidableEq, Repr

namespace Kind

/-- All kinds, in the order that numbers them from zero. -/
def all : List Kind := [.null, .int, .float, .string, .boolean, .enum, .list, .object]

def word : Kind → String
  | .null => "null"
  | .int => "int"
  | .float => "float"
  | .string => "string"
  | .boolean => "boolean"
  | .enum => "enum"
  | .list => "list"
  | .object => "object"

def tag : Kind → String
  | .null => "Null"
  | .int => "Int"
  | .float => "Float"
  | .string => "String"
  | .boolean => "Boolean"
  | .enum => "Enum"
  | .list => "List"
  | .object => "Object"

def ofTag? (tag : String) : Option Kind := all.find? fun kind => kind.tag = tag

theorem ofTag?_tag (kind : Kind) : ofTag? kind.tag = some kind := by cases kind <;> decide

end Kind

def kind : Literal → Kind
  | .null => .null
  | .int _ => .int
  | .float _ => .float
  | .string _ => .string
  | .boolean _ => .boolean
  | .enum _ => .enum
  | .list _ => .list
  | .object _ => .object

def isNull : Literal → Bool
  | .null => true
  | _ => false

theorem isNull_iff (literal : Literal) : literal.isNull = true ↔ literal = .null := by
  cases literal <;> simp [isNull]

/-- The value of an object's first field of a name. -/
def field? (name : String) : Literal → Option Literal
  | .object fields => fields.lookup name
  | _ => none

mutual

/-- Equality with numbers compared by value. An integer equals no binary64 number. -/
def valueEq : Literal → Literal → Bool
  | .null, .null => true
  | .int m, .int n => m == n
  | .float x, .float y => x.valueEq y
  | .string a, .string b => a == b
  | .boolean a, .boolean b => a == b
  | .enum a, .enum b => a == b
  | .list a, .list b => itemsEq a b
  | .object a, .object b => fieldsEq a b
  | _, _ => false

def itemsEq : List Literal → List Literal → Bool
  | [], [] => true
  | a :: as, b :: bs => valueEq a b && itemsEq as bs
  | _, _ => false

def fieldsEq : List (String × Literal) → List (String × Literal) → Bool
  | [], [] => true
  | (name, a) :: as, (other, b) :: bs => name == other && valueEq a b && fieldsEq as bs
  | _, _ => false

end

end Literal
end SpatialQuery
