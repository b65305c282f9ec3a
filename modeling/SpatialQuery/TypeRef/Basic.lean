namespace SpatialQuery

inductive TypeRef where
  | named (name : String)
  | list (item : TypeRef)
  | nonNull (inner : TypeRef)
  deriving DecidableEq, Repr

namespace TypeRef

def isNonNull : TypeRef → Bool
  | .nonNull _ => true
  | _ => false

def isList : TypeRef → Bool
  | .list _ => true
  | _ => false

/-- The name inside all lists and non-null forms. -/
def namedType : TypeRef → String
  | .named name => name
  | .list item => item.namedType
  | .nonNull inner => inner.namedType

def write : TypeRef → List Char
  | .named name => name.toList
  | .list item => '[' :: (item.write ++ [']'])
  | .nonNull inner => inner.write ++ ['!']

def toString (type : TypeRef) : String := String.ofList type.write

instance : ToString TypeRef := ⟨toString⟩

end TypeRef
end SpatialQuery
