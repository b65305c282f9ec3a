import SpatialQuery.Json.Basic

/-! JSON text as it was read. Members keep their repetitions, and what has the form of a value but cannot
be held is marked, since it does no harm where nobody asks for it. -/
namespace SpatialQuery.Json

inductive Tree where
  | null
  | bool (value : Bool)
  | number (value : Number)
  | string (value : String)
  | array (items : List Tree)
  | object (members : List (String × Tree))
  /-- A number out of range, text with half a surrogate pair, or a container nested too deeply. -/
  | unreadable
  deriving Repr

namespace Tree

mutual

/-- A value, as text that holds it is read. -/
def ofJson : Json → Tree
  | .null => .null
  | .bool b => .bool b
  | .number n => .number n
  | .string s => .string s
  | .array items => .array (ofItems items)
  | .object members => .object (ofMembers members)

def ofItems : List Json → List Tree
  | [] => []
  | item :: rest => ofJson item :: ofItems rest

def ofMembers : List (String × Json) → List (String × Tree)
  | [] => []
  | (name, value) :: rest => (name, ofJson value) :: ofMembers rest

end

mutual

/-- The value, if all of it can be held. A repeated name keeps its first place and its last value. -/
def toJson? : Tree → Option Json
  | .null => some .null
  | .bool b => some (.bool b)
  | .number n => some (.number n)
  | .string s => some (.string s)
  | .array items => (toItems? items).map .array
  | .object members => (toMembers? [] members).map .object
  | .unreadable => none

def toItems? : List Tree → Option (List Json)
  | [] => some []
  | item :: rest => do return (← toJson? item) :: (← toItems? rest)

/-- Adds members to those that came before. -/
def toMembers? (before : List (String × Json)) :
    List (String × Tree) → Option (List (String × Json))
  | [] => some before
  | (name, value) :: rest => do toMembers? (put name (← toJson? value) before) rest

end

mutual

/-- Whether nothing in a value is marked. -/
def isReadable : Tree → Bool
  | .array items => areReadable items
  | .object members => haveReadable members
  | .unreadable => false
  | _ => true

def areReadable : List Tree → Bool
  | [] => true
  | item :: rest => isReadable item && areReadable rest

def haveReadable : List (String × Tree) → Bool
  | [] => true
  | (_, value) :: rest => isReadable value && haveReadable rest

end

mutual

theorem isReadable_ofJson : ∀ json : Json, (ofJson json).isReadable = true
  | .null | .bool _ | .number _ | .string _ => rfl
  | .array items => areReadable_ofItems items
  | .object members => haveReadable_ofMembers members

theorem areReadable_ofItems : ∀ items : List Json, areReadable (ofItems items) = true
  | [] => rfl
  | item :: rest => by
    simp [ofItems, areReadable, isReadable_ofJson item, areReadable_ofItems rest]

theorem haveReadable_ofMembers :
    ∀ members : List (String × Json), haveReadable (ofMembers members) = true
  | [] => rfl
  | (_, value) :: rest => by
    simp [ofMembers, haveReadable, isReadable_ofJson value, haveReadable_ofMembers rest]

end

end Tree
end SpatialQuery.Json
