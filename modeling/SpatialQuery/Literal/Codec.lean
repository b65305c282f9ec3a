import SpatialQuery.Json.Record
import SpatialQuery.Literal.Basic

namespace SpatialQuery.Literal

open Json (Tree Passage)

def tagged (kind : Kind) (value : Json) : Json :=
  .object [("kind", .string kind.tag), ("value", value)]

mutual

def toJson : Literal → Json
  | .null => .object [("kind", .string Kind.null.tag)]
  | .int n => tagged .int (.number (.ofInt64 n))
  | .float x => tagged .float (.ofBinary64 x)
  | .string s => tagged .string (.string s)
  | .boolean b => tagged .boolean (.bool b)
  | .enum name => tagged .enum (.string name)
  | .list items => tagged .list (.array (itemsToJson items))
  | .object fields => tagged .object (.array (fieldsToJson fields))

def itemsToJson : List Literal → List Json
  | [] => []
  | item :: rest => toJson item :: itemsToJson rest

def fieldsToJson : List (String × Literal) → List Json
  | [] => []
  | (name, value) :: rest => .array [.string name, toJson value] :: fieldsToJson rest

end

/-- The kind in a member of an object. -/
def kind? (passage : Passage) (tree : Tree) : Option Kind :=
  tree.choice? passage >>= Kind.ofTag?

/-- The kind at the start of an array. -/
def leadingKind? (passage : Passage) : Tree → Option Kind := Tree.oneOf? passage Kind.all Kind.tag

/-- Whether a member `value` stands before any member `kind`. -/
def valueFirst (members : List (String × Tree)) : Bool :=
  (members.find? fun member => member.1 == "kind" || member.1 == "value").any (·.1 == "value")

/-- How the member `value` is read: one that stands before the kind is held back until the kind is
known, which takes that all of it can be held. -/
def passageOfValue? (passage : Passage) (members : List (String × Tree)) : Option Passage :=
  if valueFirst members then
    if passage = .held ∨ (members.lookup "value").all Tree.isReadable then some .held else none
  else some passage

mutual

/-- The literal in a tree: an object with `kind` and `value`, or an array of these two. -/
def ofTree? (passage : Passage) : Tree → Option Literal
  | .object members => do
    if !Tree.distinct ["kind", "value"] members then none
    let kind ← members.lookup "kind" >>= kind? passage
    valueIn? (← passageOfValue? passage members) kind members
  | .array [kind, value] => do content? passage (← leadingKind? passage kind) value
  | _ => none

/-- The literal of a kind from the member `value`; null may do without. -/
def valueIn? (passage : Passage) (kind : Kind) : List (String × Tree) → Option Literal
  | [] => if kind = .null then some .null else none
  | (name, value) :: rest =>
    if name = "value" then content? passage kind value else valueIn? passage kind rest

def content? (passage : Passage) : Kind → Tree → Option Literal
  | .null, .null => some .null
  | .int, .number n => n.int64?.map .int
  | .float, .number n => some (.float n.toBinary64)
  | .string, .string s => some (.string s)
  | .boolean, .bool b => some (.boolean b)
  | .enum, .string s => some (.enum s)
  | .list, .array items => (items? passage items).map .list
  | .object, .array pairs => (pairs? passage pairs).map .object
  | _, _ => none

def items? (passage : Passage) : List Tree → Option (List Literal)
  | [] => some []
  | item :: rest => do return (← ofTree? passage item) :: (← items? passage rest)

/-- Fields from pairs of a name and a literal. -/
def pairs? (passage : Passage) : List Tree → Option (List (String × Literal))
  | [] => some []
  | .array [.string name, value] :: rest => do
    return (name, ← ofTree? passage value) :: (← pairs? passage rest)
  | _ :: _ => none

end

end SpatialQuery.Literal
