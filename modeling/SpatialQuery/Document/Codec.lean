import SpatialQuery.Document.Basic
import SpatialQuery.Json.Record
import SpatialQuery.Literal.Codec

namespace SpatialQuery

open Json (Tree Passage)

namespace Location

def toJson (location : Location) : Json :=
  .object [("line", .number (.ofUInt32 location.line)),
    ("column", .number (.ofUInt32 location.column))]

def ofTree? (tree : Tree) : Option Location := do
  let [line, column] ← tree.fields? ["line", "column"] | none
  return ⟨← Tree.required Tree.uint32? line, ← Tree.required Tree.uint32? column⟩

end Location

namespace Argument

def toJson (argument : Argument) : Json :=
  .object [("name", .string argument.name), ("value", argument.value.toJson),
    ("location", argument.location.toJson)]

def ofTree? (passage : Passage) (tree : Tree) : Option Argument := do
  let [name, value, location] ← tree.fields? ["name", "value", "location"] | none
  return {
    name := ← Tree.required Tree.string? name
    value := ← Tree.required (Literal.ofTree? passage) value
    location := ← Tree.optional .unknown Location.ofTree? location }

end Argument

namespace Directive

def toJson (directive : Directive) : Json :=
  .object [("name", .string directive.name),
    ("arguments", .array (directive.arguments.map Argument.toJson)),
    ("location", directive.location.toJson)]

def ofTree? (passage : Passage) (tree : Tree) : Option Directive := do
  let [name, arguments, location] ← tree.fields? ["name", "arguments", "location"] | none
  return {
    name := ← Tree.required Tree.string? name
    arguments := ← Tree.optional [] (Tree.list? (Argument.ofTree? passage)) arguments
    location := ← Tree.optional .unknown Location.ofTree? location }

end Directive

namespace Selection

/-- Which of the two a selection is. -/
inductive Shape where
  | field
  | inlineFragment
  deriving DecidableEq, Repr

namespace Shape

/-- Both shapes, in the order that numbers them from zero. -/
def all : List Shape := [.field, .inlineFragment]

def tag : Shape → String
  | .field => "Field"
  | .inlineFragment => "InlineFragment"

/-- The names of a shape's fields, in order. -/
def fieldNames : Shape → List String
  | .field => ["name", "arguments", "directives", "selection_set", "location"]
  | .inlineFragment => ["type_condition", "directives", "selection_set", "location"]

/-- The shape in a member of an object or at the start of an array. -/
def ofTree? (passage : Passage) : Tree → Option Shape := Tree.oneOf? passage all tag

end Shape

mutual

def toJson : Selection → Json
  | .field name arguments directives selections location =>
    .object [("kind", .string Shape.field.tag), ("name", .string name),
      ("arguments", .array (arguments.map Argument.toJson)),
      ("directives", .array (directives.map Directive.toJson)),
      ("selection_set", .array (allToJson selections)), ("location", location.toJson)]
  | .inlineFragment typeCondition directives selections location =>
    .object [("kind", .string Shape.inlineFragment.tag),
      ("type_condition", (typeCondition.map Json.string).getD .null),
      ("directives", .array (directives.map Directive.toJson)),
      ("selection_set", .array (allToJson selections)), ("location", location.toJson)]

def allToJson : List Selection → List Json
  | [] => []
  | selection :: rest => toJson selection :: allToJson rest

end

/-- A selection from its fields, given its nested selections where it has any. -/
def ofFields? (passage : Passage) (selections : Option (List Selection)) :
    Shape → List (Option Tree) → Option Selection
  | .field, [name, arguments, directives, _, location] => do
    return .field (← Tree.required Tree.string? name)
      (← Tree.optional [] (Tree.list? (Argument.ofTree? passage)) arguments)
      (← Tree.optional [] (Tree.list? (Directive.ofTree? passage)) directives)
      (selections.getD []) (← Tree.optional .unknown Location.ofTree? location)
  | .inlineFragment, [typeCondition, directives, _, location] => do
    return .inlineFragment (← Tree.optional none (Tree.nullable? Tree.string?) typeCondition)
      (← Tree.optional [] (Tree.list? (Directive.ofTree? passage)) directives)
      (← selections) (← Tree.optional .unknown Location.ofTree? location)
  | _, _ => none

mutual

/-- The selection in a tree that can be held: an object with `kind` and its fields, or an array of
these in order. It is held back as a whole before its shape is looked at, so all in it is. -/
def ofHeld? (passage : Passage) : Tree → Option Selection
  | .object members => do
    if !Tree.distinct ["kind"] members then none
    let shape ← members.lookup "kind" >>= Shape.ofTree? passage
    ofFields? .held (← nestedIn? members) shape (← Tree.fields? shape.fieldNames (.object members))
  | .array (kind :: items) => do
    let shape ← Shape.ofTree? passage kind
    ofFields? .held (← nestedAt? (shape.fieldNames.idxOf "selection_set") items) shape
      (← Tree.fields? shape.fieldNames (.array items))
  | _ => none

/-- The selections of the member `selection_set`, if there is one. -/
def nestedIn? : List (String × Tree) → Option (Option (List Selection))
  | [] => some none
  | (name, value) :: rest =>
    if name = "selection_set" then (allHeld? value).map some else nestedIn? rest

/-- The selections at a place among items, if there is one. -/
def nestedAt? : Nat → List Tree → Option (Option (List Selection))
  | _, [] => some none
  | 0, value :: _ => (allHeld? value).map some
  | place + 1, _ :: rest => nestedAt? place rest

/-- Nested selections have been held back together with the one around them. -/
def allHeld? : Tree → Option (List Selection)
  | .array items => eachHeld? items
  | _ => none

def eachHeld? : List Tree → Option (List Selection)
  | [] => some []
  | item :: rest => do return (← ofHeld? .held item) :: (← eachHeld? rest)

end

def ofTree? (tree : Tree) : Option Selection :=
  if tree.isReadable then ofHeld? .direct tree else none

def shape : Selection → Shape
  | .field .. => .field
  | .inlineFragment .. => .inlineFragment

/-- The values of a selection's fields, in the order of their names. -/
def fieldValues : Selection → List Json
  | .field name arguments directives selections location =>
    [.string name, .array (arguments.map Argument.toJson), .array (directives.map Directive.toJson),
      .array (selections.map toJson), location.toJson]
  | .inlineFragment typeCondition directives selections location =>
    [(typeCondition.map Json.string).getD .null, .array (directives.map Directive.toJson),
      .array (selections.map toJson), location.toJson]

/-- A selection on its own, as a record that does not tell its shape. -/
def toRecord (selection : Selection) : Json :=
  .object (selection.shape.fieldNames.zip selection.fieldValues)

/-- The selection of a known shape in a record that does not tell it. -/
def ofRecord? (shape : Shape) (tree : Tree) : Option Selection := do
  let fields ← tree.fields? shape.fieldNames
  let selections := fields.getD (shape.fieldNames.idxOf "selection_set") none
  ofFields? .direct (← selections.mapM (Tree.list? ofTree?)) shape fields

end Selection

namespace Operation

def toJson (operation : Operation) : Json :=
  .object [("kind", .string operation.kind.name),
    ("name", (operation.name.map Json.string).getD .null),
    ("directives", .array (operation.directives.map Directive.toJson)),
    ("selection_set", .array (operation.selections.map Selection.toJson)),
    ("location", operation.location.toJson)]

def ofTree? (tree : Tree) : Option Operation := do
  let [kind, name, directives, selections, location] ←
    tree.fields? ["kind", "name", "directives", "selection_set", "location"] | none
  return {
    kind := ← Tree.optional .query (fun tree => tree.choice? .direct >>= OperationKind.ofName?) kind
    name := ← Tree.optional none (Tree.nullable? Tree.string?) name
    directives := ← Tree.optional [] (Tree.list? (Directive.ofTree? .direct)) directives
    selections := ← Tree.required (Tree.list? Selection.ofTree?) selections
    location := ← Tree.optional .unknown Location.ofTree? location }

end Operation

namespace Document

def toJson (document : Document) : Json :=
  .object [("operations", .array (document.operations.map Operation.toJson))]

def ofTree? (tree : Tree) : Option Document := do
  let [operations] ← tree.fields? ["operations"] | none
  return ⟨← Tree.required (Tree.list? Operation.ofTree?) operations⟩

end Document
end SpatialQuery
