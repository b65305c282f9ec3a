import SpatialQuery.Json.Record
import SpatialQuery.Literal.Codec
import SpatialQuery.Schema.Basic
import SpatialQuery.TypeRef.Parser

namespace SpatialQuery

open Std (ExtTreeMap)
open Json (Tree)

def TypeRef.ofTree? (tree : Tree) : Option TypeRef :=
  tree.string? >>= fun text => TypeRef.parse? text.toList

namespace ArgumentDefinition

/-- A definition without a default value has no member for it. -/
def toJson (definition : ArgumentDefinition) : Json :=
  .object ([("name", .string definition.name), ("type", .string definition.type.toString)] ++
    (definition.defaultValue.map fun value => ("default_value", value.toJson)).toList)

def ofTree? (tree : Tree) : Option ArgumentDefinition := do
  let [name, type, defaultValue] ← tree.fields? ["name", "type", "default_value"] | none
  return {
    name := ← Tree.required Tree.string? name
    type := ← Tree.required TypeRef.ofTree? type
    defaultValue := ← Tree.optional none (Tree.nullable? (Literal.ofTree? .direct)) defaultValue }

def listOfTree? : Tree → Option (List ArgumentDefinition) := Tree.list? ofTree?

end ArgumentDefinition

namespace FieldDefinition

def toJson (definition : FieldDefinition) : Json :=
  .object [("type", .string definition.type.toString),
    ("arguments", .array (definition.arguments.map ArgumentDefinition.toJson))]

def ofTree? (tree : Tree) : Option FieldDefinition := do
  let [type, arguments] ← tree.fields? ["type", "arguments"] | none
  return {
    type := ← Tree.required TypeRef.ofTree? type
    arguments := ← Tree.optional [] ArgumentDefinition.listOfTree? arguments }

end FieldDefinition

namespace Schema

def tableToJson {α : Type} (write : α → Json) (table : ExtTreeMap String α) : Json :=
  .object (table.toList.map fun (name, value) => (name, write value))

def tableOfTree? {α : Type} (read : Tree → Option α) (tree : Tree) : Option (ExtTreeMap String α) :=
  (tree.entries? read).map (insertAll ∅)

def toJson (schema : Schema) : Json :=
  .object [("query", .string schema.query),
    ("mutation", (schema.mutation.map Json.string).getD .null),
    ("subscription", (schema.subscription.map Json.string).getD .null),
    ("types", tableToJson (tableToJson FieldDefinition.toJson) schema.types),
    ("directives", tableToJson
      (fun arguments => .array (arguments.map ArgumentDefinition.toJson)) schema.directives)]

def Declarations.ofTree? (tree : Tree) : Option Declarations := do
  let [query, mutation, subscription, types, directives] ←
    tree.fields? ["query", "mutation", "subscription", "types", "directives"] | none
  return {
    query := ← Tree.optional defaultQuery Tree.string? query
    mutation := ← Tree.optional none (Tree.nullable? Tree.string?) mutation
    subscription := ← Tree.optional none (Tree.nullable? Tree.string?) subscription
    types := ← Tree.optional ∅ (tableOfTree? (tableOfTree? FieldDefinition.ofTree?)) types
    directives := ← Tree.optional ∅ (tableOfTree? ArgumentDefinition.listOfTree?) directives }

/-- The schema whose declarations are in a tree. -/
def ofTree? (tree : Tree) : Option Schema := (Declarations.ofTree? tree).map Declarations.schema

end Schema
end SpatialQuery
