import Std.Data.ExtTreeMap
import SpatialQuery.Schema.TypeSystem

/-! Schemas: a type system as tables, from what is declared at once or step by step. Each schema has the
directives `skip` and `include`, which it may define anew but cannot be without. -/
namespace SpatialQuery

open Std (ExtTreeMap)

structure FieldDefinition where
  type : TypeRef
  arguments : List ArgumentDefinition := []

structure Schema where
  query : String
  mutation : Option String
  subscription : Option String
  types : ExtTreeMap String (ExtTreeMap String FieldDefinition)
  directives : ExtTreeMap String (List ArgumentDefinition)

namespace Schema

/-- Adds entries in turn; a later one replaces an earlier one of its name. -/
def insertAll {α : Type} (map : ExtTreeMap String α) (entries : List (String × α)) :
    ExtTreeMap String α :=
  entries.foldl (fun map (name, value) => map.insert name value) map

/-- The condition that both `skip` and `include` take. -/
def condition : List ArgumentDefinition := [{ name := "if", type := .nonNull (.named "Boolean") }]

def builtinDirectives : ExtTreeMap String (List ArgumentDefinition) :=
  insertAll ∅ [("skip", condition), ("include", condition)]

def defaultQuery : String := "Query"

def empty : Schema := ⟨defaultQuery, none, none, ∅, builtinDirectives⟩

def field? (schema : Schema) (parentType name : String) : Option FieldDefinition :=
  schema.types[parentType]? >>= (·[name]?)

def typeSystem (schema : Schema) : TypeSystem where
  arguments
    | .field parentType name => (schema.field? parentType name).map (·.arguments)
    | .directive name => schema.directives[name]?
  fieldType parentType name := (schema.field? parentType name).map (·.type)
  rootType
    | .query => some schema.query
    | .mutation => schema.mutation
    | .subscription => schema.subscription

/-- What a schema declares itself, before the directives that each schema has. -/
structure Declarations where
  query : String := defaultQuery
  mutation : Option String := none
  subscription : Option String := none
  types : ExtTreeMap String (ExtTreeMap String FieldDefinition) := ∅
  directives : ExtTreeMap String (List ArgumentDefinition) := ∅

/-- The schema of declarations. Its own directives are added to those that are always there. -/
def Declarations.schema (declarations : Declarations) : Schema where
  query := declarations.query
  mutation := declarations.mutation
  subscription := declarations.subscription
  types := declarations.types
  directives := insertAll builtinDirectives declarations.directives.toList

inductive Step where
  | root (kind : OperationKind) (name : String)
  | field (parentType name : String) (definition : FieldDefinition)
  | directive (name : String) (arguments : List ArgumentDefinition)

def Declarations.step (declarations : Declarations) : Step → Declarations
  | .root .query name => { declarations with query := name }
  | .root .mutation name => { declarations with mutation := some name }
  | .root .subscription name => { declarations with subscription := some name }
  | .field parentType name definition =>
    { declarations with
      types := declarations.types.insert parentType
        ((declarations.types.getD parentType ∅).insert name definition) }
  | .directive name arguments =>
    { declarations with directives := declarations.directives.insert name arguments }

def Declarations.ofSteps (steps : List Step) : Declarations := steps.foldl Declarations.step {}

/-- The schema that steps build from nothing. -/
def build (steps : List Step) : Schema := (Declarations.ofSteps steps).schema

end Schema
end SpatialQuery
