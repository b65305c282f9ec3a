import SpatialQuery.Proofs.Schema.Table

namespace SpatialQuery.Schema

open Std (ExtTreeMap)
open Json (Tree)

/-- What a step sets. -/
inductive Key where
  | root (kind : OperationKind)
  | field (parentType name : String)
  | directive (name : String)
  deriving DecidableEq

namespace Step

def key : Step → Key
  | .root kind _ => .root kind
  | .field parentType name _ => .field parentType name
  | .directive name _ => .directive name

def root? (kind : OperationKind) : Step → Option String
  | .root other name => if other = kind then some name else none
  | _ => none

def field? (parentType name : String) : Step → Option FieldDefinition
  | .field otherType otherName definition =>
    if otherType = parentType ∧ otherName = name then some definition else none
  | _ => none

def directive? (name : String) : Step → Option (List ArgumentDefinition)
  | .directive other arguments => if other = name then some arguments else none
  | _ => none

end Step

namespace Declarations

def root? (declarations : Declarations) : OperationKind → Option String
  | .query => some declarations.query
  | .mutation => declarations.mutation
  | .subscription => declarations.subscription

def field? (declarations : Declarations) (parentType name : String) : Option FieldDefinition :=
  declarations.types[parentType]? >>= (·[name]?)

/-- Declarations that hold what steps set last under each key, and no more. -/
structure Holds (declarations : Declarations) (steps : List Step) : Prop where
  query : declarations.query = (steps.findSomeRev? (Step.root? .query)).getD defaultQuery
  mutation : declarations.mutation = steps.findSomeRev? (Step.root? .mutation)
  subscription : declarations.subscription = steps.findSomeRev? (Step.root? .subscription)
  fields (parentType name : String) :
    declarations.field? parentType name = steps.findSomeRev? (Step.field? parentType name)
  inhabited (parentType : String) (fields : ExtTreeMap String FieldDefinition)
    (h : declarations.types[parentType]? = some fields) : fields ≠ ∅
  directives (name : String) :
    declarations.directives[name]? = steps.findSomeRev? (Step.directive? name)

/-- There is only one way to hold what steps set. -/
theorem Holds.unique {declarations others : Declarations} {steps : List Step}
    (h : declarations.Holds steps) (ho : others.Holds steps) : declarations = others := by
  have types : declarations.types = others.types :=
    ext_entries h.inhabited ho.inhabited fun parentType name =>
      (h.fields parentType name).trans (ho.fields parentType name).symm
  have directives : declarations.directives = others.directives :=
    ExtTreeMap.ext_getElem? fun name => (h.directives name).trans (ho.directives name).symm
  cases declarations
  cases others
  rw [mk.injEq]
  exact ⟨h.query.trans ho.query.symm, h.mutation.trans ho.mutation.symm,
    h.subscription.trans ho.subscription.symm, types, directives⟩

end Declarations

namespace Step

end Step

/-- What a schema answers of what steps set, by the step that set it last. -/
structure Answers (system : TypeSystem) (steps : List Step) : Prop where
  query : system.rootType .query = some ((steps.findSomeRev? (Step.root? .query)).getD "Query")
  mutation : system.rootType .mutation = steps.findSomeRev? (Step.root? .mutation)
  subscription : system.rootType .subscription = steps.findSomeRev? (Step.root? .subscription)
  fieldType (parentType name : String) : system.fieldType parentType name =
    (steps.findSomeRev? (Step.field? parentType name)).map (·.type)
  fieldArguments (parentType name : String) : system.arguments (.field parentType name) =
    (steps.findSomeRev? (Step.field? parentType name)).map (·.arguments)
  directive (name : String) : system.arguments (.directive name) =
    (steps.findSomeRev? (Step.directive? name)).or
      (if name = "skip" ∨ name = "include" then
        some [{ name := "if", type := .nonNull (.named "Boolean") }] else none)

end SpatialQuery.Schema
