import SpatialQuery.Validation.RequiredArguments

namespace SpatialQuery

structure ValidationRule where
  name : String
  /-- Adds the errors of a document to those found before. -/
  check : TypeSystem → Document → Array ValidationError → Array ValidationError

def RequiredArguments.rule : ValidationRule := ⟨"RequiredArgumentRule", check⟩

/-- Rules in the order in which they run. -/
structure Validator where
  rules : List ValidationRule

namespace Validator

def standard : Validator := ⟨[RequiredArguments.rule]⟩

def validate (validator : Validator) (system : TypeSystem) (document : Document) :
    Array ValidationError :=
  validator.rules.foldl (fun errors rule => rule.check system document errors) #[]

/-- Lets a document pass that has no errors. -/
def gate (errors : Array ValidationError) : Except (Array ValidationError) Unit :=
  if errors.isEmpty then .ok () else .error errors

end Validator

/-- The errors of a document under the standard rules. -/
def Document.validate (system : TypeSystem) (document : Document) : Array ValidationError :=
  Validator.standard.validate system document

end SpatialQuery
