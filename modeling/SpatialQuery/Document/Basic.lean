import SpatialQuery.Literal.Basic

/-! Executable documents. Each fragment spread has become an inline fragment with its type condition. -/
namespace SpatialQuery

/-- A position in the text of a query, counted from one; zeros where none is known. -/
structure Location where
  line : UInt32
  column : UInt32
  deriving DecidableEq, Repr

def Location.unknown : Location := ⟨0, 0⟩

/-- An argument as it is written where it is supplied. -/
structure Argument where
  name : String
  value : Literal
  location : Location := .unknown

structure Directive where
  name : String
  arguments : List Argument := []
  location : Location := .unknown

/-- A field, or a group of selections with an optional type condition. -/
inductive Selection where
  | field (name : String) (arguments : List Argument) (directives : List Directive)
      (selections : List Selection) (location : Location)
  | inlineFragment (typeCondition : Option String) (directives : List Directive)
      (selections : List Selection) (location : Location)

inductive OperationKind where
  | query
  | mutation
  | subscription
  deriving DecidableEq, Repr

namespace OperationKind

def all : List OperationKind := [.query, .mutation, .subscription]

def name : OperationKind → String
  | .query => "query"
  | .mutation => "mutation"
  | .subscription => "subscription"

def ofName? (name : String) : Option OperationKind := all.find? fun kind => kind.name = name

theorem ofName?_name (kind : OperationKind) : ofName? kind.name = some kind := by
  cases kind <;> decide

end OperationKind

structure Operation where
  kind : OperationKind := .query
  name : Option String := none
  directives : List Directive := []
  selections : List Selection := []
  location : Location := .unknown

structure Document where
  operations : List Operation

/-- A document that is one anonymous query. -/
def Document.query (selections : List Selection) : Document := ⟨[{ selections }]⟩

end SpatialQuery
