import SpatialQuery.Geometry.Basic

namespace SpatialQuery.Geometry

/-- Finite numbers in nested lists. -/
inductive Nested where
  | number (x : Binary64.Finite)
  | list (items : List Nested)
  deriving Repr

namespace Nested

/-- What keeps data from being coordinates. -/
inductive Flaw where
  /-- A literal that is neither a number nor a list. -/
  | literal (found : Literal.Kind)
  /-- A JSON value that is neither a number nor an array. -/
  | json
  | notFinite
  | notList
  | tooDeep
  | positionLength (found : Nat)
  deriving DecidableEq, Repr

def Flaw.message : Flaw → String
  | .literal found => s!"coordinates may only contain numbers and lists, found {found.word}"
  | .json => "coordinates may only contain numbers and arrays"
  | .notFinite => "coordinates must be finite numbers"
  | .notList => "expected a list of coordinates, found a number"
  | .tooDeep => "coordinates are nested too deeply"
  | .positionLength found => s!"a position needs exactly 2 numbers, found {found}"

def ofNumber (x : Binary64) : Except Flaw Nested :=
  match x with
  | .finite x => .ok (.number x)
  | _ => .error .notFinite

mutual

def ofLiteral : Literal → Except Flaw Nested
  | .int n => ofNumber (.ofInt n.toInt)
  | .float x => ofNumber x
  | .list items => (ofLiterals items).map .list
  | .null => .error (.literal .null)
  | .string _ => .error (.literal .string)
  | .boolean _ => .error (.literal .boolean)
  | .enum _ => .error (.literal .enum)
  | .object _ => .error (.literal .object)

def ofLiterals : List Literal → Except Flaw (List Nested)
  | [] => .ok []
  | item :: rest => do return (← ofLiteral item) :: (← ofLiterals rest)

end

mutual

def ofJson : Json → Except Flaw Nested
  | .number n => ofNumber n.toBinary64
  | .array items => (ofJsons items).map .list
  | _ => .error .json

def ofJsons : List Json → Except Flaw (List Nested)
  | [] => .ok []
  | item :: rest => do return (← ofJson item) :: (← ofJsons rest)

end

def isList : Nested → Bool
  | .list _ => true
  | .number _ => false

def items : Nested → Except Flaw (List Nested)
  | .list items => .ok items
  | .number _ => .error .notList

/-- A position is a list of two numbers. -/
def position (nested : Nested) : Except Flaw Position :=
  match nested with
  | .number _ => .error .notList
  | .list [.number x, .number y] => .ok ⟨.finite x, .finite y⟩
  | .list items =>
    if items.any isList then .error .tooDeep else .error (.positionLength items.length)

def path (nested : Nested) : Except Flaw (List Position) := do (← nested.items).mapM position

def paths (nested : Nested) : Except Flaw (List (List Position)) := do (← nested.items).mapM path

def groups (nested : Nested) : Except Flaw (List (List (List Position))) := do
  (← nested.items).mapM paths

def coordinates (kind : Kind) (nested : Nested) : Except Flaw Coordinates :=
  match kind.depth with
  | 0 => nested.position.map .position
  | 1 => nested.path.map .path
  | 2 => nested.paths.map .paths
  | _ => nested.groups.map .groups

end Nested
end SpatialQuery.Geometry
