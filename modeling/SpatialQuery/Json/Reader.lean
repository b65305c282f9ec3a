import SpatialQuery.Json.Token

namespace SpatialQuery.Json

/-- A container that is still open, with what it holds so far, the latest first. -/
inductive Open where
  | array (items : List Tree)
  /-- With the name of its latest member. -/
  | object (members : List (Option String × Tree)) (name : Option String)

/-- The deepest level at which a container can be held. -/
def maxDepth : Nat := 127

/-- A container at a level, now that it is closed. -/
def Open.close (level : Nat) : Open → Tree
  | .array items => if level ≤ maxDepth then .array items.reverse else .unreadable
  | .object members _ =>
    match members.reverse.mapM fun (name, value) => name.map (·, value) with
    | some members => if level ≤ maxDepth then .object members else .unreadable
    | none => .unreadable

namespace Tree

/-- What may come next. The innermost open container stands first. -/
inductive State where
  | beforeValue (around : List Open)
  | beforeValueOrEnd (around : List Open)
  | beforeName (around : List Open)
  | beforeNameOrEnd (around : List Open)
  | beforeColon (around : List Open)
  | beforeCommaOrEnd (around : List Open)
  | done (value : Tree)

namespace State

def give (value : Tree) : List Open → State
  | [] => .done value
  | .array items :: around => .beforeCommaOrEnd (.array (value :: items) :: around)
  | .object members name :: around =>
    .beforeCommaOrEnd (.object ((name, value) :: members) name :: around)

def close? : List Open → Option State
  | [] => none
  | inner :: around => some (give (inner.close (around.length + 1)) around)

def begin? (around : List Open) : Token → Option State
  | .leaf value => some (give value around)
  | .string text => some (give ((text.map Tree.string).getD .unreadable) around)
  | .openBracket => some (.beforeValueOrEnd (.array [] :: around))
  | .openBrace => some (.beforeNameOrEnd (.object [] none :: around))
  | _ => none

def member? : List Open → Token → Option State
  | .object members _ :: around, .string name => some (.beforeColon (.object members name :: around))
  | _, _ => none

def step? : State → Token → Option State
  | .beforeValue around, token => begin? around token
  | .beforeValueOrEnd around, .closeBracket => close? around
  | .beforeValueOrEnd around, token => begin? around token
  | .beforeName around, token => member? around token
  | .beforeNameOrEnd around, .closeBrace => close? around
  | .beforeNameOrEnd around, token => member? around token
  | .beforeColon around, .colon => some (.beforeValue around)
  | .beforeCommaOrEnd (.array items :: around), .comma => some (.beforeValue (.array items :: around))
  | .beforeCommaOrEnd (.array items :: around), .closeBracket => close? (.array items :: around)
  | .beforeCommaOrEnd (.object members name :: around), .comma =>
    some (.beforeName (.object members name :: around))
  | .beforeCommaOrEnd (.object members name :: around), .closeBrace =>
    close? (.object members name :: around)
  | _, _ => none

end State

def read? (text : String) : Option Tree := do
  let tokens ← Token.scan? text.toList
  match ← tokens.foldlM State.step? (.beforeValue []) with
  | .done value => return value
  | _ => none

end Tree

def read? (text : String) : Option Json := Tree.read? text >>= Tree.toJson?

end SpatialQuery.Json
