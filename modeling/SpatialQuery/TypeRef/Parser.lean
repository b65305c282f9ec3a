import SpatialQuery.Text.Blank
import SpatialQuery.TypeRef.Basic

namespace SpatialQuery.TypeRef

def isNameStart (c : Char) : Bool := c.isAlpha || c = '_'

def isNameChar (c : Char) : Bool := c.isAlphanum || c = '_'

def isName : List Char → Bool
  | [] => false
  | first :: rest => isNameStart first && rest.all isNameChar

/-- The reference that a whole text denotes. A non-null form of a non-null form denotes nothing. -/
def parse? (text : List Char) : Option TypeRef :=
  if _last : (Text.trim text).getLast? = some '!' then do
    let inner ← parse? (Text.trim text).dropLast
    if inner.isNonNull then none else some (.nonNull inner)
  else
    match _shape : Text.trim text with
    | '[' :: rest =>
      if rest.getLast? = some ']' then (parse? rest.dropLast).map .list else none
    | _ =>
      if isName (Text.trim text) then some (.named (String.ofList (Text.trim text))) else none
termination_by text.length
decreasing_by
  · have bound := Text.length_trim_le text
    have nonempty := List.length_pos_of_mem (List.mem_of_getLast? _last)
    rw [List.length_dropLast]
    omega
  · have bound := Text.length_trim_le text
    rw [_shape, List.length_cons] at bound
    rw [List.length_dropLast]
    omega

/-- A text that is no type reference, as it was given. -/
structure ParseError where
  text : String
  deriving DecidableEq, Repr

def ParseError.message (error : ParseError) : String := s!"invalid type reference `{error.text}`"

def ofString (text : String) : Except ParseError TypeRef :=
  match parse? text.toList with
  | some type => .ok type
  | none => .error ⟨text⟩

end SpatialQuery.TypeRef
