import SpatialQuery.Json.Tree

namespace SpatialQuery.Json

/-- A text form of JSON: what stands in a text, and the text of a value. -/
structure Format where
  tree? : String → Option Tree
  pretty : Json → String

/-- What a text holds, by what is made of the value in it. -/
def Format.read? {α : Type} (format : Format) (ofTree? : Tree → Option α) (text : String) : Option α :=
  format.tree? text >>= ofTree?

end SpatialQuery.Json
