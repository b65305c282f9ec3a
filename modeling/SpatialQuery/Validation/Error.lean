import SpatialQuery.Document.Codec

namespace SpatialQuery

structure ValidationError where
  message : String
  locations : List Location := []
  extensions : List (String × Json) := []

namespace ValidationError

def withLocation (error : ValidationError) (location : Location) : ValidationError :=
  { error with locations := error.locations ++ [location] }

/-- States a fact; one already stated under the name is replaced in its place. -/
def withExtension (error : ValidationError) (name : String) (value : Json) : ValidationError :=
  { error with extensions := Json.put name value error.extensions }

/-- The serialized form, without members for empty lists. -/
def toJson (error : ValidationError) : Json :=
  .object (("message", .string error.message) ::
    ((if error.locations.isEmpty then []
      else [("locations", .array (error.locations.map Location.toJson))]) ++
    (if error.extensions.isEmpty then [] else [("extensions", .object error.extensions)])))

end ValidationError
end SpatialQuery
