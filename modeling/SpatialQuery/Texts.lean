import SpatialQuery.Document.Codec
import SpatialQuery.Json.Format
import SpatialQuery.Json.Printer
import SpatialQuery.Json.Reader
import SpatialQuery.Schema.Codec

namespace SpatialQuery

open Json (Format)

/-- The text form that the program has when it runs. What is said of a run holds in every other, too. -/
def Json.Format.standard : Format := ⟨Json.Tree.read?, Json.pretty⟩

def ArgumentDefinition.read? : String → Option ArgumentDefinition := Format.standard.read? ofTree?

def ArgumentDefinition.readList? : String → Option (List ArgumentDefinition) :=
  Format.standard.read? listOfTree?

def Schema.read? : String → Option Schema := Format.standard.read? ofTree?

def Document.read? : String → Option Document := Format.standard.read? ofTree?

end SpatialQuery
