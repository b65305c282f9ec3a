import SpatialQuery.CommandLine.Arguments
import SpatialQuery.Texts

namespace SpatialQuery.CommandLine

/-- A call for help has no output of its own here. -/
def Outcome.ofStop : Stop → Outcome
  | .help => { code := 0 }
  | .version => { code := 0, output := line "geoql 0.1.0" }
  | .usage => { code := 2 }

/-- The run of the command that some words ask for. -/
def run (around : Surroundings) (words : List String) : Outcome :=
  match parse words with
  | .error stop => .ofStop stop
  | .ok command => command.run .standard around

end SpatialQuery.CommandLine
