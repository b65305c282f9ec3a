import SpatialQuery.CommandLine.Run

namespace SpatialQuery.CommandLine

def Command.files : Command → List String
  | .validate schema input => schema :: input.toList
  | .serialize _ input _ => input.toList
  | .print _ input => input.toList

def Command.readsInput : Command → Bool
  | .validate _ input | .serialize _ input _ | .print _ input => input.isNone

def textOf (path : String) : IO (Option String) := do
  try return some (← IO.FS.readFile path) catch _ => return none

def textOfInput : IO (Option String) := do
  return String.fromUTF8? (← (← IO.getStdin).readBinToEnd)

/-- All that a command reads, and trust that it can write. -/
def surroundings (command : Command) : IO Surroundings := do
  let texts ← command.files.mapM fun path => return (path, ← textOf path)
  let input ← if command.readsInput then textOfInput else pure none
  return { file? := fun path => (texts.lookup path).join, input? := input, isWritable := fun _ => true }

/-- Writes the file of an outcome, if it has one, and tells whether that went well. -/
def write (outcome : Outcome) : IO Bool := do
  match outcome.written with
  | none => return true
  | some (path, text) =>
    try
      IO.FS.writeFile path text
      return true
    catch _ => return false

def finish (outcome : Outcome) : IO UInt32 := do
  IO.print outcome.output
  if let some failure := outcome.failure then
    IO.eprintln s!"Error: {failure.message}"
    if let some cause := failure.cause? then
      IO.eprintln s!"\nCaused by:\n    {cause}"
  return outcome.code

/-- Runs a command line. A run whose file turns out not to be writable is the run of one that cannot
write. -/
def execute (words : List String) : IO UInt32 := do
  match parse words with
  | .error stop => finish (.ofStop stop)
  | .ok command =>
    let around ← surroundings command
    let outcome := run around words
    if ← write outcome then finish outcome
    else finish (run { around with isWritable := fun _ => false } words)

end SpatialQuery.CommandLine

def main (words : List String) : IO UInt32 := SpatialQuery.CommandLine.execute words
