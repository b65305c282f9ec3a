import SpatialQuery.Json.Format
import SpatialQuery.Scalar.Registry
import SpatialQuery.Schema.Codec
import SpatialQuery.Validation.Validator

/-! What a command does, given a text form of JSON, what it can read and where it can write. -/
namespace SpatialQuery.CommandLine

open Json (Format Tree)

inductive Command where
  /-- Checks a document against a schema. -/
  | validate (schema : String) (input : Option String)
  /-- Brings a JSON value into the serialized form of a type. -/
  | serialize (type : String) (input output : Option String)
  /-- Prints a JSON value as a literal of a type. -/
  | print (type : String) (input : Option String)
  deriving DecidableEq, Repr

/-- What a run finds around it. -/
structure Surroundings where
  /-- The text of a file; none if there is no such text. -/
  file? : String → Option String
  input? : Option String
  /-- Whether a file at a path can be opened, and emptied, to write to it. -/
  isWritable : String → Bool
  /-- What is left in a file where writing a text to it breaks off; none where all of it is written. -/
  broken? : String → String → Option String := fun _ _ => none

inductive Failure where
  | file (path : String)
  | input
  | schema (path : String)
  | document
  | json
  | unknownScalar (name : String)
  | deserialize (type : String) (cause : CoercionError)
  | serialize (type : String) (cause : CoercionError)
  | literal (type : String) (cause : CoercionError)
  | notJson (value : Value)
  /-- With what is left in the file if it could be opened. -/
  | unwritable (path : String) (left : Option String)

namespace Failure

def message : Failure → String
  | .file path => s!"Failed to read file: {path}"
  | .input => "Failed to read from stdin"
  | .schema path => s!"Failed to parse schema: {path}"
  | .document => "Failed to parse document"
  | .json => "Failed to parse input as JSON"
  | .unknownScalar name =>
    s!"Unknown scalar type: '{name}'. Available types: " ++ ", ".intercalate Registry.standard.names
  | .deserialize type _ => s!"Failed to deserialize value as {type}"
  | .serialize type _ => s!"Failed to serialize value as {type}"
  | .literal type _ => s!"Failed to convert value to a {type} literal"
  | .notJson value => s!"Serializer returned a {value.describe} instead of JSON"
  | .unwritable path _ => s!"Failed to write file: {path}"

def cause? : Failure → Option CoercionError
  | .deserialize _ cause | .serialize _ cause | .literal _ cause => some cause
  | _ => none

/-- The file that is left with less than the text that it was to hold. -/
def left? : Failure → Option (String × String)
  | .unwritable path left => left.map (path, ·)
  | _ => none

end Failure

/-- What a run does in the end. -/
inductive Effect where
  /-- Prints errors, none of which may be there for a success. -/
  | report (errors : Array ValidationError)
  | show (text : String)
  | write (path text : String)

/-- The text at a path, or of the standard input without one. -/
def read (around : Surroundings) : Option String → Except Failure String
  | some path =>
    match around.file? path with
    | some text => .ok text
    | none => .error (.file path)
  | none =>
    match around.input? with
    | some text => .ok text
    | none => .error .input

def orFail {α : Type} (failure : Failure) : Option α → Except Failure α
  | some value => .ok value
  | none => .error failure

def scalar (name : String) : Except Failure Scalar :=
  orFail (.unknownScalar name) (Registry.standard.get? name)

def readJson (format : Format) (around : Surroundings) (path : Option String) :
    Except Failure Json := do
  orFail .json (format.read? Tree.toJson? (← read around path))

/-- A serialized value has to be JSON; absence is null. -/
def json : Option Value → Except Failure Json
  | none => .ok .null
  | some (.json value) => .ok value
  | some other => .error (.notJson other)

/-- Shows a text, or writes it to a file. -/
def deliver (around : Surroundings) (output : Option String) (text : String) :
    Except Failure Effect :=
  match output with
  | some path =>
    if around.isWritable path then
      match around.broken? path text with
      | some left => .error (.unwritable path (some left))
      | none => .ok (.write path text)
    else .error (.unwritable path none)
  | none => .ok (.show text)

def perform (format : Format) (around : Surroundings) : Command → Except Failure Effect
  | .validate schemaPath input => do
    let schema ← orFail (.schema schemaPath)
      (format.read? Schema.ofTree? (← read around (some schemaPath)))
    let document ← orFail .document (format.read? Document.ofTree? (← read around input))
    return .report (document.validate schema.typeSystem)
  | .serialize type input output => do
    let scalar ← scalar type
    let value ← readJson format around input
    let runtime ← (scalar.deserialize (some (.json value))).mapError (.deserialize type)
    let serialized ← (scalar.serialize runtime).mapError (.serialize type)
    deliver around output (format.pretty (← json serialized))
  | .print type input => do
    let scalar ← scalar type
    let value ← readJson format around input
    let literal ← (scalar.parseResult (some (.json value))).mapError (.literal type)
    return .show literal.toString

/-- What is seen of a run from outside. -/
structure Outcome where
  code : UInt32
  output : String := ""
  failure : Option Failure := none
  /-- The one file that was written, with its text. -/
  written : Option (String × String) := none
  /-- The one file whose writing broke off, with what is left in it. -/
  left : Option (String × String) := none

/-- The last line, too, ends with a line feed. -/
def line (text : String) : String := text ++ "\n"

namespace Outcome

def ofEffect (format : Format) : Effect → Outcome
  | .report errors =>
    { code := if errors.isEmpty then 0 else 1
      output := line (format.pretty (.array (errors.toList.map ValidationError.toJson))) }
  | .show text => { code := 0, output := line text }
  | .write path text => { code := 0, written := some (path, text) }

def ofResult (format : Format) : Except Failure Effect → Outcome
  | .ok effect => ofEffect format effect
  | .error failure => { code := 1, failure := some failure, left := failure.left? }

end Outcome

def Command.run (format : Format) (around : Surroundings) (command : Command) : Outcome :=
  .ofResult format (perform format around command)

end SpatialQuery.CommandLine
