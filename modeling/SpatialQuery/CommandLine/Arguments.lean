import SpatialQuery.CommandLine.Command

/-! Command lines as the program takes them when it runs: options in any order, each at most once. -/
namespace SpatialQuery.CommandLine

inductive Stop where
  | help
  | version
  | usage
  deriving DecidableEq, Repr

inductive Setting where
  | schema
  | type
  | input
  | output
  deriving DecidableEq, Repr

namespace Setting

def name : Setting → String
  | .schema => "schema"
  | .type => "type"
  | .input => "input"
  | .output => "output"

def letter? : Setting → Option Char
  | .input => some 'i'
  | .output => some 'o'
  | _ => none

end Setting

/-- The form of a word. -/
inductive Word where
  /-- Two hyphens alone: no options after them. -/
  | terminator
  | long (name : String) (value : Option String)
  | short (letter : Char) (value : Option String)
  | plain (text : String)
  deriving DecidableEq, Repr

namespace Word

/-- The form of a word by its characters. A single hyphen is a plain word. -/
def ofChars : List Char → Word
  | ['-', '-'] => .terminator
  | '-' :: '-' :: rest =>
    match rest.dropWhile (· ≠ '=') with
    | [] => .long (String.ofList rest) none
    | _ :: value => .long (String.ofList (rest.takeWhile (· ≠ '='))) (some (String.ofList value))
  | '-' :: letter :: rest =>
    match rest with
    | [] => .short letter none
    | '=' :: value => .short letter (some (String.ofList value))
    | value => .short letter (some (String.ofList value))
  | text => .plain (String.ofList text)

end Word

abbrev Settings := List (Setting × String)

/-- Gives a setting its value, which it may not have already. -/
def Settings.give (settings : Settings) (setting : Setting) (value : String) :
    Except Stop Settings :=
  if (settings.lookup setting).isSome then .error .usage else .ok ((setting, value) :: settings)

/-- The setting that a word names, if it is allowed and the word no call for help. -/
def setting? (allowed : List Setting) : Word → Except Stop (Setting × Option String)
  | .long "help" none => .error .help
  | .short 'h' _ => .error .help
  | .long name value =>
    match allowed.find? (·.name = name) with
    | some setting => .ok (setting, value)
    | none => .error .usage
  | .short letter value =>
    match allowed.find? (·.letter? = some letter) with
    | some setting => .ok (setting, value)
    | none => .error .usage
  | _ => .error .usage

/-- The settings in the words after the name of a command. -/
def settings (allowed : List Setting) : List String → Settings → Except Stop Settings
  | [], given => .ok given
  | word :: rest, given =>
    match Word.ofChars word.toList with
    | .terminator => if rest.isEmpty then .ok given else .error .usage
    | form =>
      match setting? allowed form with
      | .ok (setting, some value) => do settings allowed rest (← given.give setting value)
      | .ok (setting, none) =>
        match rest with
        | [] => .error .usage
        | next :: rest =>
          match Word.ofChars next.toList with
          | .plain value => do settings allowed rest (← given.give setting value)
          | _ => .error .usage
      | .error stop => .error stop

/-- A setting that a command cannot do without. -/
def Settings.require (given : Settings) (setting : Setting) : Except Stop String :=
  match given.lookup setting with
  | some value => .ok value
  | none => .error .usage

def parse : List String → Except Stop Command
  | "validate" :: rest => do
    let given ← settings [.schema, .input] rest []
    return .validate (← given.require .schema) (given.lookup .input)
  | "serialize" :: rest => do
    let given ← settings [.type, .input, .output] rest []
    return .serialize (← given.require .type) (given.lookup .input) (given.lookup .output)
  | "print" :: rest => do
    let given ← settings [.type, .input] rest []
    return .print (← given.require .type) (given.lookup .input)
  | "help" :: topics =>
    match topics with
    | [] => .error .help
    | [topic] =>
      if topic ∈ ["validate", "serialize", "print", "help"] then .error .help else .error .usage
    | _ => .error .usage
  | word :: _ =>
    match Word.ofChars word.toList with
    | .long "version" none | .short 'V' _ => .error .version
    | .long "help" none | .short 'h' _ => .error .help
    | _ => .error .usage
  | [] => .error .usage

end SpatialQuery.CommandLine
