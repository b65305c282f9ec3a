import SpatialQuery.Decimal.Format
import SpatialQuery.Json.Basic
import SpatialQuery.Text.Quoting

namespace SpatialQuery.Json

/-- Numbers from `0.00001` to below `10 ^ 16` have a point and no exponent, others an exponent with
a sign; between two shortest decimals the even one is taken. -/
def floatFormat : Decimal.Format := ⟨-5, 15, true, .even⟩

/-- Control characters below the space are escaped, those with a letter by it. -/
def quoting : Text.Quoting where
  letter
    | '"' => some '"'
    | '\\' => some '\\'
    | '\x08' => some 'b'
    | '\x0c' => some 'f'
    | '\n' => some 'n'
    | '\r' => some 'r'
    | '\t' => some 't'
    | _ => none
  byNumber c := decide (c.toNat < 0x20)
  digit := Nat.digitChar

/-- The blanks of a way of writing. -/
structure Spacing where
  /-- What comes before a member or an item at a depth, and before the bracket that closes. -/
  line : Nat → List Char
  colon : List Char

namespace Spacing

def compact : Spacing := ⟨fun _ => [], []⟩

/-- Two spaces for each level. -/
def indented : Spacing := ⟨fun depth => '\n' :: List.replicate (2 * depth) ' ', [' ']⟩

end Spacing

def Number.write : Number → List Char
  | .integer n _ _ => Decimal.ofInt n
  | .float x => floatFormat.write x

mutual

/-- The text of a value whose lines stand at a depth. -/
def write (spacing : Spacing) (depth : Nat) : Json → List Char
  | .null => ['n', 'u', 'l', 'l']
  | .bool true => ['t', 'r', 'u', 'e']
  | .bool false => ['f', 'a', 'l', 's', 'e']
  | .number n => n.write
  | .string s => quoting.quote s.toList
  | .array [] => ['[', ']']
  | .array (first :: rest) =>
    '[' :: (spacing.line (depth + 1) ++ write spacing (depth + 1) first ++
      (writeItems spacing (depth + 1) rest ++ (spacing.line depth ++ [']'])))
  | .object [] => ['\x7b', '\x7d']
  | .object ((name, first) :: rest) =>
    '\x7b' :: (spacing.line (depth + 1) ++ quoting.quote name.toList ++ ':' :: spacing.colon ++
      write spacing (depth + 1) first ++
      (writeMembers spacing (depth + 1) rest ++ (spacing.line depth ++ ['\x7d'])))

def writeItems (spacing : Spacing) (depth : Nat) : List Json → List Char
  | [] => []
  | item :: rest =>
    ',' :: (spacing.line depth ++ write spacing depth item ++ writeItems spacing depth rest)

def writeMembers (spacing : Spacing) (depth : Nat) : List (String × Json) → List Char
  | [] => []
  | (name, value) :: rest =>
    ',' :: (spacing.line depth ++ quoting.quote name.toList ++ ':' :: spacing.colon ++
      write spacing depth value ++ writeMembers spacing depth rest)

end

def compact (json : Json) : String := String.ofList (json.write .compact 0)

def pretty (json : Json) : String := String.ofList (json.write .indented 0)

end SpatialQuery.Json
