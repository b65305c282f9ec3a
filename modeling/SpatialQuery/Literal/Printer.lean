import SpatialQuery.Decimal.Format
import SpatialQuery.Literal.Basic
import SpatialQuery.Text.Quoting

namespace SpatialQuery.Literal

/-- Numbers from `0.0001` to below `10 ^ 16` have a point and no exponent; of two shortest decimals
that are equally near the greater magnitude is taken. -/
def floatFormat : Decimal.Format := ⟨-4, 15, false, .up⟩

/-- Characters of Unicode category `Cc`. -/
def isControl (c : Char) : Bool := c.toNat < 0x20 || (0x7F ≤ c.toNat && c.toNat ≤ 0x9F)

/-- Every control character is escaped, by a letter or with capital digits. -/
def quoting : Text.Quoting where
  letter
    | '"' => some '"'
    | '\\' => some '\\'
    | '\n' => some 'n'
    | '\r' => some 'r'
    | '\t' => some 't'
    | _ => none
  byNumber := isControl
  digit n := n.digitChar.toUpper

/-- A number, with words for those that are not finite. -/
def writeFloat : Binary64 → List Char
  | .nan => ['N', 'a', 'N']
  | .infinity true => ['-', 'i', 'n', 'f']
  | .infinity false => ['i', 'n', 'f']
  | .finite x => floatFormat.write x

mutual

def write : Literal → List Char
  | .null => ['n', 'u', 'l', 'l']
  | .int n => Decimal.ofInt n.toInt
  | .float x => writeFloat x
  | .string s => quoting.quote s.toList
  | .boolean true => ['t', 'r', 'u', 'e']
  | .boolean false => ['f', 'a', 'l', 's', 'e']
  | .enum name => name.toList
  | .list [] => ['[', ']']
  | .list (first :: rest) => '[' :: (write first ++ (writeItems rest ++ [']']))
  | .object [] => ['\x7b', '\x7d']
  | .object ((name, first) :: rest) =>
    '\x7b' :: ' ' :: (name.toList ++ ':' :: ' ' :: write first ++ (writeFields rest ++ [' ', '\x7d']))

def writeItems : List Literal → List Char
  | [] => []
  | item :: rest => ',' :: ' ' :: (write item ++ writeItems rest)

def writeFields : List (String × Literal) → List Char
  | [] => []
  | (name, value) :: rest =>
    ',' :: ' ' :: (name.toList ++ ':' :: ' ' :: write value ++ writeFields rest)

end

def toString (literal : Literal) : String := String.ofList literal.write

instance : ToString Literal := ⟨toString⟩

end SpatialQuery.Literal
