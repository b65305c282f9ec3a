import SpatialQuery.Decimal.Numeral
import SpatialQuery.Json.Tree

namespace SpatialQuery.Json

inductive Token where
  | openBracket
  | closeBracket
  | openBrace
  | closeBrace
  | colon
  | comma
  /-- A string; none if it holds half a surrogate pair. -/
  | string (text : Option String)
  | leaf (value : Tree)

namespace Number

/-- Takes digits as long as the number fits 64 bits; with the digits that are left. -/
def gather (n : Nat) : List Char → Nat × List Char
  | [] => (n, [])
  | c :: rest =>
    let next := 10 * n + (c.toNat - '0'.toNat)
    if next < 0x10000000000000000 then gather next rest else (n, c :: rest)

/-- The power of ten that is nearest to a binary64 number. -/
def power (k : Nat) : Binary64 := .ofRatio false (Nat.pow 10 k) 1

def product (x : Binary64.Finite) : Binary64 → Binary64
  | .finite y => .ofRatio x.negative (x.numerator * y.numerator) (x.denominator * y.denominator)
  | other => other

def quotient (x : Binary64.Finite) : Binary64 → Binary64
  | .finite y => .ofRatio x.negative (x.numerator * y.denominator) (x.denominator * y.numerator)
  | _ => .ofRatio x.negative 0 1

/-- A number times a power of ten, if it is in range. Powers beyond `10 ^ 308` have no number, so a
small result is reached by several divisions, each of which rounds. -/
def scaled? (x : Binary64.Finite) (exponent : Int) : Option Binary64.Finite :=
  if exponent.natAbs ≤ 308 then
    (if 0 ≤ exponent then product x (power exponent.natAbs) else quotient x (power exponent.natAbs)).finite?
  else if x.isZero then some x
  else if 0 ≤ exponent then none
  else (quotient x (power 308)).finite? >>= fun x => scaled? x (exponent + 308)
termination_by exponent.natAbs

/-- The binary64 number that is made of a numeral, not always the nearest one: the digits that fit
64 bits are rounded, and their product with a power of ten is rounded again. -/
def float? (numeral : Decimal.Numeral) : Option Binary64.Finite := do
  let (whole, dropped) := gather 0 numeral.whole
  let (digits, ignored) := gather whole numeral.fraction
  let taken := numeral.fraction.length - ignored.length
  let x ← (Binary64.ofRatio numeral.negative digits 1).finite?
  scaled? x (numeral.exponent.getD 0 + dropped.length - taken)

/-- The number that a numeral is read as, if it is in range. An integer that fits 64 bits stays one,
except that minus zero has its sign only as a binary64 number. -/
def ofNumeral? (numeral : Decimal.Numeral) : Option Number :=
  let magnitude := Decimal.valueOf numeral.whole
  let n : Int := if numeral.negative then -magnitude else magnitude
  if numeral.isInteger && !(numeral.negative && magnitude == 0) && (ofInt? n).isSome then ofInt? n
  else (float? numeral).map .float

end Number

namespace Token

/-- A part of a string: a character or, by its number in an escape, a UTF-16 code unit. -/
inductive Piece where
  | char (c : Char)
  | unit (n : Nat)

/-- The characters of a string, each surrogate pair being one; none if half of a pair stands alone. -/
def charsOf? : List Piece → Option (List Char)
  | [] => some []
  | .char c :: rest => do return c :: (← charsOf? rest)
  | .unit high :: .unit low :: rest =>
    if 0xD800 ≤ high ∧ high < 0xDC00 ∧ 0xDC00 ≤ low ∧ low < 0xE000 then do
      return Char.ofNat (0x10000 + 0x400 * (high - 0xD800) + (low - 0xDC00)) :: (← charsOf? rest)
    else if 0xD800 ≤ high ∧ high < 0xE000 then none
    else do return Char.ofNat high :: (← charsOf? (.unit low :: rest))
  | .unit n :: rest =>
    if 0xD800 ≤ n ∧ n < 0xE000 then none else do return Char.ofNat n :: (← charsOf? rest)

/-- What is being read. Gathered characters and pieces stand with the latest first. -/
inductive Mode where
  | between
  | word (gathered : List Char)
  | text (gathered : List Piece)
  | escape (gathered : List Piece)
  /-- Inside a numeric escape, with the digits that are missing and the number so far. -/
  | unit (gathered : List Piece) (missing : Nat) (value : Nat)

/-- Space, tab, line feed and carriage return. -/
def isSpace (c : Char) : Bool := c = ' ' || c = '\t' || c = '\n' || c = '\r'

/-- The characters of numerals and names. -/
def isWordChar (c : Char) : Bool := c.isAlphanum || c = '-' || c = '+' || c = '.'

def hexValue? (c : Char) : Option Nat :=
  if c.isDigit then some (c.toNat - '0'.toNat)
  else if 'a' ≤ c ∧ c ≤ 'f' then some (c.toNat - 'a'.toNat + 10)
  else if 'A' ≤ c ∧ c ≤ 'F' then some (c.toNat - 'A'.toNat + 10)
  else none

def escaped? : Char → Option Char
  | '"' => some '"'
  | '\\' => some '\\'
  | '/' => some '/'
  | 'b' => some '\x08'
  | 'f' => some '\x0c'
  | 'n' => some '\n'
  | 'r' => some '\r'
  | 't' => some '\t'
  | _ => none

def ofWord? (word : List Char) : Option Token :=
  match String.ofList word with
  | "null" => some (.leaf .null)
  | "true" => some (.leaf (.bool true))
  | "false" => some (.leaf (.bool false))
  | _ => (Decimal.Numeral.read? word).map fun numeral =>
    .leaf (((Number.ofNumeral? numeral).map Tree.number).getD .unreadable)

def start? (tokens : List Token) (c : Char) : Option (List Token × Mode) :=
  match c with
  | '[' => some (.openBracket :: tokens, .between)
  | ']' => some (.closeBracket :: tokens, .between)
  | '\x7b' => some (.openBrace :: tokens, .between)
  | '\x7d' => some (.closeBrace :: tokens, .between)
  | ':' => some (.colon :: tokens, .between)
  | ',' => some (.comma :: tokens, .between)
  | '"' => some (tokens, .text [])
  | _ =>
    if isSpace c then some (tokens, .between)
    else if isWordChar c then some (tokens, .word [c])
    else none

/-- Takes one more character; tokens stand with the latest first. -/
def step? : List Token × Mode → Char → Option (List Token × Mode)
  | (tokens, .between), c => start? tokens c
  | (tokens, .word gathered), c =>
    if isWordChar c then some (tokens, .word (c :: gathered))
    else do start? ((← ofWord? gathered.reverse) :: tokens) c
  | (tokens, .text gathered), c =>
    if c = '"' then some (.string ((charsOf? gathered.reverse).map String.ofList) :: tokens, .between)
    else if c = '\\' then some (tokens, .escape gathered)
    else if c.toNat < 0x20 then none
    else some (tokens, .text (.char c :: gathered))
  | (tokens, .escape gathered), c =>
    if c = 'u' then some (tokens, .unit gathered 4 0)
    else (escaped? c).map fun c => (tokens, .text (.char c :: gathered))
  | (tokens, .unit gathered missing value), c => do
    let value := 16 * value + (← hexValue? c)
    return (tokens, if missing ≤ 1 then .text (.unit value :: gathered)
      else .unit gathered (missing - 1) value)

/-- The tokens of a text; none if it has no place in JSON text. -/
def scan? (text : List Char) : Option (List Token) := do
  match ← text.foldlM step? ([], .between) with
  | (tokens, .between) => return tokens.reverse
  | (tokens, .word gathered) => return ((← ofWord? gathered.reverse) :: tokens).reverse
  | _ => none

end Token
end SpatialQuery.Json
