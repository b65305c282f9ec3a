namespace SpatialQuery.Text

structure Quoting where
  /-- The letter that stands after a backslash for a character. -/
  letter : Char → Option Char
  /-- Whether a character without a letter is written by its number. -/
  byNumber : Char → Bool
  /-- The hexadecimal digit of a number below sixteen. -/
  digit : Nat → Char

namespace Quoting

/-- A number below `16 ^ 4` as four hexadecimal digits. -/
def fourDigits (quoting : Quoting) (n : Nat) : List Char :=
  [n / 4096 % 16, n / 256 % 16, n / 16 % 16, n % 16].map quoting.digit

def char (quoting : Quoting) (c : Char) : List Char :=
  match quoting.letter c with
  | some letter => ['\\', letter]
  | none => if quoting.byNumber c then '\\' :: 'u' :: quoting.fourDigits c.toNat else [c]

def quote (quoting : Quoting) (text : List Char) : List Char :=
  '"' :: (text.flatMap quoting.char ++ ['"'])

end Quoting
end SpatialQuery.Text
