namespace SpatialQuery.Text

/-- Property `White_Space`: 25 characters in ten ranges. -/
def isBlank (c : Char) : Bool :=
  [(0x9, 0xD), (0x20, 0x20), (0x85, 0x85), (0xA0, 0xA0), (0x1680, 0x1680), (0x2000, 0x200A),
    (0x2028, 0x2029), (0x202F, 0x202F), (0x205F, 0x205F), (0x3000, 0x3000)].any
    fun range => range.1 ≤ c.toNat && c.toNat ≤ range.2

/-- The text from its first to its last character that is not blank. -/
def trim (text : List Char) : List Char :=
  ((text.dropWhile isBlank).reverse.dropWhile isBlank).reverse

theorem length_trim_le (text : List Char) : (trim text).length ≤ text.length := by
  have outer := ((text.dropWhile isBlank).reverse.dropWhile_sublist isBlank).length_le
  have inner := (text.dropWhile_sublist isBlank).length_le
  simp only [trim, List.length_reverse] at outer ⊢
  omega

end SpatialQuery.Text
