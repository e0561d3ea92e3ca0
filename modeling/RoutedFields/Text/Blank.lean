import RoutedFields.Text.Alphanumeric

/-!
# Blanks

The characters that Unicode counts as white space: in ASCII the tab, the line breaks U+000A to
U+000D, the separators U+001C to U+001F and the space; beyond it the ranges of the table.

* `isBlank`: a white space character.
* `trim`: text without the blanks at its two ends.
-/

namespace RoutedFields.Text

/-- The blanks from U+0080 on. -/
def blankRanges : List (Nat × Nat) :=
  [(0x0085, 0x0085), (0x00A0, 0x00A0), (0x1680, 0x1680), (0x2000, 0x200A), (0x2028, 0x2029),
   (0x202F, 0x202F), (0x205F, 0x205F), (0x3000, 0x3000)]

/-- A white space character. -/
def isBlank (c : Char) : Bool :=
  let n := c.toNat
  if n < 128 then (9 ≤ n && n ≤ 13) || (28 ≤ n && n ≤ 32) else inRanges blankRanges n

/-- Text without the blanks at its two ends. -/
def trim (s : List Char) : List Char :=
  ((s.dropWhile isBlank).reverse.dropWhile isBlank).reverse

/-- Whether a text holds nothing but blanks. -/
def isAllBlank (s : String) : Bool :=
  s.toList.all isBlank

end RoutedFields.Text
