import FieldCode.Text.Rune

/-!
# White space

Which characters surround a value without being part of it.  The set is Unicode's, together with
the four information separators `U+001C` to `U+001F`.
-/

namespace FieldCode.Text

/-- The ranges of code points that are white space. -/
def blankRanges : List (Nat × Nat) :=
  [(0x9, 0xd), (0x1c, 0x20), (0x85, 0x85), (0xa0, 0xa0), (0x1680, 0x1680), (0x2000, 0x200a),
   (0x2028, 0x2029), (0x202f, 0x202f), (0x205f, 0x205f), (0x3000, 0x3000)]

/-- A code point lies in one of the ranges, both ends included. -/
def inRanges (ranges : List (Nat × Nat)) (r : Rune) : Bool :=
  ranges.any fun range => range.1 ≤ r.code && r.code ≤ range.2

/-- White space in a text. -/
def isBlank (r : Rune) : Bool :=
  inRanges blankRanges r

/-- A list without the members of a class at its two ends. -/
def trimBy {α : Type} (p : α → Bool) (as : List α) : List α :=
  ((as.dropWhile p).reverse.dropWhile p).reverse

/-- A text without the white space at its two ends. -/
def trim (t : Text) : Text :=
  trimBy isBlank t

end FieldCode.Text
