import BooksGateway.Text.Ranges

/-!
# White space

The characters that count as white space at the ends of a text and between words: the ASCII controls
from tab to carriage return, the four ASCII separators, the plain and the no-break space, and the
spaces and line ends of other scripts.
-/

namespace BooksGateway.Text

/-- The white space characters, as closed ranges of code points in rising order. -/
def blankRanges : List (Nat × Nat) := [
  (0x9, 0xD), (0x1C, 0x20), (0x85, 0x85), (0xA0, 0xA0), (0x1680, 0x1680), (0x2000, 0x200A),
  (0x2028, 0x2029), (0x202F, 0x202F), (0x205F, 0x205F), (0x3000, 0x3000)]

/-- Whether a character is white space. -/
def isBlank (c : Char) : Bool := inRanges blankRanges c.toNat

end BooksGateway.Text
