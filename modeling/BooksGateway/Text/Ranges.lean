/-!
# Classes of characters as ranges

A class of characters is given by a list of closed ranges of code points, in rising order.
Membership stops at the first range that begins beyond the character.
-/

namespace BooksGateway.Text

/-- Whether a code point lies in one of the closed ranges, which stand in rising order. -/
def inRanges : List (Nat × Nat) → Nat → Bool
  | [], _ => false
  | (first, last) :: rest, code =>
    if code < first then false
    else if code ≤ last then true
    else inRanges rest code

end BooksGateway.Text
