import BooksGateway.Charset.Octets

/-!
# Code pages

On a code page every octet stands for one character or for none. An octet stands for the character
with its own number unless the page says otherwise.
-/

namespace BooksGateway

/-- A code page. -/
structure CodePage where
  /-- Its name. -/
  name : String
  /-- Other names for it. -/
  aliases : List String
  /-- Characters that octets stand for one after another, with the first of these octets. -/
  runs : List (Nat × String)
  /-- Closed ranges of octets that stand for nothing. -/
  gaps : List (Nat × Nat)

namespace CodePage

/-- The character of an octet in a run. -/
def inRun? (octet first : Nat) (chars : String) : Option Char :=
  if first ≤ octet then chars.toList[octet - first]? else none

/-- The character that an octet stands for, the replacement mark if there is none. -/
def charOf (page : CodePage) (octet : Nat) : Char :=
  if page.gaps.any fun (first, last) => first ≤ octet && octet ≤ last then Octets.mark
  else
    (page.runs.findSome? fun (first, chars) => inRun? octet first chars).getD (Char.ofNat octet)

/-- The characters of all octets, in order. -/
def chars (page : CodePage) : Array Char := ((List.range 0x100).map page.charOf).toArray

/-- The reader of a page. -/
def reader (page : CodePage) : Octets.Reader Unit :=
  let chars := page.chars
  .single fun octet => chars.getD octet Octets.mark

end CodePage

end BooksGateway
