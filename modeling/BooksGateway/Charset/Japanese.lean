import BooksGateway.Charset.Grid
import BooksGateway.Charset.Grid.Kanji
import BooksGateway.Charset.Grid.KanjiSupplement

/-!
# Japanese

Two sets of characters are laid out in rows of 94 places. One form squeezes two rows of the first
set under each first octet; another gives every row a first octet of its own and reaches the second
set by a third octet. Katakana of half width have single octets in the one and pairs in the other.

1. The sets.
2. Katakana of half width.
3. Squeezed rows.
4. Rows of their own.
-/

namespace BooksGateway.Japanese

/-! ## 1. The sets -/

/-- The first set, with the additions of one vendor. -/
def kanji : Grid where
  leads := [(0, 118)]
  spans := [(0, 93)]
  rows := Grid.kanjiRows.toArray

/-- The second set. -/
def supplement : Grid where
  leads := [(0, 118)]
  spans := [(0, 93)]
  rows := Grid.kanjiSupplementRows.toArray

/-- The places at which the first set has characters of its own; the vendor has similar ones
    there. -/
def ownPlaces : List ((Nat × Nat) × Char) := [
  ((0, 32), '〜'), ((0, 33), '‖'), ((0, 60), '−'), ((0, 80), '¢'), ((0, 81), '£'), ((1, 43), '¬')]

/-- Whether a row, counted from zero, belongs to the first set and is no addition. -/
def isOwnRow (row : Nat) : Bool := row < 12 || (15 ≤ row && row < 84)

/-- The character of the first set at a place of a row, both counted from zero. -/
def firstSet? (row place : Nat) : Option Char :=
  if isOwnRow row then ownPlaces.lookup (row, place) <|> kanji.charOf? row place else none

/-! ## 2. Katakana of half width -/

/-- The katakana of half width for an octet. -/
def halfWidth? (octet : Nat) : Option Char :=
  if 0xA1 ≤ octet && octet ≤ 0xDF then some (Char.ofNat (0xFEC0 + octet)) else none

/-! ## 3. Squeezed rows -/

/-- The row and the place, both counted from zero, that a pair leads to when two rows share a first
    octet. -/
def squeezed? (lead trail : Nat) : Option (Nat × Nat) := do
  let pairOfRows ←
    if 0x81 ≤ lead && lead ≤ 0x9F then some (lead - 0x81)
    else if 0xE0 ≤ lead && lead ≤ 0xFC then some (lead - 0xC1)
    else none
  let place ← Grid.placeIn? [(0x40, 0x7E), (0x80, 0xFC)] trail
  return (2 * pairOfRows + place / 94, place % 94)

/-- The character of a pair when two rows share a first octet. -/
def squeezedPair? (lead trail : Nat) : Option Char := do
  let (row, place) ← squeezed? lead trail
  firstSet? row place

/-- The piece at the start of octets when two rows share a first octet. -/
def squeezedPiece (octets : List Nat) : List Char × Nat :=
  match octets.head?.bind halfWidth? with
  | some c => Octets.one c 1
  | none => Octets.pairPiece squeezedPair? octets

/-- The reader of squeezed rows. -/
def squeezedReader : Octets.Reader Unit := .plain (Octets.pieceOr squeezedPiece)

/-- The character of a pair in the form of the vendor: the first set, its additions, and rows for
    private use. -/
def vendorPair? (lead trail : Nat) : Option Char := do
  let (row, place) ← squeezed? lead trail
  if 94 ≤ row && row ≤ 113 then some (Char.ofNat (0xE000 + 94 * (row - 94) + place))
  else kanji.charOf? row place

/-- The character of a single octet in the form of the vendor, besides the first 128 ones. -/
def vendorSingle? (octet : Nat) : Option Char :=
  if octet = 0x80 then some (Char.ofNat octet)
  else if octet = 0xA0 then some (Char.ofNat 0xF8F0)
  else if 0xFD ≤ octet then some (Char.ofNat (0xF8F1 + (octet - 0xFD)))
  else halfWidth? octet

/-- The piece at the start of octets in the form of the vendor. -/
def vendorPiece (octets : List Nat) : List Char × Nat :=
  match octets.head?.bind vendorSingle? with
  | some c => Octets.one c 1
  | none => Octets.pairPiece vendorPair? octets

/-- The reader of the form of the vendor. -/
def vendorReader : Octets.Reader Unit := .plain (Octets.pieceOr vendorPiece)

/-! ## 4. Rows of their own -/

/-- The character that a pair of octets leads to in a set of rows, each octet counted from 0xA1. -/
def rowPair? (set : Nat → Nat → Option Char) (lead trail : Nat) : Option Char :=
  if 0xA1 ≤ lead && 0xA1 ≤ trail then set (lead - 0xA1) (trail - 0xA1) else none

/-- The piece at the start of octets when every row has a first octet: an octet before a pair leads
    to the second set, and one before a single octet to katakana of half width. -/
def rowPiece (octets : List Nat) : List Char × Nat :=
  match octets with
  | 0x8E :: b :: _ => (halfWidth? b).elim (Octets.damage 1) (Octets.one · 2)
  | 0x8F :: b :: c :: _ =>
    (rowPair? supplement.charOf? b c).elim (Octets.damage 1) (Octets.one · 3)
  | 0x8F :: _ => Octets.damage octets.length
  | _ => Octets.pairPiece (rowPair? firstSet?) octets

/-- The reader of rows with first octets of their own. -/
def rowReader : Octets.Reader Unit := .plain (Octets.pieceOr rowPiece)

end BooksGateway.Japanese
