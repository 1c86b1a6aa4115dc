import BooksGateway.Charset.Octets

/-!
# Grids of characters

Scripts with thousands of characters are laid out in grids: a pair of octets leads to a row and to a
place in it. A text in such a form mixes pairs with single octets, which stand for the first 128
characters. A pair that leads nowhere is damage of one octet, and a pair cut short by the end is
damage of all that is left.

1. Grids.
2. Pieces of a text.
-/

namespace BooksGateway

/-! ## 1. Grids -/

/-- Characters in rows, reached by pairs of octets. -/
structure Grid where
  /-- Closed ranges of first octets. -/
  leads : List (Nat × Nat)
  /-- Closed ranges of second octets. Each first octet has one row for each of them. -/
  spans : List (Nat × Nat)
  /-- The rows; a blank is a place without a character. -/
  rows : Array String

namespace Grid

/-- The number of the range that an octet is in, and its place there. -/
def spanOf? : List (Nat × Nat) → Nat → Option (Nat × Nat)
  | [], _ => none
  | (first, last) :: rest, octet =>
    if first ≤ octet && octet ≤ last then some (0, octet - first)
    else (spanOf? rest octet).map fun (number, place) => (number + 1, place)

/-- The character at a place of a row. -/
def inRow? (row : String) (place : Nat) : Option Char :=
  match row.toList[place]? with
  | some ' ' => none
  | found => found

/-- The place of an octet when closed ranges follow each other without a gap. -/
def placeIn? : List (Nat × Nat) → Nat → Option Nat
  | [], _ => none
  | (first, last) :: rest, octet =>
    if first ≤ octet && octet ≤ last then some (octet - first)
    else (placeIn? rest octet).map (· + (last + 1 - first))

/-- The character that a pair leads to. -/
def charOf? (grid : Grid) (lead trail : Nat) : Option Char := do
  let place ← placeIn? grid.leads lead
  let (number, column) ← spanOf? grid.spans trail
  inRow? (← grid.rows[place * grid.spans.length + number]?) column

/-- How many octets are in closed ranges. -/
def sizeOf (spans : List (Nat × Nat)) : Nat :=
  spans.foldl (fun n (first, last) => n + (last + 1 - first)) 0

end Grid

/-! ## 2. Pieces of a text -/

namespace Octets

/-- A piece that stands for one character. -/
def one (c : Char) (size : Nat) : List Char × Nat := ([c], size)

/-- Damage of some octets. -/
def damage (size : Nat) : List Char × Nat := ([mark], size)

/-- The pair at the start of octets, for the character that it leads to. -/
def pairPiece (charOf? : Nat → Nat → Option Char) : List Nat → List Char × Nat
  | lead :: trail :: _ =>
    match charOf? lead trail with
    | some c => one c 2
    | none => damage 1
  | octets => damage octets.length

/-- The piece at the start of octets: a single octet below 0x80, or what else there is. -/
def pieceOr (other : List Nat → List Char × Nat) (octets : List Nat) : List Char × Nat :=
  match octets with
  | octet :: _ => if octet < 0x80 then one (Char.ofNat octet) 1 else other octets
  | [] => damage 0

/-- The reader of single octets and pairs. -/
def Reader.paired (charOf? : Nat → Nat → Option Char) : Reader Unit :=
  .plain (pieceOr (pairPiece charOf?))

end Octets

end BooksGateway
