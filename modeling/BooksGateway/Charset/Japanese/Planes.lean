import BooksGateway.Charset.Grid.KanjiExtension
import BooksGateway.Charset.Japanese

/-!
# Japanese in two planes

The extended set has two planes: the first one is the first set with many of its empty places
filled, the second one has rows of its own. There are two editions; the later one has ten characters
more. A few places hold two characters.

1. The planes.
2. Squeezed rows.
3. Rows of their own.
-/

namespace BooksGateway.Japanese

/-! ## 1. The planes -/

/-- The editions of the extended set. -/
inductive Edition where
  /-- The earlier one. -/
  | early
  /-- The later one. -/
  | late
  deriving DecidableEq, Repr

/-- What is added to the rows of the first set. -/
def extension : Grid where
  leads := [(1, 14), (46, 46), (83, 93)]
  spans := [(0, 93)]
  rows := Grid.kanjiExtensionRows.toArray

/-- The second plane. -/
def plane : Grid where
  leads := [(0, 0), (2, 4), (7, 7), (11, 14), (77, 93)]
  spans := [(0, 93)]
  rows := Grid.kanjiPlaneRows.toArray

/-- The places of the first plane that hold two characters. -/
def twofold : List ((Nat × Nat) × String) := [
  ((3, 86), "\u304b\u309a"), ((3, 87), "\u304d\u309a"), ((3, 88), "\u304f\u309a"),
  ((3, 89), "\u3051\u309a"), ((3, 90), "\u3053\u309a"), ((4, 86), "\u30ab\u309a"),
  ((4, 87), "\u30ad\u309a"), ((4, 88), "\u30af\u309a"), ((4, 89), "\u30b1\u309a"),
  ((4, 90), "\u30b3\u309a"), ((4, 91), "\u30bb\u309a"), ((4, 92), "\u30c4\u309a"),
  ((4, 93), "\u30c8\u309a"), ((5, 87), "\u31f7\u309a"), ((10, 35), "\u00e6\u0300"),
  ((10, 39), "\u0254\u0300"), ((10, 40), "\u0254\u0301"), ((10, 41), "\u028c\u0300"),
  ((10, 42), "\u028c\u0301"), ((10, 43), "\u0259\u0300"), ((10, 44), "\u0259\u0301"),
  ((10, 45), "\u025a\u0300"), ((10, 46), "\u025a\u0301"), ((10, 68), "\u02e9\u02e5"),
  ((10, 69), "\u02e5\u02e9")]

/-- The places of the first plane that only the later edition has filled. -/
def latePlaces : List (Nat × Nat) := [
  (13, 0), (14, 93), (46, 51), (46, 93), (83, 6), (93, 89), (93, 90), (93, 91), (93, 92), (93, 93)]

/-- Whether a place of the first plane is empty in an edition although it is filled in another. -/
def isUnfilled (edition : Edition) (row place : Nat) : Bool :=
  edition == .early && latePlaces.contains (row, place)

/-- The characters at a place of the first plane. A place that is filled in another edition only is
    damage as a whole, and not of its first octet. -/
def firstPlane? (edition : Edition) (row place : Nat) : Option (List Char) :=
  if isUnfilled edition row place then some [Octets.mark]
  else
    match twofold.lookup (row, place) with
    | some chars => some chars.toList
    | none => (firstSet? row place <|> extension.charOf? row place).map ([·])

/-- The character at a place of the second plane, of which one differs between the editions. -/
def secondPlane? (edition : Edition) (row place : Nat) : Option (List Char) :=
  if edition == .early && row = 92 && place = 26 then some ['鬝']
  else (plane.charOf? row place).map ([·])

/-! ## 2. Squeezed rows -/

/-- The first rows of the second plane in the order in which first octets reach them. -/
def squeezedOrder : List Nat := [0, 7, 2, 3, 4, 11, 12, 13, 14]

/-- The row of the second plane that comes after a number of others. -/
def planeRow (n : Nat) : Nat := squeezedOrder.getD n (n - squeezedOrder.length + 77)

/-- The places that have characters of the first 128 ones when rows are squeezed. -/
def squeezedOwn : List ((Nat × Nat) × Char) := [((0, 31), '\\'), ((1, 17), '~')]

/-- The characters of a pair. -/
def extendedPair? (edition : Edition) (lead trail : Nat) : Option (List Char) := do
  let (row, place) ← squeezed? lead trail
  if row < 94 then
    match squeezedOwn.lookup (row, place) with
    | some c => return [c]
    | none => firstPlane? edition row place
  else secondPlane? edition (planeRow (row - 94)) place

/-- The character of an octet below 0x80 in the national set, which has two signs of its own. -/
def national (octet : Nat) : Char :=
  if octet = 0x5C then '¥' else if octet = 0x7E then '‾' else Char.ofNat octet

/-- The piece at the start of octets. -/
def extendedPiece (edition : Edition) (octets : List Nat) : List Char × Nat :=
  match octets with
  | a :: rest =>
    if a < 0x80 then Octets.one (national a) 1
    else
      match halfWidth? a, rest with
      | some c, _ => Octets.one c 1
      | none, b :: _ => (extendedPair? edition a b).elim (Octets.damage 1) (·, 2)
      | none, [] => Octets.damage 1
  | [] => Octets.damage 0

/-- The reader of squeezed rows of an edition. -/
def extendedReader (edition : Edition) : Octets.Reader Unit := .plain (extendedPiece edition)

/-! ## 3. Rows of their own -/

/-- The characters that a pair of octets leads to in a plane, each octet counted from 0xA1. -/
def planePair? (set : Nat → Nat → Option (List Char)) (lead trail : Nat) : Option (List Char) :=
  if 0xA1 ≤ lead && 0xA1 ≤ trail then set (lead - 0xA1) (trail - 0xA1) else none

/-- The characters of a pair after the octet for the second plane. What is not in that plane is
    sought in the second set. -/
def planeOrSupplement? (edition : Edition) (lead trail : Nat) : Option (List Char) :=
  planePair? (secondPlane? edition) lead trail
    <|> (rowPair? supplement.charOf? lead trail).map ([·])

/-- The piece at the start of octets. -/
def extendedRowPiece (edition : Edition) (octets : List Nat) : List Char × Nat :=
  match octets with
  | 0x8E :: b :: _ => (halfWidth? b).elim (Octets.damage 1) (Octets.one · 2)
  | 0x8F :: b :: c :: _ => (planeOrSupplement? edition b c).elim (Octets.damage 1) (·, 3)
  | 0x8F :: _ => Octets.damage octets.length
  | a :: b :: _ =>
    (planePair? (firstPlane? edition) a b).elim (Octets.damage 1) (·, 2)
  | _ => Octets.damage octets.length

/-- The reader of rows with first octets of their own, of an edition. -/
def extendedRowReader (edition : Edition) : Octets.Reader Unit :=
  .plain (Octets.pieceOr (extendedRowPiece edition))

end BooksGateway.Japanese
