import BooksGateway.Charset.Grid
import BooksGateway.Charset.Grid.Hangul

/-!
# Korean

The characters are laid out in rows of 94 places, among them the most common syllables. One form can
also spell out a syllable by its parts; another has pairs for all other syllables, in order; and one
gives every part of a syllable five bits of a pair.

1. The rows.
2. Syllables spelled out.
3. All other syllables.
4. Syllables as sums of parts.
-/

namespace BooksGateway.Korean

/-! ## 1. The rows -/

/-- The grid of characters. -/
def hangul : Grid where
  leads := [(0xA1, 0xFE)]
  spans := [(0xA1, 0xFE)]
  rows := Grid.hangulRows.toArray

/-! ## 2. Syllables spelled out -/

/-- The octet before each part of a syllable that is spelled out. -/
def partLead : Nat := 0xA4

/-- The second octet of a part that is missing. -/
def missingPart : Nat := 0xD4

/-- The consonants of a row that can begin a syllable, by their second octets from 0xA1 on; a letter
    that cannot has no number. -/
def initials : List (Option Nat) :=
  [some 0, some 1, none, some 2, none, none, some 3, some 4, some 5, none, none, none, none, none,
    none, none, some 6, some 7, some 8, none, some 9, some 10, some 11, some 12, some 13, some 14,
    some 15, some 16, some 17, some 18]

/-- The consonants of a row that can end a syllable, by their second octets from 0xA1 on. -/
def finals : List (Option Nat) :=
  [some 1, some 2, some 3, some 4, some 5, some 6, some 7, none, some 8, some 9, some 10, some 11,
    some 12, some 13, some 14, some 15, some 16, some 17, none, some 18, some 19, some 20, some 21,
    some 22, none, some 23, some 24, some 25, some 26, some 27]

/-- The number of a consonant in a list. -/
def consonant? (list : List (Option Nat)) (octet : Nat) : Option Nat :=
  if octet < 0xA1 then none else (list[octet - 0xA1]?).join

/-- The number of a vowel. -/
def vowel? (octet : Nat) : Option Nat :=
  if 0xBF ≤ octet && octet ≤ 0xD3 then some (octet - 0xBF) else none

/-- The number of what ends a syllable, which may be missing. -/
def final? (octet : Nat) : Option Nat :=
  if octet = missingPart then some 0 else consonant? finals octet

/-- The syllable of three parts. -/
def syllable? (initial vowel final : Nat) : Option Char := do
  let initial ← consonant? initials initial
  let vowel ← vowel? vowel
  let final ← final? final
  return Char.ofNat (0xAC00 + initial * 588 + vowel * 28 + final)

/-- The character of a pair in the form without all syllables. The missing part is no character by
    itself. -/
def smaller? (lead trail : Nat) : Option Char :=
  if lead = partLead && trail = missingPart then none else hangul.charOf? lead trail

/-- The piece at the start of octets: a missing part announces a syllable that is spelled out by
    three more parts. -/
def piece (octets : List Nat) : List Char × Nat :=
  match octets with
  | a :: b :: rest =>
    if a = partLead && b = missingPart then
      match rest with
      | c :: initial :: d :: vowel :: e :: final :: _ =>
        if c = partLead && d = partLead && e = partLead then
          (syllable? initial vowel final).elim (Octets.damage 1) (Octets.one · 8)
        else Octets.damage 1
      | _ => Octets.damage octets.length
    else Octets.pairPiece smaller? octets
  | _ => Octets.damage octets.length

/-- The reader of the form without all syllables. -/
def reader : Octets.Reader Unit := .plain (Octets.pieceOr piece)

/-! ## 3. All other syllables -/

/-- The number of the first syllable. -/
def firstSyllable : Nat := 0xAC00

/-- How many syllables there are. -/
def syllableCount : Nat := 11172

/-- The numbers from one on, up to a limit, that are not in a rising list. -/
def missingFrom : (count n : Nat) → List Nat → List Nat
  | 0, _, _ => []
  | count + 1, n, [] => n :: missingFrom count (n + 1) []
  | count + 1, n, known :: rest =>
    if n = known then missingFrom count (n + 1) rest
    else n :: missingFrom count (n + 1) (known :: rest)

/-- The syllables that have places in the rows, in order. -/
def knownSyllables : List Nat :=
  (((Grid.hangulRows.drop 15).take 25).flatMap String.toList).map Char.toNat

/-- The syllables that have no places in the rows, in order. -/
def otherSyllables : Array Nat :=
  (missingFrom syllableCount firstSyllable knownSyllables).toArray

/-- The second octets for all other syllables under the first octets up to 0xA0. -/
def longSpans : List (Nat × Nat) := [(0x41, 0x5A), (0x61, 0x7A), (0x81, 0xFE)]

/-- The second octets for all other syllables under the first octets from 0xA1 on. -/
def shortSpans : List (Nat × Nat) := [(0x41, 0x5A), (0x61, 0x7A), (0x81, 0xA0)]

/-- The first octets up to 0xA0 for all other syllables. -/
def longLeads : Nat := 0x20

/-- The number among all other syllables that a pair leads to. -/
def otherNumber? (lead trail : Nat) : Option Nat :=
  if lead < 0x81 then none
  else if lead ≤ 0xA0 then
    (Grid.placeIn? longSpans trail).map ((lead - 0x81) * Grid.sizeOf longSpans + ·)
  else
    (Grid.placeIn? shortSpans trail).map
      (longLeads * Grid.sizeOf longSpans + (lead - 0xA1) * Grid.sizeOf shortSpans + ·)

/-- The character of a pair in the form with all syllables. -/
def larger? (lead trail : Nat) : Option Char :=
  hangul.charOf? lead trail
    <|> ((otherNumber? lead trail).bind fun n => otherSyllables[n]?).map Char.ofNat

/-! ## 4. Syllables as sums of parts -/

/-- What five bits of a pair say of a part of a syllable. -/
inductive PartBits where
  /-- Nothing that has a meaning. -/
  | unused
  /-- The part is missing. -/
  | missing
  /-- The part has a number. -/
  | numbered (n : Nat)
  deriving DecidableEq, Repr

/-- The part with a number that follows from bits in closed ranges without gaps. -/
def bitsIn (spans : List (Nat × Nat)) (missing first bits : Nat) : PartBits :=
  if bits = missing then .missing
  else
    match Grid.placeIn? spans bits with
    | some n => .numbered (n + first)
    | none => .unused

/-- The part that begins a syllable. -/
def initialBits : Nat → PartBits := bitsIn [(2, 20)] 1 0

/-- The vowel of a syllable. -/
def vowelBits : Nat → PartBits := bitsIn [(3, 7), (10, 15), (18, 23), (26, 29)] 2 0

/-- The part that ends a syllable. -/
def finalBits : Nat → PartBits := bitsIn [(2, 17), (19, 29)] 1 1

/-- The number of the first letter that stands alone. -/
def firstLetter : Nat := 0x3131

/-- The number of the first vowel that stands alone. -/
def firstVowel : Nat := 0x314F

/-- The letter that stands alone for a consonant with a number in a list. -/
def letterOf (list : List (Option Nat)) (n : Nat) : Nat := firstLetter + list.idxOf (some n)

/-- The number of the character for three parts. Of parts that stand alone only one is there. -/
def sumOf? : (initial vowel final : PartBits) → Option Nat
  | .missing, .missing, .missing => some 0x3000
  | .missing, .missing, .numbered k => some (letterOf finals k)
  | .missing, .numbered j, .missing => some (firstVowel + j)
  | .numbered i, .missing, .missing => some (letterOf initials i)
  | .numbered i, .numbered j, .missing => some (firstSyllable + i * 588 + j * 28)
  | .numbered i, .numbered j, .numbered k => some (firstSyllable + i * 588 + j * 28 + k)
  | _, _, _ => none

/-- The character of a pair below 0xD800, in which three parts have five bits each. -/
def sumPair? (lead trail : Nat) : Option Char :=
  let bits := 0x100 * lead + trail
  (sumOf? (initialBits (bits / 0x400 % 0x20)) (vowelBits (bits / 0x20 % 0x20))
    (finalBits (bits % 0x20))).map Char.ofNat

/-- The character of a pair from 0xD800 on, two rows under each first octet. Letters that stand
    alone, and the rows of syllables, are left out. -/
def otherPair? (lead trail : Nat) : Option Char := do
  let pairOfRows ←
    if 0xD9 ≤ lead && lead ≤ 0xDE then some (2 * (lead - 0xD9))
    else if 0xE0 ≤ lead && lead ≤ 0xF9 then some (2 * (lead - 0xE0) + 41)
    else none
  let place ← Grid.placeIn? [(0x31, 0x7E), (0x91, 0xFE)] trail
  if lead = 0xDA && 0xA1 ≤ trail && trail ≤ 0xD3 then none
  else hangul.charOf? (0xA1 + pairOfRows + place / 94) (0xA1 + place % 94)

/-- The character of a pair when syllables are sums of parts. -/
def composed? (lead trail : Nat) : Option Char :=
  if lead < 0xD8 then sumPair? lead trail else otherPair? lead trail

end BooksGateway.Korean
