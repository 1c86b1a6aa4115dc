import BooksGateway.Charset.Grid

/-!
# Characters of one to four octets

In this form the first octet of a character tells how many more it has, and narrows down the second
one where the character could be written with fewer octets, or is none. Octets that begin a
character without going on to its end are one damage.

1. First octets.
2. The reader.
-/

namespace BooksGateway.Utf8

/-! ## 1. First octets -/

/-- What a first octet announces. -/
structure Announced where
  /-- How many more octets the character has. -/
  owed : Nat
  /-- The least second octet. -/
  least : Nat
  /-- The greatest second octet. -/
  greatest : Nat
  /-- The bits of the first octet that belong to the number of the character. -/
  bits : Nat
  deriving DecidableEq, Repr

/-- What an octet from 0x80 on announces as the first of a character. -/
def announced? (octet : Nat) : Option Announced :=
  if octet < 0xC2 then none
  else if octet < 0xE0 then some ⟨1, 0x80, 0xBF, octet - 0xC0⟩
  else if octet = 0xE0 then some ⟨2, 0xA0, 0xBF, 0⟩
  else if octet = 0xED then some ⟨2, 0x80, 0x9F, 0x0D⟩
  else if octet < 0xF0 then some ⟨2, 0x80, 0xBF, octet - 0xE0⟩
  else if octet = 0xF0 then some ⟨3, 0x90, 0xBF, 0⟩
  else if octet < 0xF4 then some ⟨3, 0x80, 0xBF, octet - 0xF0⟩
  else if octet = 0xF4 then some ⟨3, 0x80, 0x8F, 4⟩
  else none

/-! ## 2. The reader -/

/-- The piece for a character of which `size` octets are read, with the bits `n`; the next one has
    to be within bounds. -/
def rest : (owed least greatest n size : Nat) → List Nat → List Char × Nat
  | 0, _, _, n, size, _ => Octets.one (Char.ofNat n) size
  | _ + 1, _, _, _, size, [] => Octets.damage size
  | owed + 1, least, greatest, n, size, octet :: octets =>
    if least ≤ octet && octet ≤ greatest then
      rest owed 0x80 0xBF (n * 0x40 + octet % 0x40) (size + 1) octets
    else Octets.damage size

/-- The piece at the start of octets, of which the first one is from 0x80 on. -/
def piece : List Nat → List Char × Nat
  | octet :: octets =>
    match announced? octet with
    | some a => rest a.owed a.least a.greatest a.bits 1 octets
    | none => Octets.damage 1
  | [] => Octets.damage 0

/-- The reader. -/
def reader : Octets.Reader Unit := .plain (Octets.pieceOr piece)

end BooksGateway.Utf8
