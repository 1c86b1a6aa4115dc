/-!
# Octets and how they are read

A text travels as octets, numbers below 256. Reading them as a text goes piece by piece: each piece
takes some octets and gives some characters. What cannot be read is damage, in whose place the
replacement mark stands.

1. The octets of a text.
2. Damage.
3. Readers.
4. Reading to the end.
-/

namespace BooksGateway.Octets

/-! ## 1. The octets of a text -/

/-- The octets of a character in UTF-8: one for each six bits after the first, which also tells how
    many there are. -/
def ofChar (c : Char) : List Nat :=
  let n := c.toNat
  let tail (bits : Nat) := 0x80 + n / Nat.pow 2 bits % 0x40
  if n < 0x80 then [n]
  else if n < 0x800 then [0xC0 + n / 0x40, tail 0]
  else if n < 0x10000 then [0xE0 + n / 0x1000, tail 6, tail 0]
  else [0xF0 + n / 0x40000, tail 12, tail 6, tail 0]

/-- The octets of a text in UTF-8. -/
def ofText (s : String) : List Nat := s.toList.flatMap ofChar

/-- The replacement mark, which stands in the place of damage. -/
def mark : Char := Char.ofNat 0xFFFD

/-! ## 2. Damage -/

/-- Damage that keeps octets from being read. -/
structure Damage where
  /-- The name of the form in which they were to be read. -/
  form : String
  /-- How many octets stand before it. -/
  position : Nat
  /-- How many octets it takes. -/
  size : Nat
  /-- The first of them. -/
  octet : Nat
  /-- What is wrong with them. -/
  reason : String
  deriving DecidableEq, Repr

/-- An octet as two hexadecimal digits. -/
def hex (octet : Nat) : String :=
  String.ofList [Nat.digitChar (octet / 16 % 16), Nat.digitChar (octet % 16)]

/-- The place of damage, in words. -/
def Damage.place (d : Damage) : String :=
  if d.size = 1 then "byte 0x" ++ hex d.octet ++ " in position " ++ toString d.position
  else "bytes in position " ++ toString d.position ++ "-" ++ toString (d.position + d.size - 1)

/-- The words for damage. -/
def Damage.message (d : Damage) : String :=
  "'" ++ d.form ++ "' codec can't decode " ++ d.place ++ ": " ++ d.reason

/-! ## 3. Readers -/

/-- What stands at the start of some octets, for a reader whose states have type `σ`. -/
structure Piece (σ : Type) where
  /-- The characters that it gives. -/
  chars : List Char
  /-- How many octets it takes; at least one is taken in any case. -/
  size : Nat
  /-- The state of the reader afterwards. -/
  state : σ

/-- A way to read octets, with states of type `σ`. -/
structure Reader (σ : Type) where
  /-- The state at the start. -/
  start : σ
  /-- What stands at the start of octets, of which there is at least one. -/
  next : σ → List Nat → Piece σ
  /-- What is given when the octets end in a state. -/
  finish : σ → List Char := fun _ => []

namespace Reader

variable {σ : Type}

/-- A reader without a state: each piece gives characters and takes a number of octets. -/
def plain (next : List Nat → List Char × Nat) : Reader Unit where
  start := ()
  next _ octets :=
    let (chars, size) := next octets
    ⟨chars, size, ()⟩

/-- A reader of single octets. -/
def single (charOf : Nat → Char) : Reader Unit :=
  plain fun
    | octet :: _ => ([charOf octet], 1)
    | [] => ([], 1)

/-! ## 4. Reading to the end -/

/-- Reads octets to their end. The first `skip` ones belong to a piece that is read already, and
    `read` holds the characters read so far, the last one first. -/
def readFrom (reader : Reader σ) : σ → (skip : Nat) → (read : List Char) → List Nat → List Char
  | state, _, read, [] => read.reverseAux (reader.finish state)
  | state, skip + 1, read, _ :: rest => readFrom reader state skip read rest
  | state, 0, read, octet :: rest =>
    let piece := reader.next state (octet :: rest)
    readFrom reader piece.state (piece.size - 1) (piece.chars.reverseAux read) rest

/-- The text of octets. -/
def read (reader : Reader σ) (octets : List Nat) : String :=
  String.ofList (reader.readFrom reader.start 0 [] octets)

/-- The state in which octets end. The first `skip` ones belong to a piece that is read already. -/
def stateFrom (reader : Reader σ) : σ → (skip : Nat) → List Nat → σ
  | state, _, [] => state
  | state, skip + 1, _ :: rest => stateFrom reader state skip rest
  | state, 0, octet :: rest =>
    let piece := reader.next state (octet :: rest)
    stateFrom reader piece.state (piece.size - 1) rest

/-- The state in which all octets of a text end. -/
def finalState (reader : Reader σ) (octets : List Nat) : σ := reader.stateFrom reader.start 0 octets

end Reader

end BooksGateway.Octets
