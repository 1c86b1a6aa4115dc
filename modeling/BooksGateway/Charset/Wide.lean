import BooksGateway.Charset.Octets

/-!
# Forms with wide units

In these forms a text is a row of units of two or four octets each, with the octet of the greatest
weight first or last. A unit of four octets is the number of a character. A unit of two is one for
the first characters only; the numbers beyond are split into two halves, each a unit that is no
number of a character.

1. Forms.
2. Units.
3. Reading with damage marked.
4. Reading without damage.
5. The form of a JSON text.
-/

namespace BooksGateway

/-! ## 1. Forms -/

/-- A form of a text with wide units. -/
structure Wide where
  /-- Whether units have four octets; otherwise they have two. -/
  isDouble : Bool
  /-- Whether the octet of the greatest weight comes first. -/
  bigFirst : Bool
  deriving DecidableEq, Repr

namespace Wide

/-- The name of a form in messages. -/
def name (form : Wide) : String :=
  (if form.isDouble then "utf-32" else "utf-16") ++ if form.bigFirst then "-be" else "-le"

/-- The number that octets stand for, the first one with the greatest weight. -/
def numberOf (octets : List Nat) : Nat := octets.foldl (fun n octet => 0x100 * n + octet) 0

/-- The number of a unit. -/
def unit (form : Wide) (octets : List Nat) : Nat :=
  numberOf (if form.bigFirst then octets else octets.reverse)

/-! ## 2. Units -/

/-- What is wrong with octets. -/
inductive Flaw where
  /-- They end within a unit. -/
  | cutShort
  /-- A unit is no number of a character and greater than all of them. -/
  | outOfRange
  deriving DecidableEq, Repr

/-- The words for what is wrong. -/
def Flaw.message : Flaw → String
  | .cutShort => "truncated data"
  | .outOfRange => "code point not in range(0x110000)"

/-- What stands at the start of octets. -/
inductive Content where
  /-- A character. -/
  | char (c : Char)
  /-- A half without its other half. -/
  | half
  /-- A first half, after which not even a unit follows. -/
  | openHalf
  /-- Something that is wrong. -/
  | flawed (flaw : Flaw)

/-- Whether a number is the first of two halves. -/
def isFirstHalf (n : Nat) : Bool := 0xD800 ≤ n && n ≤ 0xDBFF

/-- Whether a number is the second of two halves. -/
def isSecondHalf (n : Nat) : Bool := 0xDC00 ≤ n && n ≤ 0xDFFF

/-- The character that two halves make. -/
def joined (first second : Nat) : Char :=
  Char.ofNat (0x10000 + (first - 0xD800) * 0x400 + (second - 0xDC00))

/-- The characters that are known by one more unit, and the first half that waits for the second
    one. A first half is marked when another unit follows. -/
def joinNext (half : Option Nat) (unit : Nat) : List Char × Option Nat :=
  let before := if half.isSome then [Octets.mark] else []
  if isFirstHalf unit then (before, some unit)
  else if isSecondHalf unit then
    (match half with
      | some first => [joined first unit]
      | none => [Octets.mark], none)
  else (before ++ [Char.ofNat unit], none)

/-- The characters that are known by more units, and the first half that waits. -/
def joinAll (half : Option Nat) (units : List Nat) : List Char × Option Nat :=
  let join := fun ((read, half) : List Char × Option Nat) unit =>
    let (chars, half) := joinNext half unit
    (chars.reverseAux read, half)
  let (read, half) := units.foldl join ([], half)
  (read.reverse, half)

/-- What is given when the units end with a first half or without one. -/
def atEnd (half : Option Nat) : List Char := if half.isSome then [Octets.mark] else []

/-- What stands at the start of octets, and how many it takes. -/
def next (form : Wide) (octets : List Nat) : Content × Nat :=
  match form.isDouble, octets with
  | false, a :: b :: rest =>
    let n := form.unit [a, b]
    if isFirstHalf n then
      match rest with
      | c :: d :: _ =>
        let m := form.unit [c, d]
        if isSecondHalf m then (.char (joined n m), 4) else (.half, 2)
      | _ => (.openHalf, 2)
    else if isSecondHalf n then (.half, 2)
    else (.char (Char.ofNat n), 2)
  | true, a :: b :: c :: d :: _ =>
    let n := form.unit [a, b, c, d]
    if isFirstHalf n || isSecondHalf n then (.half, 4)
    else if 0x10FFFF < n then (.flawed .outOfRange, 4)
    else (.char (Char.ofNat n), 4)
  | _, rest => (.flawed .cutShort, rest.length)

/-! ## 3. Reading with damage marked -/

/-- The reader that marks damage. A first half at the end is one damage with what follows it. -/
def reader (form : Wide) : Octets.Reader Unit :=
  .plain fun octets =>
    match form.next octets with
    | (.char c, size) => ([c], size)
    | (.openHalf, _) => ([Octets.mark], octets.length)
    | (_, size) => ([Octets.mark], size)

/-! ## 4. Reading without damage -/

/-- Reads octets to their end or to the first damage. A half that stands alone passes, and is shown
    by the replacement mark. The first `skip` octets belong to a unit that is read already, and
    `read` holds the characters read so far, the last one first. -/
def readFrom (form : Wide) : (position skip : Nat) → (read : List Char) → List Nat →
    Except Octets.Damage String
  | _, _, read, [] => .ok (String.ofList read.reverse)
  | position, skip + 1, read, _ :: rest => readFrom form (position + 1) skip read rest
  | position, 0, read, octet :: rest =>
    match form.next (octet :: rest) with
    | (.char c, size) => readFrom form (position + 1) (size - 1) (c :: read) rest
    | (.flawed flaw, size) => .error ⟨form.name, position, size, octet, flaw.message⟩
    | (_, size) => readFrom form (position + 1) (size - 1) (Octets.mark :: read) rest

/-- The text of octets without damage. -/
def read (form : Wide) (octets : List Nat) : Except Octets.Damage String :=
  form.readFrom 0 0 [] octets

/-! ## 5. The form of a JSON text -/

/-- The form of a JSON text with wide units, judged by its first four octets, or by all when there
    are fewer. Its first character, and mostly its second, is one of the first characters of all, so
    the place of the zeros tells the form. -/
def ofJson? : List Nat → Option Wide
  | [0, _] => some ⟨false, true⟩
  | [_, 0] => some ⟨false, false⟩
  | 0 :: b :: _ :: _ :: _ => some ⟨b == 0, true⟩
  | _ :: 0 :: c :: d :: _ => some ⟨c == 0 && d == 0, false⟩
  | _ => none

end Wide

end BooksGateway
