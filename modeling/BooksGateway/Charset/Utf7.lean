import BooksGateway.Charset.Wide

/-!
# Characters spelled in base 64

In this form the first 128 characters stand for themselves, but a plus sign announces a run of
digits in base 64, which spell units of sixteen bits. The run ends at the first octet that is no
digit; a minus sign there is swallowed. A plus sign itself is written with a minus sign after it.

1. Digits.
2. Runs of digits.
3. The reader.
-/

namespace BooksGateway.Utf7

/-! ## 1. Digits -/

/-- The octet of the plus sign. -/
def plus : Nat := '+'.toNat

/-- The octet of the minus sign. -/
def minus : Nat := '-'.toNat

/-- The value of a digit in base 64. -/
def digit? (octet : Nat) : Option Nat :=
  if 'A'.toNat ≤ octet && octet ≤ 'Z'.toNat then some (octet - 'A'.toNat)
  else if 'a'.toNat ≤ octet && octet ≤ 'z'.toNat then some (octet - 'a'.toNat + 26)
  else if '0'.toNat ≤ octet && octet ≤ '9'.toNat then some (octet - '0'.toNat + 52)
  else if octet = plus then some 62
  else if octet = '/'.toNat then some 63
  else none

/-- Whether an octet stands for the character with its number. -/
def isDirect (octet : Nat) : Bool := octet ≤ 0x7F && octet != plus

/-! ## 2. Runs of digits -/

/-- What is known within a run of digits. -/
structure Run where
  /-- How many bits are left over from the last unit. -/
  bits : Nat := 0
  /-- The number that these bits make. -/
  rest : Nat := 0
  /-- The first half of a character, if the last unit was one. -/
  half : Option Nat := none
  deriving DecidableEq, Repr

namespace Run

/-- A run after a whole unit, and the characters that are known by it. -/
def take (run : Run) (unit : Nat) : List Char × Run :=
  let (chars, half) := Wide.joinNext run.half unit
  (chars, { run with half })

/-- A run after one more digit. -/
def push (run : Run) (digit : Nat) : List Char × Run :=
  let bits := run.bits + 6
  let number := run.rest * 64 + digit
  if bits < 16 then ([], { run with bits, rest := number })
  else
    let left := bits - 16
    let place := Nat.pow 2 left
    { run with bits := left, rest := number % place }.take (number / place)

/-- Whether the bits that are left over are more than padding. -/
def isTorn (run : Run) : Bool := 6 ≤ run.bits || run.rest != 0

end Run

/-! ## 3. The reader -/

/-- What stands at the start of octets outside a run. -/
def outside : List Nat → Octets.Piece (Option Run)
  | [] => ⟨[], 0, none⟩
  | octet :: rest =>
    if octet = plus then
      match rest with
      | [] => ⟨[], 1, some {}⟩
      | next :: _ =>
        if next = minus then ⟨['+'], 2, none⟩
        else if (digit? next).isSome then ⟨[], 1, some {}⟩
        else ⟨[Octets.mark], 2, none⟩
    else if isDirect octet then ⟨[Char.ofNat octet], 1, none⟩
    else ⟨[Octets.mark], 1, none⟩

/-- What stands at the start of octets within a run. An octet that ends the run is read anew unless
    it is the minus sign; after torn bits it is part of the damage. -/
def inside (run : Run) (octets : List Nat) : Octets.Piece (Option Run) :=
  match octets with
  | [] => ⟨[], 0, none⟩
  | octet :: _ =>
    match digit? octet with
    | some digit =>
      let (chars, run) := run.push digit
      ⟨chars, 1, some run⟩
    | none =>
      if run.isTorn then ⟨[Octets.mark], 1, none⟩
      else
        let before := if run.half.isSome && isDirect octet then [Octets.mark] else []
        if octet = minus then ⟨before, 1, none⟩
        else
          let after := outside octets
          { after with chars := before ++ after.chars }

/-- What is given when octets end in a state: a run must not leave anything over. -/
def atEnd : Option Run → List Char
  | some run => if run.isTorn || run.half.isSome then [Octets.mark] else []
  | none => []

/-- The reader. -/
def reader : Octets.Reader (Option Run) where
  start := none
  next state octets :=
    match state with
    | some run => inside run octets
    | none => outside octets
  finish := atEnd

end BooksGateway.Utf7
