import BooksGateway.Number.Binary64
import BooksGateway.Platform.Limits
import BooksGateway.Text.Digit
import BooksGateway.Text.Words

/-!
# Numbers written as text

Two notations are read. A whole number is a sign and digits; a decimal number may also have a point,
an exponent, and the words for infinity and for what is not a number. Both allow decimal digits of
every script, single underscores between digits, and white space around the number.

1. Signs and digits.
2. Whole numbers.
3. Decimal numbers.
-/

namespace BooksGateway.Numeral

open BooksGateway.Text

/-! ## 1. Signs and digits -/

/-- White space around a number: `isBlank` without the four ASCII separators. -/
def isPadding (c : Char) : Bool := isBlank c && !(0x1C ≤ c.toNat && c.toNat ≤ 0x1F)

/-- A number without the white space around it. -/
def stripPadding (cs : List Char) : List Char := dropEnd isPadding (cs.dropWhile isPadding)

/-- Reads an optional sign: whether it is a minus, and the rest. -/
def readSign : List Char → Bool × List Char
  | '-' :: rest => (true, rest)
  | '+' :: rest => (false, rest)
  | rest => (false, rest)

/-- Reads as many digits as there are, with at most one underscore between two of them: the values
    of the digits, and the rest. -/
def readDigits : List Char → List Nat × List Char
  | [] => ([], [])
  | c :: '_' :: next :: rest =>
    match digitValue? c, digitValue? next with
    | some d, some _ =>
      let (ds, tail) := readDigits (next :: rest)
      (d :: ds, tail)
    | some d, none => ([d], '_' :: next :: rest)
    | none, _ => ([], c :: '_' :: next :: rest)
  | c :: rest =>
    match digitValue? c with
    | some d =>
      let (ds, tail) := readDigits rest
      (d :: ds, tail)
    | none => ([], c :: rest)

/-- The number that a row of digits stands for. -/
def ofDigits (ds : List Nat) : Nat := ds.foldl (fun n d => 10 * n + d) 0

/-- A number with a sign. -/
def signed (negative : Bool) (n : Nat) : Int := if negative then -(n : Int) else n

/-! ## 2. Whole numbers -/

/-- Why a text is not read as a whole number. -/
inductive Fault where
  /-- It is not written as one. -/
  | malformed
  /-- It has more digits than are converted. -/
  | tooLong (digits : Nat)
  deriving DecidableEq, Repr

/-- Reads a whole number. -/
def readWhole (cs : List Char) : Except Fault Int :=
  let (negative, body) := readSign (stripPadding cs)
  let (ds, tail) := readDigits body
  if ds.isEmpty || tail.head? == some '_' then .error .malformed
  else if digitLimit < ds.length then .error (.tooLong ds.length)
  else if tail.isEmpty then .ok (signed negative (ofDigits ds))
  else .error .malformed

/-! ## 3. Decimal numbers -/

/-- A decimal number as it is written: sign, digits, and the power of ten of the last digit. -/
structure Written where
  /-- Whether it has a minus sign. -/
  negative : Bool
  /-- Its digits, read as one whole number. -/
  coefficient : Nat
  /-- The power of ten of its last digit. -/
  exponent : Int
  deriving DecidableEq, Repr

/-- Reads what follows the digits: nothing, or an exponent. -/
def readExponent : List Char → Option Int
  | [] => some 0
  | c :: rest =>
    if c = 'e' ∨ c = 'E' then
      let (negative, body) := readSign rest
      match readDigits body with
      | (d :: ds, []) => some (signed negative (ofDigits (d :: ds)))
      | _ => none
    else none

/-- Reads the digits after a point, if there is one. -/
def readFraction : List Char → List Nat × List Char
  | '.' :: rest => readDigits rest
  | rest => ([], rest)

/-- Reads a decimal number after its sign. -/
def readUnsigned? (negative : Bool) (cs : List Char) : Option Written :=
  let (whole, afterWhole) := readDigits cs
  let (fraction, afterFraction) := readFraction afterWhole
  if whole.isEmpty && fraction.isEmpty then none
  else (readExponent afterFraction).map fun exponent =>
    ⟨negative, ofDigits (whole ++ fraction), exponent - fraction.length⟩

/-- Reads a floating-point number: a decimal number, an infinity, or what is not a number. -/
def readFloat? (cs : List Char) : Option Binary64 :=
  let (negative, body) := readSign (stripPadding cs)
  let word := String.ofList (body.map Char.toLower)
  if word = "inf" ∨ word = "infinity" then some (.infinite negative)
  else if word = "nan" then some .nan
  else (readUnsigned? negative body).map fun w =>
    Binary64.ofDecimal w.negative w.coefficient w.exponent

end BooksGateway.Numeral
