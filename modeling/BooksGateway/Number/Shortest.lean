import BooksGateway.Number.Binary64

/-!
# The shortest decimal text of a floating-point number

A number is written with the fewest significant digits that round back to it, and with the nearest
such digits. `Binary64.shortest` finds the digits: for one, two, … seventeen digits it tests the two
decimals on either side of the number. `Binary64.render` lays them out under a `FloatStyle`.

1. The style of a text.
2. Digits.
3. Layout.
-/

namespace BooksGateway

/-! ## 1. The style of a text -/

/-- How numbers are laid out. -/
structure FloatStyle where
  /-- The text of what is not a number. -/
  nan : String
  /-- The text of the positive infinity. -/
  infinity : String
  /-- The least power of ten of a leading digit that is written without an exponent. -/
  leastPositional : Int
  /-- The first power of ten of a leading digit that is written with an exponent again. -/
  positionalLimit : Int

/-- Numbers from `10 ^ -4` up to below `10 ^ 16` are written without an exponent. -/
def FloatStyle.plain : FloatStyle := ⟨"nan", "inf", -4, 16⟩

/-- A positive decimal number `digits · 10 ^ exponent`. -/
structure DecimalForm where
  /-- The significant digits, read as one whole number. -/
  digits : Nat
  /-- The power of ten. -/
  exponent : Int
  deriving DecidableEq, Repr, Inhabited

/-- The decimal digits of a natural number, at least one. -/
def decimalDigits (n : Nat) : List Char := Nat.toDigits 10 n

namespace Binary64

/-! ## 2. Digits -/

/-- The power of ten of the leading digit of `num / den`, for positive `num` and `den`. -/
def leadingPower (num den : Nat) : Int :=
  if den ≤ num then ((decimalDigits (num / den)).length : Int) - 1
  else
    let places := (decimalDigits (den / num)).length
    if num * Nat.pow 10 (places - 1) = den then 1 - (places : Int) else -(places : Int)

/-- The whole part of `num / den · 10 ^ -power`. -/
def scaledFloor (num den : Nat) : (power : Int) → Nat
  | .ofNat e => num / (den * Nat.pow 10 e)
  | .negSucc e => num * Nat.pow 10 (e + 1) / den

/-- The magnitude, in units, of the number nearest to a decimal. -/
def unitsOf (d : DecimalForm) : Nat :=
  match d.exponent with
  | .ofNat e => roundUnits (d.digits * Nat.pow 10 e) 1
  | .negSucc e => roundUnits d.digits (Nat.pow 10 (e + 1))

/-- How far a decimal is from `units`, as a numerator; decimals of one exponent are
    compared by it. -/
def distance (units : Nat) (d : DecimalForm) : Nat :=
  match d.exponent with
  | .ofNat e => Int.natAbs ((d.digits * Nat.pow 10 e * unitsPerOne : Nat) - (units : Int))
  | .negSucc e =>
    Int.natAbs ((d.digits * unitsPerOne : Nat) - (units * Nat.pow 10 (e + 1) : Nat) : Int)

/-- The nearer of two decimals; of two equally near ones, the one with the even digit. -/
def nearer (units : Nat) (a b : DecimalForm) : DecimalForm :=
  if distance units a < distance units b then a
  else if distance units b < distance units a then b
  else if a.digits % 2 = 0 then a else b

/-- The decimal with the last digit at `exponent` that rounds back to `units` and is
    nearest to it. -/
def atExponent? (units : Nat) (exponent : Int) : Option DecimalForm :=
  let below : DecimalForm := ⟨scaledFloor units unitsPerOne exponent, exponent⟩
  let above : DecimalForm := { below with digits := below.digits + 1 }
  match unitsOf below == units, unitsOf above == units with
  | true, true => some (nearer units below above)
  | true, false => some below
  | false, true => some above
  | false, false => none

/-- The shortest decimal for a positive magnitude: seventeen digits always suffice. -/
def shortest (units : Nat) : DecimalForm :=
  let top := leadingPower units unitsPerOne
  ((List.range 17).findSome? fun (n : Nat) => atExponent? units (top - (n : Int))).getD ⟨0, 0⟩

/-! ## 3. Layout -/

/-- Digits without the zeros at their end. -/
def dropFinalZeros (ds : List Char) : List Char := (ds.reverse.dropWhile (· == '0')).reverse

/-- An exponent: a sign and at least two digits. -/
def renderExponent (power : Int) : List Char :=
  let ds := decimalDigits power.natAbs
  'e' :: (if power < 0 then '-' else '+') :: (if ds.length < 2 then '0' :: ds else ds)

/-- Significant digits with the leading one at `power`, written out under a style. A number without
    an exponent always shows a digit after its point. -/
def layOut (style : FloatStyle) (ds : List Char) (power : Int) : List Char :=
  if style.leastPositional ≤ power ∧ power < style.positionalLimit then
    match power with
    | .ofNat p =>
      let whole := ds.take (p + 1) ++ List.replicate (p + 1 - ds.length) '0'
      let rest := ds.drop (p + 1)
      whole ++ '.' :: (if rest.isEmpty then ['0'] else rest)
    | .negSucc p => '0' :: '.' :: List.replicate p '0' ++ ds
  else
    let rest := ds.drop 1
    ds.take 1 ++ (if rest.isEmpty then [] else '.' :: rest) ++ renderExponent power

/-- The shortest text of a magnitude. -/
def renderUnits (style : FloatStyle) (units : Nat) : List Char :=
  if units = 0 then ['0', '.', '0']
  else
    let d := shortest units
    let ds := decimalDigits d.digits
    layOut style (dropFinalZeros ds) (d.exponent + ds.length - 1)

/-- The shortest text of a number. -/
def render (style : FloatStyle) : Binary64 → String
  | .nan => style.nan
  | .infinite negative => (if negative then "-" else "") ++ style.infinity
  | .finite negative units =>
    (if negative then "-" else "") ++ String.ofList (renderUnits style units)

end Binary64

end BooksGateway
