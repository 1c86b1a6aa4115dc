/-!
# Binary floating-point numbers of 64 bits

A finite number is a sign and a whole number of the smallest positive one, `2 ^ -1074`. Of these
magnitudes the format has those with at most 53 significant bits below `2 ^ 2098`. All arithmetic
here is exact arithmetic on natural numbers; rounding happens in one place, `roundUnits`.

1. The numbers.
2. Rounding a ratio.
3. Whole values.
4. Adding one.
-/

namespace BooksGateway

/-! ## 1. The numbers -/

/-- A 64-bit binary floating-point number. -/
inductive Binary64 where
  /-- Not a number. -/
  | nan
  /-- An infinity. -/
  | infinite (negative : Bool)
  /-- A finite number: a sign and a magnitude in units of `2 ^ -1074`. -/
  | finite (negative : Bool) (units : Nat)
  deriving DecidableEq, Repr, Inhabited

namespace Binary64

/-- How many of the smallest positive number make one. -/
def unitsPerOne : Nat := Nat.pow 2 1074

/-- The first magnitude, in units, that the format is too small for. -/
def unitsLimit : Nat := Nat.pow 2 2098

/-- How many significant bits a magnitude has at most. -/
def precision : Nat := 53

/-! ## 2. Rounding a ratio -/

/-- The whole number nearest to `num / den`; of two equally near ones, the even one. -/
def roundHalfEven (num den : Nat) : Nat :=
  let q := num / den
  let twice := 2 * (num % den)
  if twice < den then q
  else if den < twice then q + 1
  else if q % 2 = 0 then q else q + 1

/-- The distance between neighbouring magnitudes around `units`: one unit as long as `units` fits
    into 53 bits, and then twice as many for each further bit. -/
def quantum (units : Nat) : Nat := Nat.pow 2 (units.log2 - (precision - 1))

/-- The magnitude, in units, nearest to `num / den`; of two equally near ones, the one with the even
    significand. -/
def roundUnits (num den : Nat) : Nat :=
  let scaled := num * unitsPerOne
  let step := quantum (scaled / den)
  roundHalfEven scaled (den * step) * step

/-- The number nearest to a ratio, or an infinity when the ratio is too large for the format. -/
def ofRatio (negative : Bool) (num den : Nat) : Binary64 :=
  let units := roundUnits num den
  if units < unitsLimit then .finite negative units else .infinite negative

/-- The number nearest to `coefficient · 10 ^ exponent`, by exact arithmetic. -/
def ofScaled (negative : Bool) (coefficient : Nat) : (exponent : Int) → Binary64
  | .ofNat e => ofRatio negative (coefficient * Nat.pow 10 e) 1
  | .negSucc e => ofRatio negative coefficient (Nat.pow 10 (e + 1))

/-- The decimal places beyond which every number is infinite on the one side and zero on
    the other. -/
def farPower : Int := 400

/-- The number nearest to `coefficient · 10 ^ exponent`. Numbers far outside the range of the format
    are decided by their leading digit, so that no huge power of ten is ever formed. -/
def ofDecimal (negative : Bool) (coefficient : Nat) (exponent : Int) : Binary64 :=
  let top := ((Nat.toDigits 10 coefficient).length : Int) + exponent
  if coefficient = 0 then .finite negative 0
  else if farPower < top then .infinite negative
  else if top < -farPower then .finite negative 0
  else ofScaled negative coefficient exponent

/-! ## 3. Whole values -/

/-- The value of a finite number cut off towards zero. -/
def truncate? : Binary64 → Option Int
  | .finite negative units =>
    let whole : Int := (units / unitsPerOne : Nat)
    some (if negative then -whole else whole)
  | _ => none

/-- The value of a finite number that is whole. -/
def toInt? : Binary64 → Option Int
  | .finite negative units =>
    if units % unitsPerOne = 0 then (Binary64.finite negative units).truncate? else none
  | _ => none

/-- Whether a number is different from zero; so also what is not a number. -/
def isNonzero : Binary64 → Bool
  | .finite _ units => units != 0
  | _ => true

/-- Whether a number is finite. -/
def isFinite : Binary64 → Bool
  | .finite _ _ => true
  | _ => false

/-- Whether a number is one. -/
def isOne (x : Binary64) : Bool := x == .finite false unitsPerOne

/-! ## 4. Adding one -/

/-- The finite number nearest to a whole number of units, or an infinity. -/
def ofUnits (units : Int) : Binary64 := ofRatio (units < 0) units.natAbs unitsPerOne

/-- The number nearest to one more than a number. -/
def addOne : Binary64 → Binary64
  | .finite negative units =>
    let signed : Int := if negative then -(units : Int) else units
    ofUnits (signed + unitsPerOne)
  | x => x

end Binary64

end BooksGateway
