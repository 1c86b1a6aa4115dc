import BooksGateway.Charset.Wide

/-!
# Characters inserted by steps

In this form the first 128 characters of a text come first, as they are. After a minus sign follow
digits in base 36, which spell steps: each step goes on through the numbers of characters and, for
each number, through the places of the text so far, and inserts a character where it ends.

1. Digits.
2. Steps.
3. Insertion.
4. Reading.
-/

namespace BooksGateway.Punycode

/-! ## 1. Digits -/

/-- The base of the digits. -/
def base : Nat := 36

/-- The value of a digit: letters come before figures, and their case does not matter. -/
def digit? (octet : Nat) : Option Nat :=
  if 'A'.toNat ≤ octet && octet ≤ 'Z'.toNat then some (octet - 'A'.toNat)
  else if 'a'.toNat ≤ octet && octet ≤ 'z'.toNat then some (octet - 'a'.toNat)
  else if '0'.toNat ≤ octet && octet ≤ '9'.toNat then some (octet - '0'.toNat + 26)
  else none

/-- The least value that the digit at a place has unless it is the last one. -/
def threshold (place bias : Nat) : Nat := min 26 (max 1 (base * (place + 1) - bias))

/-! ## 2. Steps -/

/-- The step at the start of digits, and what comes after it. A step that is cut short, or has what
    is no digit in it, ends everything. -/
def stepFrom? (bias : Nat) : (place weight sum : Nat) → List Nat → Option (Nat × List Nat)
  | _, _, _, [] => none
  | place, weight, sum, octet :: rest => do
    let digit ← digit? octet
    let sum := sum + digit * weight
    let least := threshold place bias
    if digit < least then return (sum, rest)
    else stepFrom? bias (place + 1) (weight * (base - least)) sum rest

/-- Divides a number until it is small enough, and tells how often. Each division makes it
    smaller. -/
def damped (delta : Nat) : Nat × Nat :=
  if 455 < delta then
    let (times, delta) := damped (delta / 35)
    (times + 1, delta)
  else (0, delta)
termination_by delta
decreasing_by exact Nat.div_lt_self (by omega) (by omega)

/-- The bias after a step, when the text has some characters. -/
def adapted (delta : Nat) (isFirst : Bool) (count : Nat) : Nat :=
  let delta := if isFirst then delta / 700 else delta / 2
  let delta := delta + delta / count
  let (times, delta) := damped delta
  base * times + base * delta / (delta + 38)

/-! ## 3. Insertion -/

/-- How far the steps have come. -/
structure Progress where
  /-- The characters so far. -/
  chars : List Nat
  /-- The number of the last character. -/
  code : Nat := 0x80
  /-- The place at which the next step starts. -/
  place : Nat := 0
  /-- The bias. -/
  bias : Nat := 72
  /-- Whether no step was taken yet. -/
  isFirst : Bool := true
  deriving DecidableEq, Repr

/-- The progress after a step. A number beyond that of any character gives way to a question
    mark. -/
def Progress.step (progress : Progress) (delta : Nat) : Progress :=
  let count := progress.chars.length + 1
  let place := progress.place + delta
  let sum := progress.code + place / count
  let code := if 0x10FFFF < sum then '?'.toNat else sum
  { chars := progress.chars.insertIdx (place % count) code
    code
    place := place % count + 1
    bias := adapted delta progress.isFirst count
    isFirst := false }

/-- The characters after all steps that digits spell. Every step takes a digit, so as many steps as
    there are digits are enough. -/
def insertAll : (fuel : Nat) → Progress → List Nat → List Nat
  | 0, progress, _ => progress.chars
  | fuel + 1, progress, digits =>
    match stepFrom? progress.bias 0 1 0 digits with
    | some (delta, rest) => insertAll fuel (progress.step delta) rest
    | none => progress.chars

/-! ## 4. Reading -/

/-- The damage at the first octet that stands for no character of the first 128 ones. -/
def damage? (octets : List Nat) : Option Octets.Damage :=
  (octets.find? (0x80 ≤ ·)).map fun octet =>
    ⟨"ascii", octets.idxOf octet, 1, octet, "ordinal not in range(128)"⟩

/-- The text of characters with numbers, of which two may be the halves of one character. -/
def textOf (codes : List Nat) : String :=
  let (chars, half) := Wide.joinAll none codes
  String.ofList (chars ++ Wide.atEnd half)

/-- The text of octets. The last minus sign stands before the digits. -/
def read (octets : List Nat) : Except Octets.Damage String :=
  let digits := (octets.reverse.takeWhile (· != '-'.toNat)).reverse
  let plain := octets.take (octets.length - digits.length - 1)
  match damage? digits with
  | some damage => .error damage
  | none =>
    let chars := plain.map fun octet => if octet < 0x80 then octet else Octets.mark.toNat
    .ok (textOf (insertAll digits.length { chars } digits))

end BooksGateway.Punycode
