import BooksGateway.Number.Shortest
import Mathlib.Algebra.Order.Field.Power
import Mathlib.Tactic.FieldSimp
import Mathlib.Tactic.Linarith
import Mathlib.Tactic.Positivity
import Mathlib.Tactic.Ring

/-!
# Rounding to the nearest floating-point number

The finite numbers of the format are the rational numbers `m · 2 ^ k` with at most 53 bits in `m`
and `k` from `-1074` to `971`. Rounding a decimal number gives one that no other is nearer to, or an
infinity when every finite one is smaller. Distances are compared in units first, as natural
numbers, and then carried over to the rationals. What a decimal is rounded to hangs on its value
only, not on how it is written.

* `roundUnits_nearest`: no magnitude is nearer to a ratio than the one that it is rounded to;
* `IsFloat.exists_magnitude`: the numbers of the format by their magnitudes in units;
* `unitsOf_congr`: decimals of one value are rounded to one magnitude;
* `ofDecimal_eq_ofScaled`: the shortcuts for very large and very small numbers change nothing;
* `Rounds`: what rounding gives, and `rounds_ofDecimal`: decimal numbers are rounded so;
* `IsNearest.eq_iff`: rounding keeps exactly the numbers of the format;
* `toInt?_eq_some_iff`: a number counts as whole iff its value is.
-/

namespace BooksGateway

/-- The number that a decimal stands for. -/
def DecimalForm.value (d : DecimalForm) : Rat := d.digits * 10 ^ d.exponent

namespace Binary64

/-! ## 1. Magnitudes in units -/

/-- A magnitude of the format, of any size: at most 53 significant bits. -/
def IsMagnitude (units : Nat) : Prop := ∃ m k, m < 2 ^ 53 ∧ units = m * 2 ^ k

-- the powers that make the scale are kept behind names, for they are too large to be written out
theorem unitsPerOne_eq : ∃ i, i = 1074 ∧ unitsPerOne = Nat.pow 2 i := by
  delta unitsPerOne
  exact ⟨_, rfl, rfl⟩

theorem unitsPerOne_pos : 0 < unitsPerOne := by
  obtain ⟨i, _, hone⟩ := unitsPerOne_eq
  rw [hone]
  exact Nat.pow_pos (by decide)

theorem quantum_pos (units : Nat) : 0 < quantum units := Nat.pow_pos (by decide)

/-- No multiple of the denominator is nearer than the one that is rounded to. -/
theorem roundHalfEven_nearest (num : Nat) {den : Nat} (hden : 0 < den) (z : Nat) :
    ((num : Int) - (roundHalfEven num den * den : Nat)).natAbs ≤
      ((num : Int) - (z * den : Nat)).natAbs := by
  have hnum := Nat.div_add_mod num den
  have hrest := Nat.mod_lt num hden
  have hdown : den * (num / den) = num / den * den := Nat.mul_comm _ _
  have hup : (num / den + 1) * den = num / den * den + den := Nat.succ_mul _ _
  -- a multiple lies below the number or above it, so beyond one of its two neighbours
  have hz : z * den ≤ num / den * den ∨ (num / den + 1) * den ≤ z * den := by
    rcases Nat.lt_or_ge (num / den) z with h | h
    · exact .inr (Nat.mul_le_mul_right den h)
    · exact .inl (Nat.mul_le_mul_right den h)
  unfold roundHalfEven
  dsimp only
  split
  · omega
  split
  · omega
  split <;> omega

theorem roundHalfEven_le (num den : Nat) : roundHalfEven num den ≤ num / den + 1 := by
  unfold roundHalfEven
  dsimp only
  split
  · omega
  split
  · omega
  split <;> omega

/-- What is rounded has less than 53 bits before the point of its step. -/
theorem div_quantum_lt (units : Nat) : units / quantum units < 2 ^ 53 := by
  rw [Nat.div_lt_iff_lt_mul (quantum_pos units)]
  refine lt_of_lt_of_le (Nat.lt_log2_self (n := units)) ?_
  unfold quantum precision
  rw [show Nat.pow 2 (units.log2 - (53 - 1)) = 2 ^ (units.log2 - (53 - 1)) from rfl, ← Nat.pow_add]
  exact Nat.pow_le_pow_right (by decide) (by omega)

/-- A step of more than one unit is taken only from 53 bits on. -/
theorem le_of_quantum {units k : Nat} (h : 2 ^ k < quantum units) :
    2 ^ 53 * 2 ^ k ≤ 2 ^ 52 * quantum units ∧ 2 ^ 52 * quantum units ≤ units := by
  unfold quantum precision at *
  rw [show Nat.pow 2 (units.log2 - (53 - 1)) = 2 ^ (units.log2 - (53 - 1)) from rfl] at *
  have hk : k < units.log2 - (53 - 1) := (Nat.pow_lt_pow_iff_right (by decide)).mp h
  rw [← Nat.pow_add, ← Nat.pow_add]
  constructor
  · exact Nat.pow_le_pow_right (by decide) (by omega)
  · have hne : units ≠ 0 := by
      rintro rfl
      rw [Nat.log2_zero] at hk
      omega
    exact le_trans (Nat.pow_le_pow_right (by decide) (by omega)) (Nat.log2_self_le hne)

theorem isMagnitude_roundUnits (num den : Nat) : IsMagnitude (roundUnits num den) := by
  unfold roundUnits
  dsimp only
  generalize hstep : quantum (num * unitsPerOne / den) = step
  have hround : roundHalfEven (num * unitsPerOne) (den * step) ≤ 2 ^ 53 := by
    have hfloor := div_quantum_lt (num * unitsPerOne / den)
    rw [hstep, Nat.div_div_eq_div_mul] at hfloor
    have hle := roundHalfEven_le (num * unitsPerOne) (den * step)
    omega
  obtain ⟨k, rfl⟩ : ∃ k, step = 2 ^ k := ⟨_, hstep.symm⟩
  rcases Nat.lt_or_eq_of_le hround with hless | hfull
  · exact ⟨_, k, hless, rfl⟩
  · refine ⟨2 ^ 52, k + 1, by decide, ?_⟩
    rw [hfull, ← Nat.pow_add, ← Nat.pow_add]
    congr 1
    omega

/-- **No magnitude is nearer to a ratio than the one that it is rounded to.** -/
theorem roundUnits_nearest (num : Nat) {den : Nat} (hden : 0 < den) {units : Nat}
    (h : IsMagnitude units) :
    ((num * unitsPerOne : Nat) - (roundUnits num den * den : Nat) : Int).natAbs ≤
      ((num * unitsPerOne : Nat) - (units * den : Nat) : Int).natAbs := by
  obtain ⟨m, k, hm, rfl⟩ := h
  unfold roundUnits
  dsimp only
  generalize hscaled : num * unitsPerOne = scaled
  generalize hstep : quantum (scaled / den) = step
  have hpos : 0 < den * step := Nat.mul_pos hden (hstep ▸ quantum_pos _)
  have hnearest := roundHalfEven_nearest scaled hpos
  rw [Nat.mul_assoc, Nat.mul_comm step den]
  rcases Nat.lt_or_ge (2 ^ k) step with hsmall | hlarge
  · -- magnitudes of a finer step lie below `2 ^ 52` steps, and so does no number rounded here
    obtain ⟨hbelow, habove⟩ := le_of_quantum (hstep ▸ hsmall)
    rw [hstep] at hbelow habove
    have hedge : 2 ^ 52 * (den * step) ≤ scaled := by
      rw [show 2 ^ 52 * (den * step) = 2 ^ 52 * step * den by ring]
      exact le_trans (Nat.mul_le_mul_right den habove) (Nat.div_mul_le_self scaled den)
    have hunits : m * 2 ^ k * den ≤ 2 ^ 52 * (den * step) := by
      rw [show 2 ^ 52 * (den * step) = 2 ^ 52 * step * den by ring]
      exact Nat.mul_le_mul_right den (le_trans (Nat.mul_le_mul_right _ hm.le) hbelow)
    have hmost := hnearest (2 ^ 52)
    omega
  · -- magnitudes of a coarser step are multiples of the step
    obtain ⟨j, rfl⟩ : ∃ j, step = 2 ^ j := ⟨_, hstep.symm⟩
    have hj : j ≤ k := (Nat.pow_le_pow_iff_right (by decide)).mp hlarge
    have hmultiple : m * 2 ^ k * den = m * 2 ^ (k - j) * (den * 2 ^ j) := by
      calc m * 2 ^ k * den = m * (2 ^ (k - j) * 2 ^ j) * den := by
            rw [← Nat.pow_add, Nat.sub_add_cancel hj]
        _ = m * 2 ^ (k - j) * (den * 2 ^ j) := by ring
    rw [hmultiple]
    exact hnearest _

/-! ## 2. The numbers of the format -/

/-- The finite numbers of the format. -/
def IsFloat (x : Rat) : Prop :=
  ∃ m k : Int, |m| < 2 ^ 53 ∧ -1074 ≤ k ∧ k ≤ 971 ∧ x = m * 2 ^ k

/-- A magnitude in units as a number. -/
def magnitude (units : Nat) : Rat := units / unitsPerOne

theorem unitsPerOne_cast : (unitsPerOne : Rat) = 2 ^ (1074 : Int) := by
  obtain ⟨i, hi, hone⟩ := unitsPerOne_eq
  rw [hone, show (1074 : Int) = i by omega, zpow_natCast]
  exact Nat.cast_pow 2 i

theorem unitsPerOne_cast_pos : (0 : Rat) < unitsPerOne := Nat.cast_pos.mpr unitsPerOne_pos

theorem magnitude_nonneg (units : Nat) : 0 ≤ magnitude units :=
  div_nonneg (Nat.cast_nonneg _) unitsPerOne_cast_pos.le

theorem magnitude_mul_pow (m k : Nat) : magnitude (m * 2 ^ k) = m * 2 ^ ((k : Int) - 1074) := by
  rw [magnitude, unitsPerOne_cast, zpow_sub₀ (by norm_num), zpow_natCast, Nat.cast_mul,
    Nat.cast_pow, Nat.cast_ofNat, mul_div_assoc]

theorem unitsLimit_eq : ∃ i, i = 2045 ∧ unitsLimit = 2 ^ 53 * 2 ^ i := by
  obtain ⟨j, hj, hlimit⟩ : ∃ j, j = 2098 ∧ unitsLimit = Nat.pow 2 j := by
    delta unitsLimit
    exact ⟨_, rfl, rfl⟩
  obtain ⟨i, rfl⟩ : ∃ i, j = 53 + i := ⟨j - 53, by omega⟩
  exact ⟨i, by omega, hlimit.trans (Nat.pow_add 2 53 i)⟩

/-- The magnitudes of the format go up to a power of two. -/
theorem unitsLimit_eq_mul : ∃ i, i = 1024 ∧ unitsLimit = 2 ^ i * unitsPerOne := by
  obtain ⟨j, hj, hlimit⟩ := unitsLimit_eq
  obtain ⟨k, hk, hone⟩ := unitsPerOne_eq
  obtain ⟨i, hi⟩ : ∃ i, 53 + j = i + k := ⟨1024, by omega⟩
  refine ⟨i, by omega, ?_⟩
  rw [hlimit, hone, ← Nat.pow_add, hi, Nat.pow_add]
  rfl

theorem unitsLimit_pos : 0 < unitsLimit := by
  obtain ⟨i, _, hlimit⟩ := unitsLimit_eq
  rw [hlimit]
  exact Nat.mul_pos (by decide) (Nat.pow_pos (by decide))

theorem isFloat_neg {x : Rat} (h : IsFloat x) : IsFloat (-x) := by
  obtain ⟨m, k, hm, hlow, hhigh, rfl⟩ := h
  refine ⟨-m, k, by rwa [abs_neg], hlow, hhigh, ?_⟩
  push_cast
  ring

theorem isFloat_magnitude {units : Nat} (h : IsMagnitude units) (hlimit : units < unitsLimit) :
    IsFloat (magnitude units) := by
  obtain ⟨m, k, hm, rfl⟩ := h
  obtain ⟨i, hi, htop⟩ := unitsLimit_eq
  rcases Nat.lt_or_ge i k with hlarge | hsmall
  · -- the power is too large for the format, so some of it goes into the bits
    obtain ⟨j, rfl⟩ : ∃ j, k = j + i := ⟨k - i, by omega⟩
    rw [Nat.pow_add, ← Nat.mul_assoc] at hlimit ⊢
    rw [htop] at hlimit
    have hbits : m * 2 ^ j < 2 ^ 53 := Nat.lt_of_mul_lt_mul_right hlimit
    refine ⟨(m * 2 ^ j : Nat), (i : Int) - 1074, ?_, by omega, by omega, ?_⟩
    · rw [Nat.abs_cast]
      exact_mod_cast hbits
    · rw [magnitude_mul_pow]
      norm_num
  · refine ⟨m, (k : Int) - 1074, ?_, by omega, by omega, ?_⟩
    · rw [Nat.abs_cast]
      exact_mod_cast hm
    · rw [magnitude_mul_pow]
      norm_num

theorem IsFloat.exists_magnitude {x : Rat} (h : IsFloat x) :
    ∃ units, IsMagnitude units ∧ units < unitsLimit ∧ |x| = magnitude units := by
  obtain ⟨m, k, hm, hlow, hhigh, rfl⟩ := h
  have hbits : m.natAbs < 2 ^ 53 := by
    rw [Int.abs_eq_natAbs] at hm
    exact_mod_cast hm
  refine ⟨m.natAbs * 2 ^ (k + 1074).toNat, ⟨_, _, hbits, rfl⟩, ?_, ?_⟩
  · obtain ⟨i, hi, htop⟩ := unitsLimit_eq
    have hpow : 2 ^ (k + 1074).toNat ≤ 2 ^ i := Nat.pow_le_pow_right (by decide) (by omega)
    rw [htop]
    exact lt_of_lt_of_le (Nat.mul_lt_mul_of_pos_right hbits (Nat.pow_pos (by decide)))
      (Nat.mul_le_mul_left _ hpow)
  · rw [magnitude_mul_pow, Int.toNat_of_nonneg (by omega), Int.add_sub_cancel, abs_mul,
      abs_of_pos (zpow_pos (by norm_num : (0 : Rat) < 2) k), Nat.cast_natAbs, Int.cast_abs]

/-! ## 3. Nearest numbers -/

/-- A number of the format is nearest to a number when no other is nearer. -/
structure IsNearest (x y : Rat) : Prop where
  /-- It is one of the format. -/
  float : IsFloat y
  /-- None is nearer. -/
  nearest : ∀ z, IsFloat z → |x - y| ≤ |x - z|

/-- **Rounding keeps exactly the numbers of the format.** -/
theorem IsNearest.eq_iff {x y : Rat} (h : IsNearest x y) : y = x ↔ IsFloat x := by
  constructor
  · rintro rfl
    exact h.float
  · intro hx
    have hzero := h.nearest x hx
    rw [sub_self, abs_zero, abs_nonpos_iff] at hzero
    linarith

theorem IsNearest.neg {x y : Rat} (h : IsNearest x y) : IsNearest (-x) (-y) := by
  refine ⟨isFloat_neg h.float, fun z hz => ?_⟩
  have hnearest := h.nearest (-z) (isFloat_neg hz)
  rwa [show -x - -y = -(x - y) by ring, show -x - z = -(x - -z) by ring, abs_neg, abs_neg]

/-- For what is not negative, only magnitudes need to be compared. -/
theorem isNearest_magnitude {x : Rat} (hx : 0 ≤ x) {units : Nat} (hunits : IsMagnitude units)
    (hlimit : units < unitsLimit)
    (h : ∀ other, IsMagnitude other → |x - magnitude units| ≤ |x - magnitude other|) :
    IsNearest x (magnitude units) := by
  refine ⟨isFloat_magnitude hunits hlimit, fun z hz => ?_⟩
  obtain ⟨other, hother, _, habs⟩ := hz.exists_magnitude
  calc |x - magnitude units| ≤ |x - magnitude other| := h other hother
    _ = |(|x| - |z|)| := by rw [abs_of_nonneg hx, habs]
    _ ≤ |x - z| := abs_abs_sub_abs_le_abs_sub x z

/-! ## 4. Ratios -/

/-- What rounding makes of a number that is not negative, with a sign put before it. -/
inductive Rounds (negative : Bool) (x : Rat) : Binary64 → Prop where
  /-- A nearest number of the format. -/
  | finite {units : Nat} (h : IsNearest x (magnitude units)) :
    Rounds negative x (.finite negative units)
  /-- An infinity, beyond every number of the format. -/
  | infinite (h : ∀ z, IsFloat z → z < x) : Rounds negative x (.infinite negative)

/-- The distance between a ratio and a magnitude, counted in units of the denominator. -/
theorem abs_sub_magnitude (num : Nat) {den : Nat} (hden : 0 < den) (units : Nat) :
    |(num : Rat) / den - magnitude units| =
      ((num * unitsPerOne : Nat) - (units * den : Nat) : Int).natAbs / (den * unitsPerOne) := by
  have hdenpos : (0 : Rat) < den := Nat.cast_pos.mpr hden
  have hone := unitsPerOne_cast_pos
  have hdiff : (num : Rat) / den - magnitude units =
      ((num * unitsPerOne : Nat) - (units * den : Nat) : Int) / (den * unitsPerOne) := by
    rw [magnitude, div_sub_div _ _ hdenpos.ne' hone.ne', mul_comm (den : Rat) units]
    push_cast
    rfl
  rw [hdiff, abs_div, abs_of_pos (mul_pos hdenpos hone), Nat.cast_natAbs, Int.cast_abs]

theorem roundUnits_abs_le (num : Nat) {den : Nat} (hden : 0 < den) {units : Nat}
    (h : IsMagnitude units) :
    |(num : Rat) / den - magnitude (roundUnits num den)| ≤
      |(num : Rat) / den - magnitude units| := by
  rw [abs_sub_magnitude num hden, abs_sub_magnitude num hden]
  have hnearest := roundUnits_nearest num hden h
  have hscale : (0 : Rat) ≤ den * unitsPerOne :=
    mul_nonneg (Nat.cast_nonneg _) (Nat.cast_nonneg _)
  exact div_le_div_of_nonneg_right (Nat.cast_le.mpr hnearest) hscale

theorem rounds_ofRatio (negative : Bool) (num : Nat) {den : Nat} (hden : 0 < den) :
    Rounds negative ((num : Rat) / den) (ofRatio negative num den) := by
  have hratio : (0 : Rat) ≤ (num : Rat) / den := div_nonneg (Nat.cast_nonneg _) (Nat.cast_nonneg _)
  have hmagnitude := isMagnitude_roundUnits num den
  have hle : ∀ units, IsMagnitude units → _ := fun units h => roundUnits_abs_le num hden h
  unfold ofRatio
  dsimp only
  by_cases hlimit : roundUnits num den < unitsLimit
  · rw [if_pos hlimit]
    exact .finite (isNearest_magnitude hratio hmagnitude hlimit hle)
  · rw [if_neg hlimit]
    refine .infinite fun z hz => ?_
    obtain ⟨units, hunits, hbelow, habs⟩ := hz.exists_magnitude
    -- a number of the format that is not below the ratio would be nearer
    by_contra hge
    have hz : (num : Rat) / den ≤ magnitude units := by
      rw [← habs]
      exact le_trans (not_lt.mp hge) (le_abs_self z)
    have hmore : magnitude units < magnitude (roundUnits num den) := by
      refine div_lt_div_of_pos_right (Nat.cast_lt.mpr ?_) unitsPerOne_cast_pos
      exact lt_of_lt_of_le hbelow (not_lt.mp hlimit)
    have hnearest := hle units hunits
    rw [abs_of_nonpos (by linarith), abs_of_nonpos (by linarith)] at hnearest
    linarith

/-! ## 5. Decimal numbers -/

theorem roundHalfEven_mul (num den : Nat) {k : Nat} (hk : 0 < k) :
    roundHalfEven (num * k) (den * k) = roundHalfEven num den := by
  unfold roundHalfEven
  rw [Nat.mul_div_mul_right _ _ hk, Nat.mul_mod_mul_right, ← Nat.mul_assoc]
  simp only [Nat.mul_lt_mul_right hk]

theorem roundUnits_mul (num den : Nat) {k : Nat} (hk : 0 < k) :
    roundUnits (num * k) (den * k) = roundUnits num den := by
  unfold roundUnits
  dsimp only
  rw [Nat.mul_right_comm num k, Nat.mul_div_mul_right _ _ hk, Nat.mul_right_comm den k,
    roundHalfEven_mul _ _ hk]

theorem roundUnits_congr {num den num' den' : Nat} (hden : 0 < den) (hden' : 0 < den')
    (h : num * den' = num' * den) : roundUnits num den = roundUnits num' den' :=
  calc roundUnits num den = roundUnits (num * den') (den * den') := (roundUnits_mul _ _ hden').symm
    _ = roundUnits (num' * den) (den' * den) := by rw [h, Nat.mul_comm den den']
    _ = roundUnits num' den' := roundUnits_mul _ _ hden

/-- A decimal is a ratio, and is rounded as one. -/
theorem exists_ratio (d : DecimalForm) :
    ∃ num den : Nat, 0 < den ∧ d.value = (num : Rat) / den ∧ unitsOf d = roundUnits num den ∧
      ∀ negative, ofScaled negative d.digits d.exponent = ofRatio negative num den := by
  obtain ⟨digits, exponent⟩ := d
  cases exponent with
  | ofNat e =>
    refine ⟨digits * Nat.pow 10 e, 1, Nat.one_pos, ?_, rfl, fun _ => rfl⟩
    rw [DecimalForm.value, Int.ofNat_eq_natCast, zpow_natCast, Nat.cast_one, div_one, Nat.cast_mul]
    congr 1
    exact (Nat.cast_pow 10 e).symm
  | negSucc e =>
    refine ⟨digits, Nat.pow 10 (e + 1), Nat.pow_pos (by decide), ?_, rfl, fun _ => rfl⟩
    rw [DecimalForm.value, zpow_negSucc, div_eq_mul_inv]
    congr 2
    exact (Nat.cast_pow 10 (e + 1)).symm

variable {d other : DecimalForm}

theorem unitsOf_congr (h : d.value = other.value) : unitsOf d = unitsOf other := by
  obtain ⟨num, den, hden, hvalue, hunits, _⟩ := exists_ratio d
  obtain ⟨num', den', hden', hvalue', hunits', _⟩ := exists_ratio other
  rw [hunits, hunits']
  refine roundUnits_congr hden hden' ?_
  rw [hvalue, hvalue', div_eq_div_iff (Nat.cast_pos.mpr hden).ne' (Nat.cast_pos.mpr hden').ne'] at h
  exact_mod_cast h

theorem ofScaled_eq (negative : Bool) (d : DecimalForm) :
    ofScaled negative d.digits d.exponent =
      if unitsOf d < unitsLimit then .finite negative (unitsOf d) else .infinite negative := by
  obtain ⟨num, den, _, _, hunits, hratio⟩ := exists_ratio d
  rw [hratio, hunits]
  rfl

/-- No magnitude is nearer to a decimal than the one that it is rounded to. -/
theorem unitsOf_abs_le {units : Nat} (h : IsMagnitude units) :
    |d.value - magnitude (unitsOf d)| ≤ |d.value - magnitude units| := by
  obtain ⟨num, den, hden, hvalue, hunits, _⟩ := exists_ratio d
  rw [hvalue, hunits]
  exact roundUnits_abs_le num hden h

theorem isMagnitude_unitsOf (d : DecimalForm) : IsMagnitude (unitsOf d) := by
  obtain ⟨num, den, _, _, hunits, _⟩ := exists_ratio d
  rw [hunits]
  exact isMagnitude_roundUnits num den

theorem rounds_ofScaled (negative : Bool) (d : DecimalForm) :
    Rounds negative d.value (ofScaled negative d.digits d.exponent) := by
  obtain ⟨num, den, hden, hvalue, _, hratio⟩ := exists_ratio d
  rw [hvalue, hratio]
  exact rounds_ofRatio negative num hden

/-! ## 6. Far beyond the range of the format -/

theorem magnitude_zero : magnitude 0 = 0 := by rw [magnitude, Nat.cast_zero, zero_div]

theorem magnitude_lt_iff {units more : Nat} : magnitude units < magnitude more ↔ units < more := by
  rw [magnitude, magnitude, div_lt_div_iff_of_pos_right unitsPerOne_cast_pos, Nat.cast_lt]

theorem isMagnitude_pow (k : Nat) : IsMagnitude (2 ^ k) := ⟨1, k, by decide, (Nat.one_mul _).symm⟩

theorem magnitude_pow (k : Nat) : magnitude (2 ^ k) = 2 ^ ((k : Int) - 1074) := by
  have hpow := magnitude_mul_pow 1 k
  rwa [Nat.one_mul, Nat.cast_one, one_mul] at hpow

/-- Powers of ten grow faster than powers of eight. -/
theorem two_zpow_le_ten (n : Nat) : (2 : Rat) ^ ((3 * n : Nat) : Int) ≤ 10 ^ (n : Int) := by
  rw [zpow_natCast, zpow_natCast, pow_mul]
  exact pow_le_pow_left₀ (by norm_num) (by norm_num) n

/-- What is this large is rounded to no magnitude of the format. -/
theorem unitsLimit_le_unitsOf (h : 10 ^ farPower ≤ d.value) : unitsLimit ≤ unitsOf d := by
  obtain ⟨k, hk, hlimit⟩ : ∃ k, k = 2098 ∧ unitsLimit = 2 ^ k := by
    obtain ⟨i, hi, hlimit⟩ := unitsLimit_eq
    exact ⟨53 + i, by omega, by rw [hlimit, Nat.pow_add]⟩
  by_contra hbelow
  rw [not_le] at hbelow
  have hnearest := unitsOf_abs_le (d := d) (isMagnitude_pow k)
  rw [← hlimit] at hnearest
  have hless := magnitude_lt_iff.mpr hbelow
  -- the first magnitude beyond the format is nearer
  have hlarge : magnitude unitsLimit ≤ d.value := by
    rw [hlimit, magnitude_pow]
    calc (2 : Rat) ^ ((k : Int) - 1074) ≤ 2 ^ ((3 * 400 : Nat) : Int) :=
          zpow_le_zpow_right₀ (by norm_num) (by omega)
      _ ≤ 10 ^ farPower := two_zpow_le_ten 400
      _ ≤ d.value := h
  rw [abs_of_nonneg (by linarith), abs_of_nonneg (by linarith)] at hnearest
  linarith

/-- What is this small is rounded to zero. -/
theorem unitsOf_eq_zero (hd : 0 ≤ d.value) (h : d.value ≤ 10 ^ (-farPower)) : unitsOf d = 0 := by
  by_contra hne
  have hzero : IsMagnitude 0 := ⟨0, 0, by decide, rfl⟩
  have hnearest := unitsOf_abs_le (d := d) hzero
  rw [magnitude_zero, sub_zero, abs_of_nonneg hd] at hnearest
  have hunit : magnitude (2 ^ 0) ≤ magnitude (unitsOf d) := by
    refine div_le_div_of_nonneg_right (Nat.cast_le.mpr ?_) unitsPerOne_cast_pos.le
    rw [Nat.pow_zero]
    exact Nat.pos_of_ne_zero hne
  rw [magnitude_pow] at hunit
  have hsmall : 2 * d.value < 2 ^ (((0 : Nat) : Int) - 1074) := by
    have hinv : ((10 : Rat) ^ farPower)⁻¹ ≤ (2 ^ ((3 * 400 : Nat) : Int))⁻¹ :=
      inv_anti₀ (zpow_pos (by norm_num) _) (two_zpow_le_ten 400)
    rw [zpow_neg] at h
    calc 2 * d.value ≤ 2 * (2 ^ ((3 * 400 : Nat) : Int))⁻¹ := by linarith
      _ = 2 ^ (1 + -((3 * 400 : Nat) : Int)) := by
        rw [zpow_add₀ (by norm_num), zpow_one, zpow_neg]
      _ < 2 ^ (((0 : Nat) : Int) - 1074) := zpow_lt_zpow_right₀ (by norm_num) (by norm_num)
  have hdistance := abs_le.mp hnearest
  linarith [hdistance.1]

theorem lt_ten_pow_length (n : Nat) : (n : Rat) < 10 ^ ((Nat.toDigits 10 n).length : Int) := by
  rw [zpow_natCast]
  exact_mod_cast (Nat.length_toDigits_le_iff (by decide) Nat.length_toDigits_pos).mp (le_refl _)

theorem ten_pow_le_of_pos {n : Nat} (hn : n ≠ 0) :
    (10 : Rat) ^ ((Nat.toDigits 10 n).length - 1 : Int) ≤ n := by
  have hlength : 0 < (Nat.toDigits 10 n).length := Nat.length_toDigits_pos
  obtain ⟨k, hk⟩ : ∃ k, (Nat.toDigits 10 n).length = k + 1 := ⟨_, (Nat.sub_add_cancel hlength).symm⟩
  rw [hk, Nat.cast_add, Nat.cast_one, Int.add_sub_cancel, zpow_natCast]
  cases k with
  | zero => exact_mod_cast Nat.pos_of_ne_zero hn
  | succ k =>
    have hnot : ¬ n < 10 ^ (k + 1) := by
      rw [← Nat.length_toDigits_le_iff (by decide) (Nat.succ_pos k)]
      omega
    exact_mod_cast not_lt.mp hnot

/-- **The shortcuts change nothing**: what the leading digit decides is what rounding gives. -/
theorem ofDecimal_eq_ofScaled (negative : Bool) (d : DecimalForm) :
    ofDecimal negative d.digits d.exponent = ofScaled negative d.digits d.exponent := by
  have hscale : (0 : Rat) < 10 ^ d.exponent := zpow_pos (by norm_num) _
  have hvalue : 0 ≤ d.value := mul_nonneg (Nat.cast_nonneg _) hscale.le
  have hzero : unitsOf d = 0 → ofScaled negative d.digits d.exponent = .finite negative 0 := by
    intro h
    rw [ofScaled_eq, h, if_pos unitsLimit_pos]
  unfold ofDecimal
  dsimp only
  by_cases hnone : d.digits = 0
  · rw [if_pos hnone]
    refine (hzero (unitsOf_eq_zero hvalue ?_)).symm
    rw [DecimalForm.value, hnone, Nat.cast_zero, zero_mul]
    exact (zpow_pos (by norm_num) _).le
  rw [if_neg hnone]
  have habove := ten_pow_le_of_pos hnone
  have hbelow := lt_ten_pow_length d.digits
  generalize ((Nat.toDigits 10 d.digits).length : Int) = n at *
  by_cases hhigh : farPower < n + d.exponent
  · rw [if_pos hhigh, ofScaled_eq, if_neg]
    refine not_lt.mpr (unitsLimit_le_unitsOf ?_)
    calc (10 : Rat) ^ farPower ≤ 10 ^ (n - 1 + d.exponent) :=
          zpow_le_zpow_right₀ (by norm_num) (by omega)
      _ = 10 ^ (n - 1) * 10 ^ d.exponent := zpow_add₀ (by norm_num) _ _
      _ ≤ d.value := mul_le_mul_of_nonneg_right habove hscale.le
  rw [if_neg hhigh]
  by_cases hlow : n + d.exponent < -farPower
  · rw [if_pos hlow]
    refine (hzero (unitsOf_eq_zero hvalue ?_)).symm
    calc d.value ≤ 10 ^ n * 10 ^ d.exponent := mul_le_mul_of_nonneg_right hbelow.le hscale.le
      _ = 10 ^ (n + d.exponent) := (zpow_add₀ (by norm_num) _ _).symm
      _ ≤ 10 ^ (-farPower) := zpow_le_zpow_right₀ (by norm_num) hlow.le
  · rw [if_neg hlow]

/-- **A decimal number is rounded to the nearest number of the format**, or to an infinity. -/
theorem rounds_ofDecimal (negative : Bool) (coefficient : Nat) (exponent : Int) :
    Rounds negative (coefficient * 10 ^ exponent) (ofDecimal negative coefficient exponent) := by
  have hscaled := ofDecimal_eq_ofScaled negative ⟨coefficient, exponent⟩
  dsimp only at hscaled
  rw [hscaled]
  exact rounds_ofScaled negative ⟨coefficient, exponent⟩

/-! ## 7. Whole values -/

/-- The number that a sign and a magnitude in units stand for. -/
def signedMagnitude (negative : Bool) (units : Nat) : Rat :=
  if negative then -magnitude units else magnitude units

theorem magnitude_eq_natCast_iff {units n : Nat} :
    magnitude units = n ↔ units = n * unitsPerOne := by
  rw [magnitude, div_eq_iff unitsPerOne_cast_pos.ne']
  exact_mod_cast Iff.rfl

theorem abs_signedMagnitude (negative : Bool) (units : Nat) :
    |signedMagnitude negative units| = magnitude units := by
  unfold signedMagnitude
  split
  · rw [abs_neg, abs_of_nonneg (magnitude_nonneg _)]
  · rw [abs_of_nonneg (magnitude_nonneg _)]

theorem signedMagnitude_mul (negative : Bool) (n : Nat) :
    signedMagnitude negative (n * unitsPerOne) = ((if negative then -n else n : Int) : Rat) := by
  unfold signedMagnitude
  rw [magnitude_eq_natCast_iff.mpr rfl]
  cases negative <;> simp

theorem toInt?_finite (negative : Bool) (units : Nat) :
    (finite negative units).toInt? =
      if units % unitsPerOne = 0 then
        some (if negative then -((units / unitsPerOne : Nat) : Int)
          else (units / unitsPerOne : Nat))
      else none := rfl

/-- **A finite number counts as whole iff its value is**, and then as that value. -/
theorem toInt?_eq_some_iff {negative : Bool} {units : Nat} {n : Int} :
    (finite negative units).toInt? = some n ↔ signedMagnitude negative units = n := by
  rw [toInt?_finite]
  constructor
  · intro h
    split at h
    · rename_i hwhole
      cases h
      have hvalue := signedMagnitude_mul negative (units / unitsPerOne)
      rwa [Nat.div_mul_cancel (Nat.dvd_of_mod_eq_zero hwhole)] at hvalue
    · cases h
  · intro h
    have hunits : units = n.natAbs * unitsPerOne := by
      rw [← magnitude_eq_natCast_iff, Nat.cast_natAbs, Int.cast_abs, ← h, abs_signedMagnitude]
    rw [hunits, signedMagnitude_mul, Int.cast_inj] at h
    rw [hunits, if_pos (Nat.mul_mod_left _ _), Nat.mul_div_cancel _ unitsPerOne_pos, h]

end Binary64

end BooksGateway
