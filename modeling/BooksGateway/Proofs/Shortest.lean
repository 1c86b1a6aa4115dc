import BooksGateway.Proofs.Layout
import BooksGateway.Proofs.Rounding
import Mathlib.Data.Nat.Cast.Order.Field

/-!
# Numbers survive being written

The text of a floating-point number is read back as this number. Two magnitudes of the format
differ by at least one part in `2 ^ 53`, and a decimal with seventeen digits that is nearest to a
magnitude is closer to it than half of that, so one of at most seventeen digits rounds back to it.

* `unitsOf_eq_of_close`: what is close to a magnitude rounds to it;
* `unitsOf_shortest`: the shortest decimal rounds back;
* `exists_decimal_finite`: the texts of finite numbers, and what they are read back as.
-/

namespace BooksGateway

namespace Binary64

variable {d : DecimalForm}

/-! ## 1. Gaps between magnitudes -/

/-- **Two magnitudes differ by at least one part in `2 ^ 53`** of either of them. -/
theorem IsMagnitude.le_mul_sub {units other : Nat} (h : IsMagnitude units)
    (hother : IsMagnitude other) (hne : units ≠ other) :
    units ≤ 2 ^ 53 * ((units : Int) - other).natAbs := by
  obtain ⟨m, k, hm, rfl⟩ := h
  obtain ⟨n, j, hn, rfl⟩ := hother
  rcases Nat.le_total k j with hkj | hjk
  · -- both are multiples of the step of the first one, which is less than `2 ^ 53` steps
    obtain ⟨i, rfl⟩ := Nat.exists_eq_add_of_le hkj
    have hmultiple : n * 2 ^ (k + i) = n * 2 ^ i * 2 ^ k := by rw [Nat.pow_add]; ring
    rw [hmultiple] at hne ⊢
    have hdiff : m ≠ n * 2 ^ i := fun heq => hne (by rw [heq])
    have hsub : (((m * 2 ^ k : Nat) : Int) - (n * 2 ^ i * 2 ^ k : Nat)).natAbs =
        ((m : Int) - (n * 2 ^ i : Nat)).natAbs * 2 ^ k := by
      rw [Nat.cast_mul, Nat.cast_mul (n * 2 ^ i), ← sub_mul, Int.natAbs_mul, Int.natAbs_natCast]
    rw [hsub, ← Nat.mul_assoc]
    refine Nat.mul_le_mul_right _ ?_
    omega
  · -- the second one is less than `2 ^ 53` of its steps, and the first one is a multiple of them
    obtain ⟨i, rfl⟩ := Nat.exists_eq_add_of_le hjk
    have hmultiple : m * 2 ^ (j + i) = m * 2 ^ i * 2 ^ j := by rw [Nat.pow_add]; ring
    rw [hmultiple] at hne ⊢
    have hdiff : m * 2 ^ i ≠ n := fun heq => hne (by rw [heq])
    have hsub : (((m * 2 ^ i * 2 ^ j : Nat) : Int) - (n * 2 ^ j : Nat)).natAbs =
        (((m * 2 ^ i : Nat) : Int) - n).natAbs * 2 ^ j := by
      rw [Nat.cast_mul, Nat.cast_mul n, ← sub_mul, Int.natAbs_mul, Int.natAbs_natCast]
    rw [hsub, ← Nat.mul_assoc]
    refine Nat.mul_le_mul_right _ ?_
    omega

theorem abs_magnitude_sub (units other : Nat) :
    |magnitude units - magnitude other| = magnitude ((units : Int) - other).natAbs := by
  rw [magnitude, magnitude, ← sub_div, abs_div, abs_of_pos unitsPerOne_cast_pos, magnitude,
    Nat.cast_natAbs, Int.cast_abs]
  push_cast
  rfl

theorem IsMagnitude.magnitude_le {units other : Nat} (h : IsMagnitude units)
    (hother : IsMagnitude other) (hne : units ≠ other) :
    magnitude units ≤ 2 ^ 53 * |magnitude units - magnitude other| := by
  rw [abs_magnitude_sub, magnitude, magnitude, ← mul_div_assoc]
  refine div_le_div_of_nonneg_right ?_ unitsPerOne_cast_pos.le
  exact_mod_cast h.le_mul_sub hother hne

/-- **What is close to a magnitude rounds to it.** -/
theorem unitsOf_eq_of_close {units : Nat} (h : IsMagnitude units)
    (hclose : 2 ^ 54 * |d.value - magnitude units| < magnitude units) : unitsOf d = units := by
  by_contra hne
  have hgap := h.magnitude_le (isMagnitude_unitsOf d) (Ne.symm hne)
  have hnearest := unitsOf_abs_le (d := d) h
  have htriangle : |magnitude units - magnitude (unitsOf d)| ≤
      |d.value - magnitude units| + |d.value - magnitude (unitsOf d)| := by
    rw [abs_sub_comm d.value (magnitude units)]
    exact abs_sub_le _ _ _
  linarith

/-! ## 2. Seventeen digits -/

theorem ten_pow_leadingPower_le {num den : Nat} (hnum : 0 < num) (hden : 0 < den) :
    (10 : Rat) ^ leadingPower num den ≤ num / den := by
  have hdenpos : (0 : Rat) < den := Nat.cast_pos.mpr hden
  unfold leadingPower decimalDigits
  by_cases hlarge : den ≤ num
  · rw [if_pos hlarge]
    have hquotient : num / den ≠ 0 := (Nat.div_pos hlarge hden).ne'
    calc (10 : Rat) ^ ((Nat.toDigits 10 (num / den)).length - 1 : Int) ≤ (num / den : Nat) :=
          ten_pow_le_of_pos hquotient
      _ ≤ num / den := Nat.cast_div_le
  · rw [if_neg hlarge]
    dsimp only
    obtain ⟨places, hplaces⟩ : ∃ places, (Nat.toDigits 10 (den / num)).length = places + 1 :=
      ⟨_, (Nat.sub_add_cancel Nat.length_toDigits_pos).symm⟩
    rw [hplaces, Nat.add_sub_cancel]
    by_cases hpower : num * Nat.pow 10 places = den
    · -- the ratio is a power of ten
      rw [if_pos hpower, le_div_iff₀ hdenpos, ← hpower, Nat.cast_add, Nat.cast_one,
        sub_add_cancel_right, zpow_neg, zpow_natCast, inv_mul_le_iff₀ (pow_pos (by norm_num) _)]
      rw [Nat.cast_mul, mul_comm]
      exact le_of_eq (congrArg (· * (num : Rat)) (Nat.cast_pow 10 places))
    · have hbelow := lt_ten_pow_length (den / num)
      rw [hplaces, zpow_natCast] at hbelow
      have hless : den < 10 ^ (places + 1) * num :=
        (Nat.div_lt_iff_lt_mul hnum).mp (by exact_mod_cast hbelow)
      rw [if_neg hpower, le_div_iff₀ hdenpos, zpow_neg, zpow_natCast,
        inv_mul_le_iff₀ (pow_pos (by norm_num) _)]
      exact_mod_cast hless.le

theorem exists_scaledFloor (num : Nat) {den : Nat} (hden : 0 < den) (power : Int) :
    ∃ a b : Nat, 0 < b ∧ scaledFloor num den power = a / b ∧
      (num : Rat) / den = a / b * 10 ^ power := by
  have hdenpos : (0 : Rat) < den := Nat.cast_pos.mpr hden
  cases power with
  | ofNat e =>
    refine ⟨num, den * 10 ^ e, Nat.mul_pos hden (Nat.pow_pos (by decide)), rfl, ?_⟩
    rw [Int.ofNat_eq_natCast, zpow_natCast]
    push_cast
    field_simp
  | negSucc e =>
    refine ⟨num * 10 ^ (e + 1), den, hden, rfl, ?_⟩
    rw [zpow_negSucc]
    push_cast
    field_simp

/-- Cutting off leaves a multiple of a power of ten that is at most one step below. -/
theorem scaledFloor_bounds (num : Nat) {den : Nat} (hden : 0 < den) (power : Int) :
    (scaledFloor num den power : Rat) * 10 ^ power ≤ num / den ∧
      (num : Rat) / den < (scaledFloor num den power + 1 : Nat) * 10 ^ power := by
  obtain ⟨a, b, hb, hfloor, hratio⟩ := exists_scaledFloor num hden power
  have hscale : (0 : Rat) < 10 ^ power := zpow_pos (by norm_num) _
  rw [hfloor, hratio, mul_le_mul_iff_left₀ hscale, mul_lt_mul_iff_left₀ hscale]
  refine ⟨Nat.cast_div_le, ?_⟩
  rw [div_lt_iff₀ (Nat.cast_pos.mpr hb)]
  exact_mod_cast (Nat.div_lt_iff_lt_mul hb).mp (Nat.lt_succ_self (a / b))

/-- **Seventeen digits suffice**: of the two decimals on either side of a magnitude one is close
    enough to round back to it. -/
theorem unitsOf_seventeen {units : Nat} (h : IsMagnitude units) (hpos : 0 < units) {exponent : Int}
    (hexponent : exponent = leadingPower units unitsPerOne - 16) :
    unitsOf ⟨scaledFloor units unitsPerOne exponent, exponent⟩ = units ∨
      unitsOf ⟨scaledFloor units unitsPerOne exponent + 1, exponent⟩ = units := by
  obtain ⟨hbelow, habove⟩ := scaledFloor_bounds units unitsPerOne_pos exponent
  have hleading := ten_pow_leadingPower_le hpos unitsPerOne_pos
  rw [← magnitude] at hbelow habove hleading
  generalize leadingPower units unitsPerOne = top at hexponent hleading
  have hstep : (10 : Rat) ^ 16 * 10 ^ exponent ≤ magnitude units := by
    have hpower : ((16 : Nat) : Int) + (top - 16) = top := by omega
    rwa [hexponent, ← zpow_natCast, ← zpow_add₀ (by norm_num), hpower]
  have hscale : (0 : Rat) < 10 ^ exponent := zpow_pos (by norm_num) _
  push_cast at habove
  generalize scaledFloor units unitsPerOne exponent = floor at *
  generalize hten : (10 : Rat) ^ exponent = step at *
  by_cases hnear : magnitude units - floor * step ≤ (floor + 1) * step - magnitude units
  · refine .inl (unitsOf_eq_of_close h ?_)
    have hdistance : |DecimalForm.value ⟨floor, exponent⟩ - magnitude units| =
        magnitude units - floor * step := by
      rw [DecimalForm.value, hten, abs_of_nonpos (by linarith), neg_sub]
    rw [hdistance]
    linarith
  · refine .inr (unitsOf_eq_of_close h ?_)
    have hdistance : |DecimalForm.value ⟨floor + 1, exponent⟩ - magnitude units| =
        (floor + 1) * step - magnitude units := by
      rw [DecimalForm.value, hten, Nat.cast_succ, abs_of_nonneg (by linarith)]
    rw [hdistance]
    linarith

/-! ## 3. The shortest decimal -/

theorem nearer_cases (units : Nat) (a b : DecimalForm) :
    nearer units a b = a ∨ nearer units a b = b := by
  unfold nearer
  split
  · exact .inl rfl
  split
  · exact .inr rfl
  split
  · exact .inl rfl
  · exact .inr rfl

theorem unitsOf_of_atExponent? {units : Nat} {exponent : Int}
    (h : atExponent? units exponent = some d) : unitsOf d = units := by
  unfold atExponent? at h
  dsimp only at h
  split at h
  · rename_i hbelow habove
    cases h
    rcases nearer_cases units ⟨scaledFloor units unitsPerOne exponent, exponent⟩
      ⟨scaledFloor units unitsPerOne exponent + 1, exponent⟩ with hnear | hnear
    · rw [hnear]
      exact beq_iff_eq.mp hbelow
    · rw [hnear]
      exact beq_iff_eq.mp habove
  · rename_i hbelow _
    cases h
    exact beq_iff_eq.mp hbelow
  · rename_i _ habove
    cases h
    exact beq_iff_eq.mp habove
  · cases h

theorem atExponent?_isSome {units : Nat} {exponent : Int}
    (h : unitsOf ⟨scaledFloor units unitsPerOne exponent, exponent⟩ = units ∨
      unitsOf ⟨scaledFloor units unitsPerOne exponent + 1, exponent⟩ = units) :
    (atExponent? units exponent).isSome = true := by
  unfold atExponent?
  dsimp only
  split
  · rfl
  · rfl
  · rfl
  · rename_i hbelow habove
    rcases h with h | h
    · exact absurd h (beq_eq_false_iff_ne.mp hbelow)
    · exact absurd h (beq_eq_false_iff_ne.mp habove)

/-- The shortest decimal was found, or none of up to seventeen digits rounds back. -/
theorem shortest_cases (units : Nat) :
    (∃ exponent, atExponent? units exponent = some (shortest units)) ∨
      shortest units = ⟨0, 0⟩ ∧
        ∀ n : Nat, n < 17 → atExponent? units (leadingPower units unitsPerOne - n) = none := by
  unfold shortest
  dsimp only
  cases hfound : (List.range 17).findSome? fun n : Nat =>
      atExponent? units (leadingPower units unitsPerOne - (n : Int)) with
  | none =>
    exact .inr ⟨rfl, fun n hn => List.findSome?_eq_none_iff.mp hfound n (List.mem_range.mpr hn)⟩
  | some d =>
    obtain ⟨n, _, hn⟩ := List.exists_of_findSome?_eq_some hfound
    exact .inl ⟨_, hn⟩

/-- **The shortest decimal of a magnitude rounds back to it.** -/
theorem unitsOf_shortest {units : Nat} (h : IsMagnitude units) (hpos : 0 < units) :
    unitsOf (shortest units) = units := by
  rcases shortest_cases units with ⟨exponent, hfound⟩ | ⟨_, hnone⟩
  · exact unitsOf_of_atExponent? hfound
  · have hsome := atExponent?_isSome (unitsOf_seventeen h hpos rfl)
    have hnot : atExponent? units (leadingPower units unitsPerOne - 16) = none :=
      hnone 16 (by decide)
    rw [hnot] at hsome
    cases hsome

/-! ## 4. Texts of finite numbers -/

theorem unitsOf_zero (exponent : Int) : unitsOf ⟨0, exponent⟩ = 0 := by
  have hvalue : DecimalForm.value ⟨0, exponent⟩ = 0 := by
    rw [DecimalForm.value, Nat.cast_zero, zero_mul]
  exact unitsOf_eq_zero hvalue.ge (hvalue.trans_le (zpow_pos (by norm_num) _).le)

theorem sign_text (negative : Bool) :
    Numeral.Sign (if negative then "-" else "" : String).toList negative := by
  cases negative with
  | false => exact .none
  | true => exact .minus

/-- What is rounded to some magnitude has a digit that is not zero. -/
theorem digits_ne_zero (h : unitsOf d ≠ 0) : d.digits ≠ 0 := by
  obtain ⟨digits, exponent⟩ := d
  rintro rfl
  exact h (unitsOf_zero exponent)

/-- **Units are written in decimal notation**, and what the notation denotes rounds back to them if
    they are a magnitude of the format. -/
theorem exists_unsigned_renderUnits (units : Nat) :
    ∃ coefficient exponent,
      Numeral.Unsigned (renderUnits .plain units) coefficient exponent ∧
      (IsMagnitude units → unitsOf ⟨coefficient, exponent⟩ = units) := by
  have hpoint : Numeral.Unsigned ['0', '.', '0'] 0 (-1) :=
    Numeral.unsigned_point_alone (Numeral.isDigitRow_zeros 1) (Numeral.isDigitRow_zeros 1)
      (List.cons_ne_nil _ _) (List.cons_ne_nil _ _)
  unfold renderUnits
  by_cases hzero : units = 0
  · rw [if_pos hzero, hzero]
    exact ⟨0, -1, hpoint, fun _ => unitsOf_zero _⟩
  rw [if_neg hzero]
  rcases shortest_cases units with ⟨exponent, hfound⟩ | ⟨hnone, _⟩
  · have hunits := unitsOf_of_atExponent? hfound
    have hdigits : (shortest units).digits ≠ 0 := by
      refine digits_ne_zero ?_
      rw [hunits]
      exact hzero
    obtain ⟨coefficient, exponent, hunsigned, hvalue⟩ :=
      Numeral.unsignedFor_decimalForm .plain hdigits
    have hsame : DecimalForm.value ⟨coefficient, exponent⟩ = (shortest units).value := hvalue
    exact ⟨coefficient, exponent, hunsigned, fun _ => (unitsOf_congr hsame).trans hunits⟩
  · -- no such units are a magnitude
    rw [hnone]
    refine ⟨0, -1, hpoint, fun h => ?_⟩
    have hunits := unitsOf_shortest h (Nat.pos_of_ne_zero hzero)
    rw [hnone, unitsOf_zero] at hunits
    exact absurd hunits.symm hzero

/-- **A finite number is written in decimal notation, and read back as itself** if it is one of the
    format. -/
theorem exists_decimal_finite (negative : Bool) (units : Nat) :
    ∃ w, Numeral.Decimal (Value.floatText (.finite negative units)).toList w ∧
      (IsMagnitude units → units < unitsLimit →
        ofDecimal w.negative w.coefficient w.exponent = .finite negative units) := by
  obtain ⟨coefficient, exponent, hunsigned, hunits⟩ := exists_unsigned_renderUnits units
  refine ⟨⟨negative, coefficient, exponent⟩, ?_, fun hmagnitude hlimit => ?_⟩
  · rw [Value.floatText, render, String.toList_append, String.toList_ofList]
    exact hunsigned.decimal (sign_text negative)
  · dsimp only
    rw [ofDecimal_eq_ofScaled negative ⟨coefficient, exponent⟩,
      ofScaled_eq negative ⟨coefficient, exponent⟩, hunits hmagnitude, if_pos hlimit]

end Binary64

end BooksGateway
