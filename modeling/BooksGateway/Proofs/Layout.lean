import BooksGateway.Proofs.Decimals
import BooksGateway.Proofs.NumberText
import Mathlib.Algebra.Order.Field.Basic
import Mathlib.Tactic.Ring

/-!
# The layout of numbers is decimal notation

However the digits of a number are laid out, with zeros before or after them, with a point, or with
an exponent, the text is a number in decimal notation, and its value is that of the digits at their
powers of ten.

* `Unsigned`: decimal notation without a sign;
* `unsignedFor_layOut`: layouts are such notation, with the value of what is laid out;
* `unsignedFor_decimalForm`: so are layouts of digits without the zeros at their end;
* `exists_decimal_int`: whole numbers are written in the same notation.
-/

namespace BooksGateway

open Numeral

/-! ## 1. Rows of ten digits -/

namespace Numeral

/-- The values of digits from zero to nine. -/
def digitValues (cs : List Char) : List Nat := cs.map fun c => c.toNat - '0'.toNat

/-- A row of digits from zero to nine. -/
def IsDigitRow (cs : List Char) : Prop := ∀ c ∈ cs, c.isDigit = true

theorem digitValue?_of_isDigit {c : Char} (h : c.isDigit = true) :
    Text.digitValue? c = some (c.toNat - '0'.toNat) := by
  have hrange : 0x30 ≤ c.toNat ∧ c.toNat ≤ 0x39 := Char.isDigit_iff_toNat.mp h
  unfold Text.digitValue?
  rw [if_pos (by omega), if_pos hrange]
  rfl

theorem IsDigitRow.digits {cs : List Char} (h : IsDigitRow cs) (hne : cs ≠ []) :
    Digits cs (digitValues cs) := by
  induction cs with
  | nil => exact absurd rfl hne
  | cons c rest ih =>
    have hc := digitValue?_of_isDigit (h c List.mem_cons_self)
    cases rest with
    | nil => exact .last hc
    | cons next more =>
      exact .next hc (ih (fun d hd => h d (List.mem_cons_of_mem _ hd)) (List.cons_ne_nil _ _))

theorem ofDigits_digitValues (cs : List Char) :
    ofDigits (digitValues cs) = Nat.ofDigitChars 10 cs 0 := by
  rw [ofDigits, digitValues, List.foldl_map, Nat.ofDigitChars_eq_foldl]

theorem isDigitRow_append {cs ds : List Char} :
    IsDigitRow (cs ++ ds) ↔ IsDigitRow cs ∧ IsDigitRow ds := List.forall_mem_append

theorem isDigitRow_zeros (n : Nat) : IsDigitRow (List.replicate n '0') := by
  intro c hc
  rw [List.eq_of_mem_replicate hc]
  rfl

theorem IsDigitRow.take {cs : List Char} (h : IsDigitRow cs) (n : Nat) : IsDigitRow (cs.take n) :=
  fun c hc => h c (List.mem_of_mem_take hc)

theorem IsDigitRow.drop {cs : List Char} (h : IsDigitRow cs) (n : Nat) : IsDigitRow (cs.drop n) :=
  fun c hc => h c (List.mem_of_mem_drop hc)

theorem isDigitRow_decimalDigits (n : Nat) : IsDigitRow (decimalDigits n) := fun _ hc =>
  Nat.isDigit_of_mem_toDigits (by decide) (by decide) hc

theorem ofDigitChars_append (cs ds : List Char) :
    Nat.ofDigitChars 10 (cs ++ ds) 0 =
      Nat.ofDigitChars 10 cs 0 * 10 ^ ds.length + Nat.ofDigitChars 10 ds 0 := by
  rw [Nat.ofDigitChars_append, Nat.ofDigitChars_eq_ofDigitChars_zero, Nat.mul_comm]

theorem ofDigitChars_decimalDigits (n : Nat) : Nat.ofDigitChars 10 (decimalDigits n) 0 = n :=
  Nat.ofDigitChars_toDigits (by decide) (by decide)

/-! ## 2. Decimal notation without a sign -/

/-- Decimal notation without a sign: its digits, read as one whole number, and the power of ten of
    its last digit. -/
inductive Unsigned : List Char → Nat → Int → Prop where
  /-- Digits with a point among them or none, and an exponent or none. -/
  | mk {mantissa exponent : List Char} {ds : List Nat} {places : Nat} {power : Int}
    (hmantissa : Mantissa mantissa ds places) (hexponent : Exponent exponent power) :
    Unsigned (mantissa ++ exponent) (ofDigits ds) (power - places)

theorem Unsigned.decimal {sign cs : List Char} {negative : Bool} {coefficient : Nat}
    {exponent : Int} (hsign : Sign sign negative) (h : Unsigned cs coefficient exponent) :
    Decimal (sign ++ cs) ⟨negative, coefficient, exponent⟩ := by
  cases h with
  | mk hmantissa hexponent => exact .mk hsign hmantissa hexponent

theorem unsigned_row {cs exponent : List Char} {power : Int} (h : IsDigitRow cs) (hne : cs ≠ [])
    (hexponent : Exponent exponent power) :
    Unsigned (cs ++ exponent) (Nat.ofDigitChars 10 cs 0) power := by
  have hunsigned := Unsigned.mk (.whole (h.digits hne)) hexponent
  rwa [ofDigits_digitValues, Nat.cast_zero, sub_zero] at hunsigned

theorem unsigned_point {front back exponent : List Char} {power : Int} (hfront : IsDigitRow front)
    (hback : IsDigitRow back) (hfrontNe : front ≠ []) (hbackNe : back ≠ [])
    (hexponent : Exponent exponent power) :
    Unsigned (front ++ '.' :: back ++ exponent) (Nat.ofDigitChars 10 (front ++ back) 0)
      (power - back.length) := by
  have hunsigned :=
    Unsigned.mk (.around (hfront.digits hfrontNe) (hback.digits hbackNe)) hexponent
  rwa [digitValues, digitValues, ← List.map_append, ← digitValues, ofDigits_digitValues,
    List.length_map] at hunsigned

theorem unsigned_point_alone {front back : List Char} (hfront : IsDigitRow front)
    (hback : IsDigitRow back) (hfrontNe : front ≠ []) (hbackNe : back ≠ []) :
    Unsigned (front ++ '.' :: back) (Nat.ofDigitChars 10 (front ++ back) 0) (-back.length) := by
  have hunsigned := unsigned_point hfront hback hfrontNe hbackNe .none
  rwa [List.append_nil, zero_sub] at hunsigned

/-- An exponent is written with at least two digits. -/
theorem exponent_renderExponent (power : Int) :
    Exponent (Binary64.renderExponent power) power := by
  have hrow := isDigitRow_decimalDigits power.natAbs
  have hvalue := ofDigitChars_decimalDigits power.natAbs
  obtain ⟨cs, hcs, hdigits, hpower⟩ : ∃ cs,
      (if (decimalDigits power.natAbs).length < 2 then '0' :: decimalDigits power.natAbs
        else decimalDigits power.natAbs) = cs ∧
      Digits cs (digitValues cs) ∧ ofDigits (digitValues cs) = power.natAbs := by
    refine ⟨_, rfl, ?_⟩
    split
    · have hzero : IsDigitRow ('0' :: decimalDigits power.natAbs) :=
        List.forall_mem_cons.mpr ⟨rfl, hrow⟩
      refine ⟨hzero.digits (List.cons_ne_nil _ _), ?_⟩
      rw [ofDigits_digitValues, Nat.ofDigitChars_cons]
      exact hvalue
    · refine ⟨hrow.digits Nat.toDigits_ne_nil, ?_⟩
      rw [ofDigits_digitValues, hvalue]
  unfold Binary64.renderExponent
  dsimp only
  rw [hcs]
  by_cases hnegative : power < 0
  · have hsigned : signed true power.natAbs = power := by
      show -(power.natAbs : Int) = power
      omega
    have hexponent := Exponent.some (.inl rfl) .minus hdigits
    rw [hpower, hsigned] at hexponent
    rwa [if_pos hnegative]
  · have hsigned : signed false power.natAbs = power := by
      show (power.natAbs : Int) = power
      omega
    have hexponent := Exponent.some (.inl rfl) .plus hdigits
    rw [hpower, hsigned] at hexponent
    rwa [if_neg hnegative]

/-! ## 3. Layouts -/

variable {ds : List Char} (style : FloatStyle)

theorem ofDigitChars_zeros_append (n : Nat) (cs : List Char) :
    Nat.ofDigitChars 10 (List.replicate n '0' ++ cs) 0 = Nat.ofDigitChars 10 cs 0 := by
  rw [ofDigitChars_append, Nat.ofDigitChars_replicate_zero, Nat.mul_zero, Nat.zero_mul,
    Nat.zero_add]

theorem ofDigitChars_append_zeros (cs : List Char) (n : Nat) :
    Nat.ofDigitChars 10 (cs ++ List.replicate n '0') 0 = Nat.ofDigitChars 10 cs 0 * 10 ^ n := by
  rw [ofDigitChars_append, Nat.ofDigitChars_replicate_zero, Nat.mul_zero, Nat.add_zero,
    List.length_replicate]

/-- Zeros at the end stand for powers of ten. -/
theorem mul_ten_pow_zpow (m n : Nat) (e : Int) :
    ((m * 10 ^ n : Nat) : Rat) * 10 ^ e = m * 10 ^ (e + n) := by
  rw [zpow_add₀ (by norm_num), zpow_natCast]
  push_cast
  ring

/-- Decimal notation without a sign for a value. -/
def UnsignedFor (cs : List Char) (x : Rat) : Prop :=
  ∃ coefficient exponent, Unsigned cs coefficient exponent ∧ (coefficient : Rat) * 10 ^ exponent = x

/-- All digits stand before the point, and zeros may follow them. -/
theorem unsignedFor_before_point (h : IsDigitRow ds) (hne : ds ≠ []) {p : Nat}
    (hshort : ds.length ≤ p + 1) :
    UnsignedFor (ds ++ List.replicate (p + 1 - ds.length) '0' ++ '.' :: List.replicate 1 '0')
      (Nat.ofDigitChars 10 ds 0 * 10 ^ ((p : Int) - (ds.length - 1))) := by
  refine ⟨_, _, unsigned_point_alone (isDigitRow_append.mpr ⟨h, isDigitRow_zeros _⟩)
    (isDigitRow_zeros 1) (List.append_ne_nil_of_left_ne_nil hne _) (List.cons_ne_nil _ _), ?_⟩
  rw [List.append_assoc, List.replicate_append_replicate, ofDigitChars_append_zeros,
    mul_ten_pow_zpow, List.length_replicate]
  congr 2
  omega

/-- The point stands among the digits. -/
theorem unsignedFor_around_point (h : IsDigitRow ds) {p : Nat} (hlong : p + 1 < ds.length) :
    UnsignedFor (ds.take (p + 1) ++ '.' :: ds.drop (p + 1))
      (Nat.ofDigitChars 10 ds 0 * 10 ^ ((p : Int) - (ds.length - 1))) := by
  have hne : ds ≠ [] := List.ne_nil_of_length_pos (Nat.zero_lt_of_lt hlong)
  refine ⟨_, _, unsigned_point_alone (h.take _) (h.drop _) (by simp [hne])
    (by simpa using hlong), ?_⟩
  rw [List.take_append_drop, List.length_drop]
  congr 2
  omega

/-- All digits stand after the point, and zeros may stand before them. -/
theorem unsignedFor_after_point (h : IsDigitRow ds) (hne : ds ≠ []) (p : Nat) :
    UnsignedFor (List.replicate 1 '0' ++ '.' :: (List.replicate p '0' ++ ds))
      (Nat.ofDigitChars 10 ds 0 * 10 ^ (Int.negSucc p - (ds.length - 1))) := by
  refine ⟨_, _, unsigned_point_alone (isDigitRow_zeros 1)
    (isDigitRow_append.mpr ⟨isDigitRow_zeros p, h⟩) (List.cons_ne_nil _ _)
    (List.append_ne_nil_of_right_ne_nil _ hne), ?_⟩
  rw [ofDigitChars_zeros_append, ofDigitChars_zeros_append, List.length_append,
    List.length_replicate, Int.negSucc_eq]
  congr 2
  omega

/-- The point stands after the first digit, if there are more, and an exponent follows. -/
theorem unsignedFor_exponent (h : IsDigitRow ds) (hne : ds ≠ []) (power : Int) :
    UnsignedFor (ds.take 1 ++ (if (ds.drop 1).isEmpty then [] else '.' :: ds.drop 1) ++
        Binary64.renderExponent power)
      (Nat.ofDigitChars 10 ds 0 * 10 ^ (power - (ds.length - 1))) := by
  have hlength : 0 < ds.length := List.length_pos_iff.mpr hne
  by_cases hrest : (ds.drop 1).isEmpty = true
  · have hshort : ds.length ≤ 1 := List.drop_eq_nil_iff.mp (List.isEmpty_iff.mp hrest)
    rw [if_pos hrest, List.append_nil, List.take_of_length_le hshort]
    refine ⟨_, _, unsigned_row h hne (exponent_renderExponent power), ?_⟩
    congr 2
    omega
  · rw [if_neg hrest]
    refine ⟨_, _, unsigned_point (h.take 1) (h.drop 1) (by simp [hne])
      (fun hnil => hrest (List.isEmpty_iff.mpr hnil)) (exponent_renderExponent power), ?_⟩
    rw [List.take_append_drop, List.length_drop]
    congr 2
    omega

/-- **A layout is decimal notation**, with the value of its digits when the leading one stands at
    its power of ten. -/
theorem unsignedFor_layOut (h : IsDigitRow ds) (hne : ds ≠ []) (power : Int) :
    UnsignedFor (Binary64.layOut style ds power)
      (Nat.ofDigitChars 10 ds 0 * 10 ^ (power - (ds.length - 1))) := by
  unfold Binary64.layOut
  split
  · cases power with
    | ofNat p =>
      dsimp only
      by_cases hrest : (ds.drop (p + 1)).isEmpty = true
      · have hshort : ds.length ≤ p + 1 := List.drop_eq_nil_iff.mp (List.isEmpty_iff.mp hrest)
        rw [if_pos hrest, List.take_of_length_le hshort]
        exact unsignedFor_before_point h hne hshort
      · have hlong : p + 1 < ds.length := by
          rw [List.isEmpty_iff, List.drop_eq_nil_iff] at hrest
          omega
        rw [if_neg hrest, Nat.sub_eq_zero_of_le hlong.le, List.replicate_zero, List.append_nil]
        exact unsignedFor_around_point h hlong
    | negSucc p => exact unsignedFor_after_point h hne p
  · exact unsignedFor_exponent h hne power

/-- What is left without the zeros at the end, and how many zeros there were. -/
theorem exists_dropFinalZeros (cs : List Char) :
    ∃ n, cs = Binary64.dropFinalZeros cs ++ List.replicate n '0' := by
  obtain ⟨dropped, hcs, hzeros⟩ := Text.exists_dropEnd (· == '0') cs
  refine ⟨dropped.length, ?_⟩
  have hdropped : dropped = List.replicate dropped.length '0' :=
    List.eq_replicate_of_mem fun c hc => beq_iff_eq.mp (hzeros c hc)
  rw [← hdropped]
  exact hcs

/-- Digits that are not all zero are laid out with the value of the digits at their exponent,
    though the zeros at their end are left out. -/
theorem unsignedFor_decimalForm {d : DecimalForm} (hne : d.digits ≠ 0) :
    UnsignedFor (Binary64.layOut style (Binary64.dropFinalZeros (decimalDigits d.digits))
      (d.exponent + (decimalDigits d.digits).length - 1)) (d.digits * 10 ^ d.exponent) := by
  have hrow := isDigitRow_decimalDigits d.digits
  have hvalue := ofDigitChars_decimalDigits d.digits
  obtain ⟨n, hn⟩ := exists_dropFinalZeros (decimalDigits d.digits)
  generalize Binary64.dropFinalZeros (decimalDigits d.digits) = kept at *
  rw [hn] at hrow hvalue ⊢
  rw [ofDigitChars_append_zeros] at hvalue
  have hkept : kept ≠ [] := by
    rintro rfl
    exact hne (hvalue.symm.trans (Nat.zero_mul _))
  obtain ⟨coefficient, exponent, hunsigned, hsame⟩ := unsignedFor_layOut style
    (isDigitRow_append.mp hrow).1 hkept (d.exponent + (kept ++ List.replicate n '0').length - 1)
  refine ⟨coefficient, exponent, hunsigned, ?_⟩
  rw [hsame, ← hvalue, mul_ten_pow_zpow, List.length_append, List.length_replicate]
  congr 2
  omega

/-! ## 4. Whole numbers -/

/-- **A whole number is written in decimal notation**, with its value. -/
theorem exists_decimal_int (n : Int) : ∃ w, Decimal (toString n).toList w ∧ w.value = n := by
  have hrow : ∀ m, Unsigned (decimalDigits m) m 0 := by
    intro m
    have hunsigned := unsigned_row (isDigitRow_decimalDigits m) Nat.toDigits_ne_nil .none
    rwa [List.append_nil, ofDigitChars_decimalDigits] at hunsigned
  cases n with
  | ofNat m =>
    refine ⟨⟨false, m, 0⟩, ?_, ?_⟩
    · rw [Int.ofNat_eq_natCast, toList_toString_nat]
      exact (hrow m).decimal .none
    · simp [Written.value]
  | negSucc m =>
    refine ⟨⟨true, m + 1, 0⟩, ?_, ?_⟩
    · have htext : toString (Int.negSucc m) = "-" ++ (m + 1).repr := rfl
      rw [htext, String.toList_append, Nat.toList_repr]
      exact (hrow (m + 1)).decimal .minus
    · simp [Written.value, Int.negSucc_eq]

end Numeral

end BooksGateway
