import BooksGateway.Proofs.Coercion
import BooksGateway.Proofs.Decimals
import BooksGateway.Proofs.Rounding

/-!
# Numbers given as text

A text given for a number is read in one of two ways. A sign and at most 4300 digits are read as
they stand. Any other notation is read as a floating-point number first, and that number is taken
for a whole one when its value is whole. So the second way keeps a value only if the format has it:
otherwise the condition compares with the nearest number that the format has.

* `numberOfText_eq_int_iff`: the texts that are read as a whole number, and the number;
* `isNearest_of_ofDecimal`, `exists_ofDecimal_of_isFloat`: what the second way makes of a value;
* `numberText_exact_iff`: when the condition of a filter compares with the number of its text.
-/

namespace BooksGateway

open Binary64 Numeral Text

/-! ## 1. Signed decimal numbers -/

namespace Numeral

variable {w : Written} {negative : Bool} {units : Nat}

/-- A finite result is nearest to the number that was written. -/
theorem isNearest_of_ofDecimal
    (h : ofDecimal w.negative w.coefficient w.exponent = .finite negative units) :
    IsNearest w.value (signedMagnitude negative units) := by
  have hrounds := rounds_ofDecimal w.negative w.coefficient w.exponent
  rw [h] at hrounds
  cases hrounds with
  | finite hnearest =>
    unfold Written.value signedMagnitude
    cases w.negative with
    | false => exact hnearest
    | true => exact hnearest.neg

/-- A number of the format is read as itself. -/
theorem exists_ofDecimal_of_isFloat (h : IsFloat w.value) :
    ∃ units, ofDecimal w.negative w.coefficient w.exponent = .finite w.negative units ∧
      signedMagnitude w.negative units = w.value := by
  cases hresult : ofDecimal w.negative w.coefficient w.exponent with
  | nan =>
    have hrounds := rounds_ofDecimal w.negative w.coefficient w.exponent
    rw [hresult] at hrounds
    cases hrounds
  | finite negative units =>
    have hsign : negative = w.negative := by
      have hrounds := rounds_ofDecimal w.negative w.coefficient w.exponent
      rw [hresult] at hrounds
      cases hrounds
      rfl
    subst hsign
    exact ⟨units, rfl, (isNearest_of_ofDecimal hresult).eq_iff.mpr h⟩
  | infinite negative =>
    -- a number of the format is not beyond itself
    have hrounds := rounds_ofDecimal w.negative w.coefficient w.exponent
    rw [hresult] at hrounds
    cases hrounds with
    | infinite hbeyond =>
      have hsize : IsFloat (w.coefficient * 10 ^ w.exponent) := by
        unfold Written.value at h
        split at h
        · rw [← neg_neg (w.coefficient * 10 ^ w.exponent : Rat)]
          exact isFloat_neg h
        · exact h
      exact absurd (hbeyond _ hsize) (lt_irrefl _)

end Numeral

/-! ## 2. Texts read as whole numbers -/

namespace FieldKind

variable {s : String} {n : Int}

theorem numberOfText_of_whole (h : Whole (strip s.toList) n) : numberOfText s = .int n := by
  unfold numberOfText
  rw [(readWhole_eq_ok_iff (stripPadding_strip _)).mpr h]

theorem exists_fault_of_not_isShortWhole (h : ¬ IsShortWhole s) :
    ∃ fault, readWhole (strip s.toList) = .error fault := by
  cases hwhole : readWhole (strip s.toList) with
  | ok n =>
    have hshort := (readWhole_eq_ok_iff (stripPadding_strip _)).mp hwhole
    exact absurd (isShortWhole_iff.mpr ⟨n, hshort⟩) h
  | error fault => exact ⟨fault, rfl⟩

/-- A text that is read as a finite number counts as whole when the value of the number is. -/
theorem numberOfText_of_finite (hshort : ¬ IsShortWhole s) {negative : Bool} {units : Nat}
    (hread : readFloat? (strip s.toList) = some (.finite negative units)) :
    numberOfText s = .int n ↔ signedMagnitude negative units = n := by
  obtain ⟨fault, hfault⟩ := exists_fault_of_not_isShortWhole hshort
  have hfinite : (Binary64.finite negative units).isFinite = true := rfl
  unfold numberOfText
  rw [hfault, hread, ← toInt?_eq_some_iff]
  dsimp only
  rw [if_pos hfinite]
  cases (Binary64.finite negative units).toInt? with
  | none =>
    constructor <;> rintro ⟨⟩
  | some m =>
    constructor <;> rintro ⟨⟩ <;> rfl

/-- A text that is not read as a finite number stays as it is. -/
theorem numberOfText_of_not_finite (hshort : ¬ IsShortWhole s)
    (hread : ∀ x, readFloat? (strip s.toList) = some x → x.isFinite = false) :
    numberOfText s = .str s := by
  obtain ⟨fault, hfault⟩ := exists_fault_of_not_isShortWhole hshort
  unfold numberOfText
  rw [hfault]
  cases hx : readFloat? (strip s.toList) with
  | none => rfl
  | some x =>
    dsimp only
    rw [hread x hx, if_neg Bool.false_ne_true]

/-- **The texts that are read as a whole number**: a sign and few enough digits, and every other
    decimal notation whose nearest floating-point number is whole. -/
theorem numberOfText_eq_int_iff :
    numberOfText s = .int n ↔
      Whole (strip s.toList) n ∨
        ¬ IsShortWhole s ∧ ∃ w negative units, Denotes s w ∧
          ofDecimal w.negative w.coefficient w.exponent = .finite negative units ∧
          signedMagnitude negative units = n := by
  constructor
  · intro h
    by_cases hshort : IsShortWhole s
    · obtain ⟨m, hm⟩ := isShortWhole_iff.mp hshort
      rw [numberOfText_of_whole hm] at h
      cases h
      exact .inl hm
    by_cases hread : ∀ x, readFloat? (strip s.toList) = some x → x.isFinite = false
    · rw [numberOfText_of_not_finite hshort hread] at h
      cases h
    · simp only [not_forall, Bool.not_eq_false] at hread
      obtain ⟨x, hx, hfinite⟩ := hread
      obtain ⟨w, hw, hresult⟩ := decimal_of_readFloat? (stripPadding_strip _) hx hfinite
      cases x with
      | nan => cases hfinite
      | infinite negative => cases hfinite
      | finite negative units =>
        exact .inr ⟨hshort, w, negative, units, denotes_iff.mpr hw, hresult.symm,
          (numberOfText_of_finite hshort hx).mp h⟩
  · rintro (hwhole | ⟨hshort, w, negative, units, hw, hresult, hn⟩)
    · exact numberOfText_of_whole hwhole
    · have hread := readFloat?_of_decimal (stripPadding_strip _) (denotes_iff.mp hw)
      rw [hresult] at hread
      exact (numberOfText_of_finite hshort hread).mpr hn

/-- **A text that is read as a whole number denotes one**, which is that number exactly if the text
    is a sign and few enough digits, or the format has the number. -/
theorem exists_denotes_of_numberOfText (h : numberOfText s = .int n) :
    ∃ w, Denotes s w ∧ (¬ IsShortWhole s → IsNearest w.value n) ∧
      ((n : Rat) = w.value ↔ IsShortWhole s ∨ IsFloat w.value) := by
  rcases numberOfText_eq_int_iff.mp h with hwhole | ⟨hshort, w, negative, units, hw, hresult, hn⟩
  · obtain ⟨w, hw, hvalue⟩ := hwhole.decimal
    have hshort := isShortWhole_iff.mpr ⟨n, hwhole⟩
    exact ⟨w, denotes_iff.mpr hw, fun hnot => absurd hshort hnot,
      fun _ => .inl hshort, fun _ => hvalue.symm⟩
  · have hnearest := isNearest_of_ofDecimal hresult
    rw [hn] at hnearest
    exact ⟨w, hw, fun _ => hnearest, hnearest.eq_iff.trans (or_iff_right hshort).symm⟩

/-- A text that denotes a whole number is read as that number if it is a sign and few enough digits,
    or the format has the number. -/
theorem numberOfText_of_denotes {w : Written} (hw : Denotes s w) (hn : w.value = n)
    (h : IsShortWhole s ∨ IsFloat w.value) : numberOfText s = .int n := by
  rw [numberOfText_eq_int_iff]
  by_cases hshort : IsShortWhole s
  · obtain ⟨m, hm⟩ := isShortWhole_iff.mp hshort
    obtain ⟨other, hother, hvalue⟩ := hm.decimal
    rw [← hw.unique (denotes_iff.mpr hother), hn, Int.cast_inj] at hvalue
    exact .inl (hvalue ▸ hm)
  · obtain ⟨units, hresult, hunits⟩ := exists_ofDecimal_of_isFloat (h.resolve_left hshort)
    exact .inr ⟨hshort, w, w.negative, units, hw, hresult, hunits.trans hn⟩

end FieldKind

/-! ## 3. The condition of a filter -/

section Filter

variable {table : FieldTable} {entry : Fields} {name s : String} {spec : FieldSpec}

theorem value_conditionOf_coerceFilter (hfield : Entry.field entry = .str name)
    (hspec : table.find? name = some spec) (hkind : spec.kind = .number)
    (hvalue : Entry.value entry = .str s) :
    (Query.conditionOf (table.coerceFilter entry)).value = FieldKind.numberOfText s := by
  rw [table.conditionOf_coerceFilter, hfield, hvalue]
  show coerceFor (table.find? name) (.str s) = _
  rw [hspec]
  show spec.kind.coerce (.str s) = _
  rw [hkind]
  rfl

/-- **When a number given as text keeps its value.** Take a filter on a field that holds numbers,
    with a text as its value. If its condition compares with a whole number, then the text denotes a
    number in decimal notation. The condition compares with exactly that number iff the text is a
    sign and at most 4300 digits, or the number is one of the 64-bit floating-point format; else it
    compares with the nearest number of the format. The other way round, a text that denotes a whole
    number makes a condition with this number exactly in these two cases. -/
theorem numberText_exact_iff (hfield : Entry.field entry = .str name)
    (hspec : table.find? name = some spec) (hkind : spec.kind = .number)
    (hvalue : Entry.value entry = .str s) :
    (∀ n : Int, (Query.conditionOf (table.coerceFilter entry)).value = .int n →
      (Query.conditionOf (table.coerceFilter entry)).render =
        name ++ " " ++ (Entry.operator entry).display ++ " " ++ toString n ∧
      ∃ w, Denotes s w ∧ (¬ IsShortWhole s → IsNearest w.value n) ∧
        ((n : Rat) = w.value ↔ IsShortWhole s ∨ IsFloat w.value)) ∧
    ∀ (w : Written) (n : Int), Denotes s w → w.value = n →
      ((Query.conditionOf (table.coerceFilter entry)).value = .int n ↔
        IsShortWhole s ∨ IsFloat w.value) := by
  have hcoerced := value_conditionOf_coerceFilter hfield hspec hkind hvalue
  refine ⟨fun n hn => ⟨?_, ?_⟩, fun w n hw hwhole => ⟨fun hn => ?_, fun h => ?_⟩⟩
  · rw [Condition.render, hn, table.conditionOf_coerceFilter, hfield]
    rfl
  · exact FieldKind.exists_denotes_of_numberOfText (hcoerced.symm.trans hn)
  · obtain ⟨other, hother, _, hiff⟩ :=
      FieldKind.exists_denotes_of_numberOfText (hcoerced.symm.trans hn)
    rw [hother.unique hw] at hiff
    exact hiff.mp hwhole.symm
  · exact hcoerced.trans (FieldKind.numberOfText_of_denotes hw hwhole h)

end Filter

/-- A filter whose text has one bit more than the format has. -/
def wideBalance : Fields := [("field", .str "Balance"), ("value", .str "9007199254740993.0")]

/-- The number that the text of `wideBalance` denotes. -/
def wideNumber : Written := ⟨false, 90071992547409930, -1⟩

theorem numberText_exact_iff_wideBalance :
    Entity.all[6].name = "Invoice" ∧
    (Query.conditionOf (Entity.all[6].fields.coerceFilter wideBalance)).render =
      "Balance = 9007199254740992" ∧
    Denotes "9007199254740993.0" wideNumber ∧ wideNumber.value = 9007199254740993 ∧
    ¬ IsShortWhole "9007199254740993.0" ∧ IsNearest 9007199254740993 9007199254740992 := by
  have hwide : Denotes "9007199254740993.0" wideNumber :=
    denotes_iff.mpr (readDecimal?_eq_some_iff.mp (by decide +kernel))
  have hvalue : wideNumber.value = 9007199254740993 := by
    norm_num [Written.value, wideNumber]
  have hshort : ¬ IsShortWhole "9007199254740993.0" := by
    rw [isShortWhole_iff]
    rintro ⟨n, hn⟩
    have hread := (readWhole_eq_ok_iff (stripPadding_strip _)).mpr hn
    have hfault : readWhole (strip "9007199254740993.0".toList) = .error .malformed := by
      decide +kernel
    rw [hfault] at hread
    cases hread
  have hread : readFloat? (strip "9007199254740993.0".toList) =
      some (.finite false (9007199254740992 * unitsPerOne)) := by decide +kernel
  have hcoerced : FieldKind.numberOfText "9007199254740993.0" = .int 9007199254740992 :=
    (FieldKind.numberOfText_of_finite hshort hread).mpr (signedMagnitude_mul false 9007199254740992)
  have hfilter := @value_conditionOf_coerceFilter Entity.all[6].fields wideBalance "Balance"
    "9007199254740993.0" (Entity.number "Balance").2 rfl rfl rfl rfl
  obtain ⟨hcompares, _⟩ := @numberText_exact_iff Entity.all[6].fields wideBalance "Balance"
    "9007199254740993.0" (Entity.number "Balance").2 rfl rfl rfl rfl
  obtain ⟨hrender, w, hw, hnearest, _⟩ := hcompares _ (hfilter.trans hcoerced)
  rw [hw.unique hwide, hvalue] at hnearest
  exact ⟨rfl, hrender, hwide, hvalue, hshort, by exact_mod_cast hnearest hshort⟩

end BooksGateway
