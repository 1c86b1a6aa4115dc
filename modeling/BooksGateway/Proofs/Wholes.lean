import BooksGateway.Query.Compile

/-!
# Whole numbers that can be written

A whole number with too many digits is not written, and neither is anything that shows one. What the
gateway writes for a caller it checks first, and the checks are said here without the functions that
make them.

* `Value.HasShortWholes`, `Condition.HasShortWholes`: all whole numbers in it can be written;
* `Value.shown_eq_ok_iff`: when a value is shown;
* `Value.hasShortWholes_list`, `Value.hasShortWholes_obj`: the numbers in a value are those in its
  parts;
* `Query.accept_eq_ok_iff`: criteria are accepted iff they are prepared, and every whole number that
  is written on the way is short.
-/

namespace BooksGateway

/-! ## 1. Numbers -/

namespace Numeral

/-- A whole number that can be written. -/
abbrev IsShort (n : Int) : Prop := n.natAbs < writeLimit

theorem isWritable_iff {n : Int} : isWritable n = true ↔ IsShort n := decide_eq_true_iff

theorem all_isWritable_iff {wholes : List Int} :
    wholes.all isWritable = true ↔ ∀ n ∈ wholes, IsShort n := by
  simp only [List.all_eq_true, isWritable_iff]

/-- A number with few enough digits can be written. -/
theorem pow_le_writeLimit {digits : Nat} (h : digits ≤ digitLimit) :
    Nat.pow 10 digits ≤ writeLimit := by
  have hpow : ∀ limit, digits ≤ limit → Nat.pow 10 digits ≤ Nat.pow 10 limit :=
    fun _ hlimit => Nat.pow_le_pow_right (by decide) hlimit
  unfold writeLimit
  exact hpow digitLimit h

theorem lt_writeLimit {n : Nat} (h : n ≤ 1000) : n < writeLimit := by
  have hfour : 1000 < Nat.pow 10 4 := by decide
  exact Nat.lt_of_le_of_lt h (Nat.lt_of_lt_of_le hfour (pow_le_writeLimit (by decide)))

end Numeral

/-! ## 2. Values -/

namespace Value

/-- Every whole number in a value can be written. -/
def HasShortWholes (v : Value) : Prop := ∀ n ∈ v.wholes, Numeral.IsShort n

instance (v : Value) : Decidable v.HasShortWholes :=
  inferInstanceAs (Decidable (∀ n ∈ v.wholes, Numeral.IsShort n))

theorem isWritable_iff {v : Value} : v.isWritable = true ↔ v.HasShortWholes :=
  Numeral.all_isWritable_iff

theorem hasShortWholes_str (s : String) : (str s).HasShortWholes := nofun

/-- **A value is shown iff its whole numbers can be written**, and then as it reads. -/
theorem shown_eq_ok_iff {v : Value} {text : String} :
    v.shown = .ok text ↔ v.HasShortWholes ∧ v.display = text := by
  unfold shown
  by_cases h : v.isWritable = true
  · simp [h, isWritable_iff.mp h]
  · simp [h, mt isWritable_iff.mpr h]

theorem shown_of_short {v : Value} (h : v.HasShortWholes) : v.shown = .ok v.display :=
  shown_eq_ok_iff.mpr ⟨h, rfl⟩

theorem shown_of_not_short {v : Value} (h : ¬ v.HasShortWholes) :
    v.shown = .error .unwritableWhole := if_neg (mt isWritable_iff.mp h)

/-! ## 3. Parts of values -/

theorem mem_wholesOfItems {items : List Value} {n : Int} :
    n ∈ wholesOfItems items ↔ ∃ v ∈ items, n ∈ v.wholes := by
  induction items with
  | nil => simp [wholesOfItems]
  | cons v rest ih => simp [wholesOfItems, ih]

theorem mem_wholesOfFields {fields : Fields} {n : Int} :
    n ∈ wholesOfFields fields ↔ ∃ field ∈ fields, n ∈ field.2.wholes := by
  induction fields with
  | nil => simp [wholesOfFields]
  | cons field rest ih => simp [wholesOfFields, ih]

/-- The numbers in a list are those in its items. -/
theorem hasShortWholes_list {items : List Value} :
    (list items).HasShortWholes ↔ ∀ v ∈ items, v.HasShortWholes := by
  simp only [HasShortWholes, wholes, mem_wholesOfItems]
  exact ⟨fun h v hv n hn => h n ⟨v, hv, hn⟩, fun h n ⟨v, hv, hn⟩ => h v hv n hn⟩

/-- The numbers in a mapping are those in its values. -/
theorem hasShortWholes_obj {fields : Fields} :
    (obj fields).HasShortWholes ↔ ∀ field ∈ fields, field.2.HasShortWholes := by
  simp only [HasShortWholes, wholes, mem_wholesOfFields]
  exact ⟨fun h field hfield n hn => h n ⟨field, hfield, hn⟩,
    fun h n ⟨field, hfield, hn⟩ => h field hfield n hn⟩

theorem hasShortWholes_get? {fields : Fields} (h : (obj fields).HasShortWholes) {key : String}
    {v : Value} (hv : fields.get? key = some v) : v.HasShortWholes :=
  hasShortWholes_obj.mp h (key, v) (Fields.mem_of_get? hv)

theorem hasShortWholes_getD {fields : Fields} (h : (obj fields).HasShortWholes) (key : String) :
    (fields.getD key).HasShortWholes := by
  unfold Fields.getD
  cases hv : fields.get? key with
  | none => nofun
  | some v => exact hasShortWholes_get? h hv

theorem hasShortWholes_put {fields : Fields} (h : (obj fields).HasShortWholes) (key : String)
    {v : Value} (hv : v.HasShortWholes) : (obj (fields.put key v)).HasShortWholes := by
  rw [hasShortWholes_obj] at h ⊢
  induction fields with
  | nil => exact List.forall_mem_singleton.mpr hv
  | cons field rest ih =>
    obtain ⟨hfield, hrest⟩ := List.forall_mem_cons.mp h
    unfold Fields.put
    split
    · exact List.forall_mem_cons.mpr ⟨hv, hrest⟩
    · exact List.forall_mem_cons.mpr ⟨hfield, ih hrest⟩

end Value

/-! ## 4. Conditions and criteria -/

/-- Every whole number in a condition can be written. -/
def Condition.HasShortWholes (c : Condition) : Prop := ∀ n ∈ c.wholes, Numeral.IsShort n

instance (c : Condition) : Decidable c.HasShortWholes :=
  inferInstanceAs (Decidable (∀ n ∈ c.wholes, Numeral.IsShort n))

theorem Condition.isWritable_iff {c : Condition} : c.isWritable = true ↔ c.HasShortWholes :=
  Numeral.all_isWritable_iff

namespace Query

theorem checkWritable_eq_ok_iff {wholes : List Int} :
    checkWritable wholes = .ok () ↔ ∀ n ∈ wholes, Numeral.IsShort n := by
  rw [← Numeral.all_isWritable_iff]
  unfold checkWritable
  by_cases h : wholes.all Numeral.isWritable = true <;> simp [h]

/-- **Criteria are accepted iff they are prepared and what is written on the way is short.** -/
theorem accept_eq_ok_iff {e : Entity} {raw : Value} {criteria : Criteria} :
    accept e raw = .ok criteria ↔
      (∀ n ∈ written e raw, Numeral.IsShort n) ∧ prepare e raw = .ok criteria := by
  rw [← checkWritable_eq_ok_iff]
  unfold accept
  cases checkWritable (written e raw) with
  | ok => simp [bind, Except.bind]
  | error f => simp [bind, Except.bind]

theorem prepare_of_accept {e : Entity} {raw : Value} {criteria : Criteria}
    (h : accept e raw = .ok criteria) : prepare e raw = .ok criteria := (accept_eq_ok_iff.mp h).2

/-- When all that is written is short, accepting is preparing. -/
theorem accept_of_short {e : Entity} {raw : Value}
    (h : ∀ n ∈ written e raw, Numeral.IsShort n) : accept e raw = prepare e raw := by
  rw [accept, checkWritable_eq_ok_iff.mpr h]
  rfl

end Query

end BooksGateway
