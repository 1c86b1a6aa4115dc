import BooksGateway.Proofs.Registry
import BooksGateway.Query.Compile

/-!
# Well-formed entries

What validation accepts, said without the checks: `WellFormed` has one rule for directives and one
for filters, and the checks find nothing exactly where a rule applies.

* `IsOfKind`: what a value of each kind is, and `hasKind_iff`: the check decides it;
* `checkEntry_eq_none`: nothing is wrong with an entry iff it is well formed;
* `check_eq_ok`: criteria pass iff all their entries are well formed;
* `prepare_eq_ok`, `prepare_cases`: what preparing raw criteria gives, and that it can only turn
  them down.
-/

namespace BooksGateway.Validation

/-! ## 1. The rules -/

/-- **A value of a kind.** Dates are texts; numbers are whole or not, and truth values are none. -/
inductive IsOfKind : FieldKind → Value → Prop where
  /-- A text. -/
  | text (s : String) : IsOfKind .text (.str s)
  /-- A date. -/
  | date (s : String) : IsOfKind .date (.str s)
  /-- A whole number. -/
  | whole (n : Int) : IsOfKind .number (.int n)
  /-- A floating-point number. -/
  | decimal (x : Binary64) : IsOfKind .number (.float x)
  /-- A truth value. -/
  | flag (b : Bool) : IsOfKind .flag (.bool b)

/-- A value fits an operator on a field of some kind: items of the kind, at least one, for the
    operator that compares with a list, and a single value of the kind for every other. -/
inductive Fits (kind : FieldKind) : (operator : String) → Value → Prop where
  /-- Items to compare with. -/
  | items {items : List Value} (hne : items ≠ []) (hkind : ∀ v ∈ items, IsOfKind kind v) :
      Fits kind listOperator (.list items)
  /-- A single value to compare with. -/
  | single {operator : String} {v : Value} (hop : operator ≠ listOperator)
      (hkind : IsOfKind kind v) : Fits kind operator v

/-- A value that a directive can have. -/
inductive DirectiveFits (e : Entity) : Directive → Value → Prop where
  /-- Sort by a field that is open to it, rising. -/
  | ascending {name : String} (h : name ∈ e.sortable) : DirectiveFits e .ascending (.str name)
  /-- Sort by a field that is open to it, falling. -/
  | descending {name : String} (h : name ∈ e.sortable) : DirectiveFits e .descending (.str name)
  /-- A bound that the server takes. -/
  | limit {n : Int} (h0 : 0 ≤ n) (h1 : n ≤ maxPageSize) : DirectiveFits e .limit (.int n)
  /-- Any number of rows can be left out. -/
  | offset {n : Int} (h0 : 0 ≤ n) : DirectiveFits e .offset (.int n)
  /-- Any value says whether rows are counted. -/
  | count (v : Value) : DirectiveFits e .count v
  /-- Any value says whether all pages are fetched. -/
  | fetchAll (v : Value) : DirectiveFits e .fetchAll v

theorem DirectiveFits.sort {e : Entity} {d : Directive} {v : Value} (h : DirectiveFits e d v)
    (hd : d = .ascending ∨ d = .descending) : ∃ name ∈ e.sortable, v = .str name := by
  cases h with
  | ascending h | descending h => exact ⟨_, h, rfl⟩
  | _ => rcases hd with hd | hd <;> cases hd

theorem DirectiveFits.bound {e : Entity} {d : Directive} {v : Value} (h : DirectiveFits e d v)
    (hd : d = .limit ∨ d = .offset) : ∃ n, v = .int n ∧ 0 ≤ n := by
  cases h with
  | limit h0 _ => exact ⟨_, rfl, h0⟩
  | offset h0 => exact ⟨_, rfl, h0⟩
  | _ => rcases hd with hd | hd <;> cases hd

theorem DirectiveFits.limit_le {e : Entity} {n : Int} (h : DirectiveFits e .limit (.int n)) :
    n ≤ maxPageSize := by
  cases h
  assumption

/-- A filter on the field `name`, which `spec` describes, by an operator. -/
structure FilterFits (e : Entity) (entry : Fields) (name : String) (spec : FieldSpec)
    (operator : String) : Prop where
  /-- The entry names the field. -/
  field : Entry.field entry = .str name
  /-- The name of the field is not reserved. -/
  free : Directive.isReserved name = false
  /-- The entity has the field. -/
  known : e.fields.find? name = some spec
  /-- Rows can be chosen by the field. -/
  filterable : spec.filterable = true
  /-- The entry names the operator, or none and means equality. -/
  operator_eq : Entry.operator entry = .str operator
  /-- There is such an operator. -/
  operator_mem : operator ∈ operators
  /-- The value fits both. -/
  value : Fits spec.kind operator (Entry.value entry)

/-- An entry that validation accepts. -/
inductive WellFormed (e : Entity) : Value → Prop where
  /-- A directive with a value that it can have. -/
  | directive {entry : Fields} {d : Directive} (hd : Query.directiveOf? entry = some d)
      (hv : DirectiveFits e d (Entry.value entry)) : WellFormed e (.obj entry)
  /-- A filter. -/
  | filter {entry : Fields} {name : String} {spec : FieldSpec} {operator : String}
      (h : FilterFits e entry name spec operator) : WellFormed e (.obj entry)

/-! ## 2. The checks follow the rules -/

/-- The check of kinds decides what is of a kind. -/
theorem hasKind_iff {kind : FieldKind} {v : Value} : hasKind kind v = true ↔ IsOfKind kind v := by
  constructor
  · intro h
    unfold hasKind at h
    split at h
    · exact .text _
    · exact .date _
    · exact .whole _
    · exact .decimal _
    · exact .flag _
    · cases h
  · intro h
    cases h <;> rfl

/-- A list is of no kind. -/
theorem not_isOfKind_list (kind : FieldKind) (items : List Value) :
    ¬ IsOfKind kind (.list items) := nofun

theorem all_hasKind_iff {kind : FieldKind} {items : List Value} :
    items.all (hasKind kind) = true ↔ ∀ v ∈ items, IsOfKind kind v := by
  simp only [List.all_eq_true, hasKind_iff]

theorem checkValue_eq_none (name : String) (spec : FieldSpec) (operator : String) (v : Value) :
    checkValue name spec operator v = none ↔ Fits spec.kind operator v := by
  unfold checkValue
  by_cases hop : operator = listOperator
  · subst hop
    rw [if_pos rfl]
    constructor
    · intro h
      split at h
      · split at h
        · rename_i hall
          exact .items (List.cons_ne_nil _ _) (all_hasKind_iff.mp hall)
        · cases h
      · cases h
    · intro h
      cases h with
      | @items items hne hkind =>
        cases items with
        | nil => exact absurd rfl hne
        | cons item rest => exact if_pos (all_hasKind_iff.mpr hkind)
      | single hne => exact absurd rfl hne
  · rw [if_neg hop]
    constructor
    · intro h
      split at h
      · cases h
      · split at h
        · rename_i hkind
          exact .single hop (hasKind_iff.mp hkind)
        · cases h
    · intro h
      cases h with
      | items => exact absurd rfl hop
      | single _ hkind =>
        split
        · exact absurd hkind (not_isOfKind_list _ _)
        · exact if_pos (hasKind_iff.mpr hkind)

theorem checkOperator_eq_none (name : String) (spec : FieldSpec) (operator v : Value) :
    checkOperator name spec operator v = none ↔
      ∃ text, operator = .str text ∧ text ∈ operators ∧ Fits spec.kind text v := by
  unfold checkOperator
  split
  · rename_i text
    by_cases hmem : operators.contains text = true
    · rw [if_pos hmem, checkValue_eq_none]
      constructor
      · intro h
        exact ⟨text, rfl, List.contains_iff_mem.mp hmem, h⟩
      · rintro ⟨_, heq, _, h⟩
        cases heq
        exact h
    · rw [if_neg hmem]
      constructor
      · intro h
        cases h
      · rintro ⟨_, heq, hin, _⟩
        cases heq
        exact absurd (List.contains_iff_mem.mpr hin) hmem
  · rename_i hother
    constructor
    · intro h
      cases h
    · rintro ⟨text, rfl, _⟩
      exact absurd rfl (hother text)

theorem checkDirective_eq_none (e : Entity) (d : Directive) (v : Value) :
    checkDirective e d v = none ↔ DirectiveFits e d v := by
  constructor
  · intro h
    cases d with
    | ascending | descending =>
      cases v <;> simp [checkDirective, isSortable] at h
      constructor
      exact h
    | limit =>
      cases v with
      | int n =>
        simp only [checkDirective] at h
        by_cases h0 : n < 0
        · rw [if_pos h0] at h
          cases h
        · by_cases h1 : maxPageSize < n
          · rw [if_neg h0, if_pos h1] at h
            cases h
          · exact .limit (Int.not_lt.mp h0) (Int.not_lt.mp h1)
      | _ => cases h
    | offset =>
      cases v with
      | int n =>
        simp only [checkDirective] at h
        by_cases h0 : n < 0
        · rw [if_pos h0] at h
          cases h
        · exact .offset (Int.not_lt.mp h0)
      | _ => cases h
    | count => exact .count v
    | fetchAll => exact .fetchAll v
  · intro h
    cases h with
    | ascending h | descending h => simp [checkDirective, isSortable, h]
    | limit h0 h1 => simp [checkDirective, Int.not_lt.mpr h0, Int.not_lt.mpr h1]
    | offset h0 => simp [checkDirective, Int.not_lt.mpr h0]
    | count | fetchAll => rfl

theorem checkFilter_eq_none {e : Entity} {entry : Fields} {name : String}
    (hname : Entry.field entry = .str name) (hfree : Directive.isReserved name = false) :
    checkFilter e entry = none ↔
      ∃ spec operator, FilterFits e entry name spec operator := by
  unfold checkFilter
  rw [hname]
  constructor
  · intro h
    cases hspec : e.fields.find? name with
    | none =>
      simp only [hspec] at h
      cases h
    | some spec =>
      simp only [hspec] at h
      by_cases hfilter : spec.filterable = true
      · rw [if_pos hfilter, checkOperator_eq_none] at h
        obtain ⟨operator, hop, hmem, hfits⟩ := h
        exact ⟨spec, operator, ⟨hname, hfree, hspec, hfilter, hop, hmem, hfits⟩⟩
      · rw [if_neg hfilter] at h
        cases h
  · rintro ⟨spec, operator, h⟩
    simp only [h.known, if_pos h.filterable]
    exact (checkOperator_eq_none ..).mpr ⟨operator, h.operator_eq, h.operator_mem, h.value⟩

theorem directiveOf?_eq_some {entry : Fields} {d : Directive} :
    Query.directiveOf? entry = some d ↔ Entry.field entry = .str d.key := by
  unfold Query.directiveOf?
  constructor
  · intro h
    split at h
    · rename_i key hkey
      rw [hkey, Directive.key_of_ofKey? h]
    · cases h
  · intro h
    rw [h]
    exact Directive.ofKey?_key d

/-- A filter is no directive. -/
theorem FilterFits.directiveOf? {e : Entity} {entry : Fields} {name : String} {spec : FieldSpec}
    {operator : String} (h : FilterFits e entry name spec operator) :
    Query.directiveOf? entry = none := by
  have hfree := h.free
  simp only [Directive.isReserved, Bool.or_eq_false_iff, Option.isSome_eq_false_iff,
    Option.isNone_iff_eq_none] at hfree
  simp only [Query.directiveOf?, h.field]
  exact hfree.1

/-- **Nothing is wrong with an entry iff it is well formed.** -/
theorem checkEntry_eq_none {e : Entity} {v : Value} : checkEntry e v = none ↔ WellFormed e v := by
  constructor
  · intro h
    cases v with
    | obj entry =>
      cases hfield : Entry.field entry with
      | str name =>
        simp only [checkEntry, hfield] at h
        by_cases hfilters : name = Directive.filtersKey
        · rw [if_pos hfilters] at h
          cases h
        · rw [if_neg hfilters] at h
          cases hkey : Directive.ofKey? name with
          | some d =>
            simp only [hkey] at h
            refine .directive (d := d) ?_ ((checkDirective_eq_none ..).mp h)
            simp only [Query.directiveOf?, hfield, hkey]
          | none =>
            simp only [hkey] at h
            have hfree : Directive.isReserved name = false := by
              simp [Directive.isReserved, hkey, hfilters]
            obtain ⟨spec, operator, hfits⟩ := (checkFilter_eq_none hfield hfree).mp h
            exact .filter hfits
      | _ => simp [checkEntry, checkFilter, hfield] at h
    | _ => cases h
  · intro h
    cases h with
    | @directive entry d hd hv =>
      have hfield := directiveOf?_eq_some.mp hd
      have hfilters : d.key ≠ Directive.filtersKey := by
        cases d <;> decide
      simp only [checkEntry, hfield, if_neg hfilters, Directive.ofKey?_key]
      exact (checkDirective_eq_none ..).mpr hv
    | @filter entry name spec operator hfits =>
      have hfree := hfits.free
      simp only [Directive.isReserved, Bool.or_eq_false_iff, Option.isSome_eq_false_iff,
        Option.isNone_iff_eq_none, beq_eq_false_iff_ne] at hfree
      simp only [checkEntry, hfits.field, if_neg hfree.2, hfree.1]
      exact (checkFilter_eq_none hfits.field hfits.free).mpr ⟨spec, operator, hfits⟩

/-! ## 3. Criteria -/

/-- All entries of criteria are well formed. -/
def Valid (e : Entity) (criteria : Criteria) : Prop := ∀ v ∈ criteria.asEntries, WellFormed e v

theorem reasons_eq_nil {e : Entity} {criteria : Criteria} :
    reasons e criteria = [] ↔ Valid e criteria := by
  simp only [reasons, List.filterMap_eq_nil_iff, Valid, checkEntry_eq_none]

/-- **Criteria pass iff all their entries are well formed.** -/
theorem check_eq_ok {e : Entity} {criteria : Criteria} :
    check e criteria = .ok () ↔ Valid e criteria := by
  rw [← reasons_eq_nil]
  unfold check
  cases reasons e criteria with
  | nil => exact ⟨fun _ => rfl, fun _ => rfl⟩
  | cons reason more =>
    constructor
    · intro h
      cases h
    · intro h
      cases h

theorem check_cases (e : Entity) (criteria : Criteria) :
    check e criteria = .ok () ∨ check e criteria = .error (.rejected (reasons e criteria)) := by
  unfold check
  cases reasons e criteria with
  | nil => exact Or.inl rfl
  | cons => exact Or.inr rfl

theorem prepare_eq (e : Entity) (raw : Value) :
    Query.prepare e raw =
      (check e ((Criteria.normalize raw).coerce e)).map
        fun _ => (Criteria.normalize raw).coerce e := by
  simp only [Query.prepare]
  cases check e ((Criteria.normalize raw).coerce e) <;> rfl

/-- **Preparing gives the turned normal form, and does so iff that is valid.** -/
theorem prepare_eq_ok {e : Entity} {raw : Value} {criteria : Criteria} :
    Query.prepare e raw = .ok criteria ↔
      criteria = (Criteria.normalize raw).coerce e ∧ Valid e criteria := by
  rw [prepare_eq]
  constructor
  · intro h
    rcases check_cases e ((Criteria.normalize raw).coerce e) with hok | herr
    · rw [hok] at h
      cases h
      exact ⟨rfl, check_eq_ok.mp hok⟩
    · rw [herr] at h
      cases h
  · rintro ⟨rfl, hvalid⟩
    rw [check_eq_ok.mpr hvalid]
    rfl

/-- **Preparing can only turn criteria down**; it never ends in another failure. -/
theorem prepare_cases (e : Entity) (raw : Value) :
    (∃ reasons, Query.prepare e raw = .error (.rejected reasons)) ∨
      ∃ criteria, Query.prepare e raw = .ok criteria := by
  rw [prepare_eq]
  rcases check_cases e ((Criteria.normalize raw).coerce e) with h | h
  · rw [h]
    exact Or.inr ⟨_, rfl⟩
  · rw [h]
    exact Or.inl ⟨_, rfl⟩

end BooksGateway.Validation
