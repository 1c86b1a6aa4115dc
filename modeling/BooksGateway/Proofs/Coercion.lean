import BooksGateway.Proofs.Assembly

/-!
# Coercion of entries

Coercion has no influence on which entries are filters, and on what they compare by which operator.
A value that is of the kind of its field already stays as it is, so coercing twice is coercing once.

* `conditionOf_coerceFilter`: the condition of a filter whose value was turned;
* `asEntries_coerce`: coercing criteria is coercing their entries;
* `coerceEntry_of_wellFormed`, `writtenIn_of_wellFormed`: well-formed entries stay as they are, and
  nothing is written for that.
-/

namespace BooksGateway

open Validation

/-! ## 1. The parts of an entry -/

namespace Entry

theorem getD_put_value (entry : Fields) (v : Value) {key : String} (hkey : "value" ≠ key) :
    Fields.getD (entry.put "value" v) key = Fields.getD entry key := by
  rw [Fields.getD, Fields.get?_put, if_neg hkey, Fields.getD]

theorem field_put_value (entry : Fields) (v : Value) :
    field (entry.put "value" v) = field entry := getD_put_value entry v (by decide)

theorem operator_put_value (entry : Fields) (v : Value) :
    operator (entry.put "value" v) = operator entry := by
  rw [operator, getD_put_value entry v (by decide), operator]

theorem value_put_value (entry : Fields) (v : Value) : value (entry.put "value" v) = v := by
  rw [value, Fields.getD, Fields.get?_put, if_pos rfl, Option.getD_some]

/-- An operator stands for itself. -/
theorem orElse_operator (entry : Fields) :
    (operator entry).orElse (.str defaultOperator) = operator entry := by
  unfold operator Value.orElse
  by_cases h : (Fields.getD entry "operator").isTruthy = true
  · rw [if_pos h, if_pos h]
  · rw [if_neg h]
    rfl

/-- An entry is a directive iff it is one of the six. -/
theorem isDirective_eq (entry : Fields) :
    isDirective entry = (Query.directiveOf? entry).isSome := by
  unfold isDirective Directive.isKey Query.directiveOf?
  cases field entry <;> rfl

theorem isDirective_eq_not_isFilter (entry : Fields) :
    isDirective entry = !Query.isFilter entry := by
  rw [isDirective_eq, Query.isFilter, Option.not_isNone]

/-- What a mapping asks of a key that is not reserved is no directive. -/
theorem isDirective_equality {key : String} (hkey : Directive.isReserved key = false) (v : Value) :
    isDirective [("field", .str key), ("value", v), ("operator", .str defaultOperator)] =
      false := by
  simp only [Directive.isReserved, Bool.or_eq_false_iff] at hkey
  exact hkey.1

end Entry

/-! ## 2. Coercing entries -/

namespace FieldTable

/-- Turning its value does not make a filter a directive, nor a directive a filter. -/
theorem isFilter_coerceFilter (table : FieldTable) (entry : Fields) :
    Query.isFilter (table.coerceFilter entry) = Query.isFilter entry := by
  unfold Query.isFilter Query.directiveOf? coerceFilter
  rw [Entry.field_put_value]

/-- The condition of a filter whose value was turned compares the same field by the same
    operator. -/
theorem conditionOf_coerceFilter (table : FieldTable) (entry : Fields) :
    Query.conditionOf (table.coerceFilter entry) =
      ⟨Entry.field entry, Entry.operator entry,
        coerceFor (table.named? (Entry.field entry)) (Entry.value entry)⟩ := by
  unfold Query.conditionOf coerceFilter
  rw [Entry.field_put_value, Entry.operator_put_value, Entry.value_put_value]

theorem coerceEntry_equality (table : FieldTable) {key : String}
    (hkey : Directive.isReserved key = false) (v : Value) :
    table.coerceEntry (Entry.equality key v) =
      Entry.equality key (coerceFor (table.find? key) v) := by
  rw [Entry.equality, coerceEntry, if_neg (by rw [Entry.isDirective_equality hkey]; decide)]
  rfl

end FieldTable

/-! ## 3. Coercing criteria -/

namespace Criteria

theorem asEntries_ofEntries (items : List Value) : (ofEntries items).asEntries = items := by
  cases items <;> rfl

/-- **Coercing criteria is coercing their entries.** -/
theorem asEntries_coerce {criteria : Criteria} (h : criteria.HasFreeKeys) (e : Entity) :
    (criteria.coerce e).asEntries = criteria.asEntries.map e.fields.coerceEntry := by
  cases criteria with
  | entries items => rfl
  | equalities fields =>
    simp only [coerce, asEntries, List.map_map]
    refine List.map_congr_left fun field hfield => ?_
    exact (e.fields.coerceEntry_equality (h field hfield) field.2).symm

end Criteria

/-! ## 4. Values of the right kind -/

theorem FieldKind.coerceOne_of_isOfKind {kind : FieldKind} {v : Value} (h : IsOfKind kind v) :
    kind.coerceOne v = v := by
  cases h <;> rfl

/-- A value that fits an operator stays as it is. -/
theorem FieldKind.coerce_of_fits {kind : FieldKind} {operator : String} {v : Value}
    (h : Fits kind operator v) : kind.coerce v = v := by
  cases h with
  | @items items _ hkind =>
    rw [coerce, List.map_congr_left fun v hv => coerceOne_of_isOfKind (hkind v hv), List.map_id']
  | single _ hkind =>
    cases v with
    | list => cases hkind
    | _ => exact coerceOne_of_isOfKind hkind

theorem Fields.put_of_get? {fields : Fields} {key : String} {v : Value}
    (h : fields.get? key = some v) : fields.put key v = fields := by
  induction fields with
  | nil => cases h
  | cons field rest ih =>
    obtain ⟨k, w⟩ := field
    by_cases hk : k = key
    · simp only [get?, if_pos hk, Option.some.injEq] at h
      rw [put, if_pos hk, h]
    · simp only [get?, if_neg hk] at h
      rw [put, if_neg hk, ih h]

/-- A value that fits an operator is there. -/
theorem Entry.get?_value_of_fits {entry : Fields} {kind : FieldKind} {operator : String}
    (h : Fits kind operator (value entry)) : entry.get? "value" = some (value entry) := by
  unfold value Fields.getD at h ⊢
  cases hget : entry.get? "value" with
  | some v => rfl
  | none =>
    rw [hget] at h
    cases h with
    | single _ hkind => cases hkind

/-- **Well-formed entries stay as they are.** -/
theorem FieldTable.coerceEntry_of_wellFormed {e : Entity} {v : Value} (h : WellFormed e v) :
    e.fields.coerceEntry v = v := by
  cases h with
  | directive hd _ =>
    rw [coerceEntry, Entry.isDirective_eq, hd, Option.isSome_some, if_pos rfl]
  | @filter entry name spec operator hfits =>
    have hcoerced : coerceFor (e.fields.named? (Entry.field entry)) (Entry.value entry) =
        Entry.value entry := by
      rw [hfits.field]
      show coerceFor (e.fields.find? name) _ = _
      rw [hfits.known]
      exact FieldKind.coerce_of_fits hfits.value
    rw [coerceEntry, Entry.isDirective_eq, hfits.directiveOf?, Option.isSome_none,
      if_neg Bool.false_ne_true, coerceFilter, hcoerced,
      Fields.put_of_get? (Entry.get?_value_of_fits hfits.value)]

theorem FieldTable.map_coerceEntry_of_wellFormed {e : Entity} {items : List Value}
    (h : ∀ v ∈ items, WellFormed e v) : items.map e.fields.coerceEntry = items := by
  rw [List.map_congr_left fun v hv => coerceEntry_of_wellFormed (h v hv), List.map_id']

/-! ## 5. Whole numbers that are written -/

/-- A value that fits an operator is turned without being written. -/
theorem FieldKind.written_of_fits {kind : FieldKind} {operator : String} {v : Value}
    (h : Fits kind operator v) : kind.written v = [] := by
  have hone : ∀ v, IsOfKind kind v → kind.writtenOne v = [] := by
    intro v hkind
    cases hkind <;> rfl
  cases h with
  | items _ hkind => exact List.flatMap_eq_nil_iff.mpr fun v hv => hone v (hkind v hv)
  | single _ hkind =>
    cases v with
    | list => cases hkind
    | _ => exact hone _ hkind

/-- **Nothing is written when a well-formed entry is turned.** -/
theorem FieldTable.writtenIn_of_wellFormed {e : Entity} {v : Value} (h : WellFormed e v) :
    e.fields.writtenIn v = [] := by
  cases h with
  | directive hd _ =>
    rw [writtenIn, Entry.isDirective_eq, hd, Option.isSome_some, if_pos rfl]
  | @filter entry name spec operator hfits =>
    rw [writtenIn, Entry.isDirective_eq, hfits.directiveOf?, Option.isSome_none,
      if_neg Bool.false_ne_true, hfits.field]
    show writtenFor (e.fields.find? name) _ = []
    rw [hfits.known]
    exact FieldKind.written_of_fits hfits.value

theorem FieldTable.writtenIn_equality (table : FieldTable) {key : String}
    (hkey : Directive.isReserved key = false) (v : Value) :
    table.writtenIn (Entry.equality key v) = writtenFor (table.find? key) v := by
  rw [Entry.equality, writtenIn, if_neg (by rw [Entry.isDirective_equality hkey]; decide)]
  rfl

theorem Criteria.written_entries_of_wellFormed {e : Entity} {items : List Value}
    (h : ∀ v ∈ items, WellFormed e v) : (entries items).written e = [] :=
  List.flatMap_eq_nil_iff.mpr fun v hv => FieldTable.writtenIn_of_wellFormed (h v hv)

/-- No message names the operator of a well-formed entry. -/
theorem Validation.writtenIn_of_wellFormed {e : Entity} {v : Value} (h : WellFormed e v) :
    Validation.writtenIn e v = [] := by
  cases h with
  | @directive entry d hd _ =>
    have hreserved : Directive.isReserved d.key = true := by
      simp [Directive.isReserved, Directive.ofKey?_key]
    simp only [Validation.writtenIn, directiveOf?_eq_some.mp hd, hreserved, if_true]
  | @filter entry name spec operator hfits =>
    have hoperator : isOperator (.str operator) = true :=
      List.contains_iff_mem.mpr hfits.operator_mem
    simp [Validation.writtenIn, hfits.field, hfits.free, hfits.known, hfits.operator_eq, hoperator]

end BooksGateway
