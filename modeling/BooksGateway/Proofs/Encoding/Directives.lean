import BooksGateway.Proofs.Saying
import Mathlib.Data.List.Basic

/-!
# Directives written as keys and as entries

A directive is written as a key of a mapping or as an entry of a list, and the keys of a mapping
stand in any order. A directive that has an effect says the same wherever it is written.

* `Fields.get?_of_perm`: the order of keys has no influence on what is found;
* `ofRaw_fullEntry`: writing out the parts of an entry does not change what it says;
* `map_ofRaw_options`, `ofRaw_mixedEntry_key`: what effective directives say.
-/

namespace BooksGateway

open Validation

/-! ## 1. Lookups and the order of keys -/

theorem Fields.get?_of_mem {fields : Fields} (hnodup : fields.keys.Nodup) {key : String}
    {v : Value} (h : (key, v) ∈ fields) : fields.get? key = some v := by
  induction fields with
  | nil => cases h
  | cons field rest ih =>
    obtain ⟨k, w⟩ := field
    have hkeys := List.nodup_cons.mp hnodup
    rcases List.mem_cons.mp h with hfirst | hrest
    · cases hfirst
      rw [get?, if_pos rfl]
    · have hk : k ≠ key := by
        rintro rfl
        exact hkeys.1 (List.mem_map.mpr ⟨_, hrest, rfl⟩)
      rw [get?, if_neg hk]
      exact ih hkeys.2 hrest

theorem Fields.get?_eq_some_iff {fields : Fields} (h : fields.keys.Nodup) {key : String}
    {v : Value} : fields.get? key = some v ↔ (key, v) ∈ fields :=
  ⟨mem_of_get?, get?_of_mem h⟩

/-- The order of keys has no influence on what is found under them. -/
theorem Fields.get?_of_perm {fields others : Fields} (h : fields.Perm others)
    (hnodup : others.keys.Nodup) (key : String) : fields.get? key = others.get? key := by
  have hkeys : fields.keys.Nodup := (h.map Prod.fst).nodup_iff.mpr hnodup
  refine Option.ext fun v => ?_
  rw [get?_eq_some_iff hkeys, get?_eq_some_iff hnodup]
  exact h.mem_iff

namespace Encoding

/-! ## 2. Directives beside conditions -/

/-- Directives with their values, at most one for each. -/
abbrev Options := Directive → Option Value

/-- A value with which a directive has an effect: a number for the window, and one that counts as
    given for every other. -/
def IsEffective : Directive → Value → Prop
  | .limit, v => v.isNumber = true
  | .offset, v => v.isNumber = true
  | _, v => v.isTruthy = true

/-- Directives as keys of a mapping. -/
def pairs (options : Options) : Fields :=
  Directive.all.filterMap fun d => (options d).map fun v => (d.key, v)

/-- Directives as entries of a list. -/
def entriesOf (options : Options) : List Value :=
  Directive.all.filterMap fun d => (options d).map fun v => Entry.bare d.key v

/-- Fields with the values they must equal, as entries of a list without operators. -/
def bareEntries (fields : Fields) : List Value := fields.map fun (key, v) => Entry.bare key v

theorem key_injective {d other : Directive} (h : d.key = other.key) : d = other := by
  have hd := Directive.ofKey?_key d
  rw [h, Directive.ofKey?_key] at hd
  exact (Option.some.inj hd).symm

theorem mem_all (d : Directive) : d ∈ Directive.all := by
  cases d <;> decide

theorem key_ne_filtersKey (d : Directive) : d.key ≠ Directive.filtersKey := by
  cases d <;> decide

theorem isReserved_key (d : Directive) : Directive.isReserved d.key = true := by
  cases d <;> decide

theorem exists_of_mem_pairs {options : Options} {field : String × Value}
    (h : field ∈ pairs options) : ∃ d, field.1 = Directive.key d ∧ options d = some field.2 := by
  obtain ⟨d, _, hd⟩ := List.mem_filterMap.mp h
  obtain ⟨v, hv, rfl⟩ := Option.map_eq_some_iff.mp hd
  exact ⟨d, rfl, hv⟩

theorem mem_pairs {options : Options} {d : Directive} {v : Value} :
    (d.key, v) ∈ pairs options ↔ options d = some v := by
  constructor
  · intro h
    obtain ⟨other, hkey, hother⟩ := exists_of_mem_pairs h
    rw [key_injective hkey]
    exact hother
  · intro h
    refine List.mem_filterMap.mpr ⟨d, mem_all d, ?_⟩
    rw [h]
    rfl

theorem keys_sublist (options : Options) (ds : List Directive) :
    (Fields.keys (ds.filterMap fun d => (options d).map fun v => (d.key, v))).Sublist
      (ds.map Directive.key) := by
  induction ds with
  | nil => exact .slnil
  | cons d rest ih =>
    cases h : options d with
    | none =>
      rw [List.filterMap_cons_none (by rw [h]; rfl)]
      exact ih.cons d.key
    | some v =>
      rw [List.filterMap_cons_some (by rw [h]; rfl)]
      exact ih.cons_cons d.key

theorem nodup_keys_pairs (options : Options) : (pairs options).keys.Nodup :=
  (keys_sublist options Directive.all).nodup (by decide)

theorem get?_key_pairs (options : Options) (d : Directive) :
    (pairs options).get? d.key = options d := by
  refine Option.ext fun v => ?_
  rw [Fields.get?_eq_some_iff (nodup_keys_pairs options), mem_pairs]

theorem filtersKey_not_mem_pairs (options : Options) :
    Directive.filtersKey ∉ (pairs options).keys := by
  intro h
  obtain ⟨field, hfield, hkey⟩ := List.mem_map.mp h
  obtain ⟨d, hd, _⟩ := exists_of_mem_pairs hfield
  exact key_ne_filtersKey d (hd.symm.trans hkey)

section Advanced

variable {options : Options} {filters : Value} {fields : Fields}

theorem nodup_keys_advanced (options : Options) (filters : Value) :
    (Fields.keys ((Directive.filtersKey, filters) :: pairs options)).Nodup :=
  List.nodup_cons.mpr ⟨filtersKey_not_mem_pairs options, nodup_keys_pairs options⟩

theorem get?_filtersKey_advanced
    (h : fields.Perm ((Directive.filtersKey, filters) :: pairs options)) :
    fields.get? Directive.filtersKey = some filters := by
  rw [Fields.get?_of_perm h (nodup_keys_advanced options filters)]
  rfl

theorem get?_key_advanced (h : fields.Perm ((Directive.filtersKey, filters) :: pairs options))
    (d : Directive) : fields.get? d.key = options d := by
  rw [Fields.get?_of_perm h (nodup_keys_advanced options filters), Fields.get?,
    if_neg (key_ne_filtersKey d).symm, get?_key_pairs]

end Advanced

/-! ## 3. What entries say -/

/-- What an entry says hangs on its field, its value and its operator only. -/
theorem ofFields_congr (e : Entity) {entry other : Fields}
    (hfield : Entry.field entry = Entry.field other)
    (hvalue : Entry.value entry = Entry.value other)
    (hoperator : Entry.operator entry = Entry.operator other) :
    Saying.ofFields e entry = Saying.ofFields e other := by
  have hdirective : Query.directiveOf? entry = Query.directiveOf? other := by
    unfold Query.directiveOf?
    rw [hfield]
  have hfault : checkEntry e (.obj entry) = checkEntry e (.obj other) := by
    unfold checkEntry checkFilter
    simp only [hfield, hvalue, hoperator]
  unfold Saying.ofFields Saying.pagesOf? Query.isFilter Query.conditionOf Query.sortOf?
    Query.boundOf? Query.asksForCount
  simp only [hfault, hdirective, hfield, hvalue, hoperator]

theorem ofRaw_obj (e : Entity) (entry : Fields) :
    Saying.ofRaw e (.obj entry) =
      Saying.ofFields e
        (if Entry.isDirective entry then entry else e.fields.coerceFilter entry) := by
  by_cases h : Entry.isDirective entry = true
  · rw [Saying.ofRaw, FieldTable.coerceEntry, if_pos h, if_pos h]
    rfl
  · rw [Saying.ofRaw, FieldTable.coerceEntry, if_neg h, if_neg h]
    rfl

/-- Writing out the parts of an entry does not change what it says. -/
theorem ofRaw_fullEntry (e : Entity) (v : Value) :
    Saying.ofRaw e (Criteria.fullEntry v) = Saying.ofRaw e v := by
  cases v with
  | obj entry =>
    have hoperator : Entry.operator [("field", Entry.field entry), ("value", Entry.value entry),
        ("operator", Entry.operator entry)] = Entry.operator entry :=
      Entry.orElse_operator entry
    have hdirective : Entry.isDirective [("field", Entry.field entry), ("value", Entry.value entry),
        ("operator", Entry.operator entry)] = Entry.isDirective entry := rfl
    rw [Criteria.fullEntry, ofRaw_obj, ofRaw_obj, hdirective]
    by_cases h : Entry.isDirective entry = true
    · rw [if_pos h, if_pos h]
      exact ofFields_congr e rfl rfl hoperator
    · rw [if_neg h, if_neg h]
      unfold FieldTable.coerceFilter
      refine ofFields_congr e ?_ ?_ ?_
      · rw [Entry.field_put_value, Entry.field_put_value]
        rfl
      · rw [Entry.value_put_value, Entry.value_put_value]
        rfl
      · rw [Entry.operator_put_value, Entry.operator_put_value, hoperator]
  | _ => rfl

/-- What a directive says. -/
def directiveSaying (e : Entity) (d : Directive) (v : Value) : Saying :=
  match d with
  | .ascending => { fault := checkDirective e d v, sort := some (v, .rising) }
  | .descending => { fault := checkDirective e d v, sort := some (v, .falling) }
  | .limit =>
    { fault := checkDirective e d v
      limit := Query.boundOf? d [("field", .str d.key), ("value", v)] }
  | .offset =>
    { fault := checkDirective e d v
      offset := Query.boundOf? d [("field", .str d.key), ("value", v)] }
  | .count => { fault := none, counts := v.isTruthy }
  | .fetchAll => { fault := none, pages := some v.isTruthy }

theorem ofRaw_bare (e : Entity) (d : Directive) (v : Value) :
    Saying.ofRaw e (Entry.bare d.key v) = directiveSaying e d v := by
  cases d <;> rfl

/-- An equality sets a condition, or something is wrong with it; it says nothing else. -/
theorem ofRaw_equality (e : Entity) {key : String} (h : Directive.isReserved key = false)
    (v : Value) :
    ∃ fault condition, Saying.ofRaw e (Entry.equality key v) = { fault, condition } := by
  have hdirective : Query.directiveOf?
      (Query.equalityFields (key, coerceFor (e.fields.find? key) v)) = none :=
    Query.directiveOf?_equalityFields h
  unfold Saying.ofRaw
  rw [FieldTable.coerceEntry_equality _ h]
  show ∃ fault condition,
    Saying.ofFields e (Query.equalityFields (key, coerceFor (e.fields.find? key) v)) = _
  unfold Saying.ofFields Saying.pagesOf? Query.sortOf? Query.boundOf? Query.asksForCount
  simp only [hdirective]
  exact ⟨_, _, rfl⟩

/-! ## 4. What effective directives say -/

/-- What directives say, in their order. -/
def directiveSayings (e : Entity) (options : Options) : List Saying :=
  Directive.all.filterMap fun d => (options d).map (directiveSaying e d)

/-- Directives all of which have an effect. -/
def AllEffective (options : Options) : Prop := ∀ d v, options d = some v → IsEffective d v

theorem map_ofRaw_entriesOf (e : Entity) (options : Options) :
    (entriesOf options).map (Saying.ofRaw e) = directiveSayings e options := by
  unfold entriesOf directiveSayings
  rw [List.map_filterMap]
  congr 1
  funext d
  cases options d with
  | none => rfl
  | some v => exact congrArg some (ofRaw_bare e d v)

/-- An effective directive has one entry in normal form, however it is written, which says the
    same. -/
theorem exists_normalEntry (e : Entity) {d : Directive} {v : Value} (h : IsEffective d v) :
    ∃ w, d.entry? v = some (Entry.bare d.key w) ∧
      Criteria.mixedEntry d.key v = Entry.bare d.key w ∧
      directiveSaying e d w = directiveSaying e d v := by
  cases d with
  | count =>
    have htrue : v.isTruthy = true := h
    refine ⟨.bool true, if_pos h, rfl, ?_⟩
    rw [directiveSaying, directiveSaying, htrue]
    rfl
  | fetchAll =>
    have htrue : v.isTruthy = true := h
    refine ⟨.bool true, if_pos h, rfl, ?_⟩
    rw [directiveSaying, directiveSaying, htrue]
    rfl
  | _ => exact ⟨v, if_pos h, rfl, rfl⟩

theorem map_ofRaw_entry? (e : Entity) {d : Directive} {v : Value} (h : IsEffective d v) :
    (d.entry? v).map (Saying.ofRaw e) = some (directiveSaying e d v) := by
  obtain ⟨w, hentry, _, hsaying⟩ := exists_normalEntry e h
  rw [hentry, Option.map_some, ofRaw_bare, hsaying]

theorem ofRaw_mixedEntry_key (e : Entity) {d : Directive} {v : Value} (h : IsEffective d v) :
    Saying.ofRaw e (Criteria.mixedEntry d.key v) = directiveSaying e d v := by
  obtain ⟨w, _, hentry, hsaying⟩ := exists_normalEntry e h
  rw [hentry, ofRaw_bare, hsaying]

/-- The directives among the keys of a mapping say what effective directives say. -/
theorem map_ofRaw_options (e : Entity) {fields : Fields} {options : Options}
    (hoptions : ∀ d : Directive, fields.get? d.key = options d)
    (heffective : AllEffective options) :
    ((Shape.options fields).filterMap fun (d, v) => d.entry? v).map (Saying.ofRaw e) =
      directiveSayings e options := by
  unfold Shape.options directiveSayings
  rw [List.filterMap_filterMap, List.map_filterMap]
  congr 1
  funext d
  rw [hoptions d]
  cases h : options d with
  | none => rfl
  | some v => exact map_ofRaw_entry? e (heffective d v h)

end Encoding

end BooksGateway
