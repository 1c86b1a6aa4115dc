import BooksGateway.Proofs.Coercion

/-!
# Criteria settle

Bringing criteria into normal form a second time changes nothing, and neither does turning their
values a second time, whether or not they are valid. What validation accepts has settled already: it
comes out of every step as it went in.

* `normalize_toValue`: the normal form of what is in normal form;
* `isOfKind_coerceOne_or`, `Criteria.coerce_coerce`: what turning values does, once and twice;
* `Criteria.coerce_of_valid`: valid criteria stay as they are;
* `criteria_settle`: all steps from raw criteria to a text.
-/

namespace BooksGateway

open Validation

/-! ## 1. Normal form -/

namespace Criteria

/-- **What is in normal form stays as it is**: a list, or a mapping without reserved keys. -/
theorem normalize_toValue {criteria : Criteria} (h : criteria.HasFreeKeys) :
    normalize criteria.toValue = criteria := by
  cases criteria with
  | entries items => rfl
  | equalities fields =>
    have hnot : ∀ field ∈ fields, ¬ Directive.isReserved field.1 = true :=
      fun field hfield => Bool.eq_false_iff.mp (h field hfield)
    have hfilters : Fields.get? fields Directive.filtersKey = none := by
      rw [← Option.isNone_iff_eq_none, ← Option.not_isSome, ← Fields.has,
        Fields.has_eq_contains, Bool.not_eq_true', List.contains_eq_mem, decide_eq_false_iff_not]
      intro hmem
      obtain ⟨field, hfield, hkey⟩ := List.mem_map.mp hmem
      refine hnot field hfield ?_
      rw [hkey]
      decide
    show ofShape (Shape.ofFields fields) = _
    rw [Shape.ofFields, hfilters]
    dsimp only
    split
    · rename_i hempty
      rw [List.isEmpty_iff.mp hempty]
      rfl
    · split
      · rename_i hempty hall
        obtain ⟨field, hfield⟩ := List.exists_mem_of_ne_nil _ (mt List.isEmpty_iff.mpr hempty)
        exact absurd (List.all_eq_true.mp hall field hfield) (hnot field hfield)
      · split
        · rename_i hany
          obtain ⟨field, hfield, hreserved⟩ := List.any_eq_true.mp hany
          exact absurd hreserved (hnot field hfield)
        · rfl

theorem normalize_normalize (raw : Value) : normalize (normalize raw).toValue = normalize raw :=
  normalize_toValue (hasFreeKeys_normalize raw)

end Criteria

/-! ## 2. One value -/

namespace FieldKind

theorem numberOfText_cases (s : String) :
    IsOfKind .number (numberOfText s) ∨ numberOfText s = .str s := by
  unfold numberOfText
  split
  · exact .inl (.whole _)
  · split
    · split
      · split
        · exact .inl (.whole _)
        · exact .inl (.decimal _)
      · exact .inr rfl
    · exact .inr rfl

/-- **What can be turned is of the kind afterwards, and all else stays as it is.** -/
theorem isOfKind_coerceOne_or (kind : FieldKind) (v : Value) :
    IsOfKind kind (kind.coerceOne v) ∨ kind.coerceOne v = v := by
  cases kind with
  | text =>
    cases v with
    | null | str | list | obj => exact .inr rfl
    | bool | int | float => exact .inl (.text _)
  | date =>
    cases v with
    | null | str | list | obj => exact .inr rfl
    | bool | int | float => exact .inl (.date _)
  | number =>
    cases v with
    | bool => exact .inl (.whole _)
    | str s => exact numberOfText_cases s
    | null | int | float | list | obj => exact .inr rfl
  | flag => cases v <;> exact .inl (.flag _)

theorem coerceOne_coerceOne (kind : FieldKind) (v : Value) :
    kind.coerceOne (kind.coerceOne v) = kind.coerceOne v := by
  rcases isOfKind_coerceOne_or kind v with hkind | hsame
  · exact coerceOne_of_isOfKind hkind
  · rw [hsame, hsame]

/-- What is of a kind is no list, so it is turned as a whole. -/
theorem coerce_of_isOfKind {kind : FieldKind} {v : Value} (h : IsOfKind kind v) :
    kind.coerce v = v := by
  cases v with
  | list => cases h
  | _ => exact coerceOne_of_isOfKind h

theorem coerce_coerce (kind : FieldKind) (v : Value) :
    kind.coerce (kind.coerce v) = kind.coerce v := by
  cases v with
  | list items =>
    rw [coerce, coerce, List.map_map]
    exact congrArg Value.list (List.map_congr_left fun v _ => coerceOne_coerceOne kind v)
  | _ =>
    show kind.coerce (kind.coerceOne _) = kind.coerceOne _
    rcases isOfKind_coerceOne_or kind _ with hkind | hsame
    · exact coerce_of_isOfKind hkind
    · rw [hsame]
      exact hsame

end FieldKind

theorem coerceFor_coerceFor (spec : Option FieldSpec) (v : Value) :
    coerceFor spec (coerceFor spec v) = coerceFor spec v := by
  cases spec with
  | some spec => exact FieldKind.coerce_coerce spec.kind v
  | none => rfl

/-! ## 3. Entries and criteria -/

namespace FieldTable

theorem coerceFilter_coerceFilter (table : FieldTable) (entry : Fields) :
    table.coerceFilter (table.coerceFilter entry) = table.coerceFilter entry := by
  have hstored : (table.coerceFilter entry).get? "value" =
      some (coerceFor (table.named? (Entry.field entry)) (Entry.value entry)) := by
    rw [coerceFilter, Fields.get?_put, if_pos rfl]
  show (table.coerceFilter entry).put "value" _ = _
  refine Fields.put_of_get? ?_
  rw [hstored, coerceFilter, Entry.field_put_value, Entry.value_put_value, coerceFor_coerceFor]

theorem coerceEntry_coerceEntry (table : FieldTable) (v : Value) :
    table.coerceEntry (table.coerceEntry v) = table.coerceEntry v := by
  cases v with
  | obj entry =>
    by_cases h : Entry.isDirective entry = true
    · rw [coerceEntry, if_pos h, coerceEntry, if_pos h]
    · have hcoerced : ¬ Entry.isDirective (table.coerceFilter entry) = true := by
        rw [Entry.isDirective_eq_not_isFilter, isFilter_coerceFilter,
          ← Entry.isDirective_eq_not_isFilter]
        exact h
      rw [coerceEntry, if_neg h, coerceEntry, if_neg hcoerced, coerceFilter_coerceFilter]
  | _ => rfl

end FieldTable

namespace Criteria

/-- **Turning values twice is turning them once**, also in criteria that are not valid. -/
theorem coerce_coerce (criteria : Criteria) (e : Entity) :
    (criteria.coerce e).coerce e = criteria.coerce e := by
  cases criteria with
  | entries items =>
    simp only [coerce, List.map_map]
    exact congrArg entries (List.map_congr_left fun v _ => e.fields.coerceEntry_coerceEntry v)
  | equalities fields =>
    simp only [coerce, List.map_map]
    refine congrArg equalities (List.map_congr_left fun field _ => ?_)
    exact congrArg (Prod.mk field.1) (coerceFor_coerceFor _ field.2)

/-- The value under a key of a mapping whose entry is well formed stays as it is. -/
theorem coerceFor_of_wellFormed {e : Entity} (he : e ∈ Entity.all) {key : String} {v : Value}
    (h : WellFormed e (Entry.equality key v)) : coerceFor (e.fields.find? key) v = v := by
  cases hfield : e.fields.find? key with
  | none => rfl
  | some spec =>
    have hsame := FieldTable.coerceEntry_of_wellFormed h
    rw [FieldTable.coerceEntry_equality _ (Entity.reserved_of_find? he hfield), hfield] at hsame
    simpa [Entry.equality] using hsame

/-- **Valid criteria stay as they are.** -/
theorem coerce_of_valid {e : Entity} (he : e ∈ Entity.all) {criteria : Criteria}
    (h : Valid e criteria) : criteria.coerce e = criteria := by
  cases criteria with
  | entries items =>
    exact congrArg entries (FieldTable.map_coerceEntry_of_wellFormed h)
  | equalities fields =>
    rw [coerce]
    refine congrArg equalities ((List.map_congr_left fun field hfield => ?_).trans (List.map_id _))
    have hentry : WellFormed e (Entry.equality field.1 field.2) :=
      h _ (List.mem_map.mpr ⟨field, hfield, rfl⟩)
    exact congrArg (Prod.mk field.1) (coerceFor_of_wellFormed he hentry)

/-- **Nothing is written when the values of valid criteria are turned.** -/
theorem written_of_valid {e : Entity} (he : e ∈ Entity.all) {criteria : Criteria}
    (h : Valid e criteria) : criteria.written e = [] := by
  cases criteria with
  | entries items => exact written_entries_of_wellFormed h
  | equalities fields =>
    refine List.flatMap_eq_nil_iff.mpr fun field hfield => ?_
    have hentry : WellFormed e (Entry.equality field.1 field.2) :=
      h _ (List.mem_map.mpr ⟨field, hfield, rfl⟩)
    show writtenFor (e.fields.find? field.1) field.2 = []
    cases hspec : e.fields.find? field.1 with
    | none => rfl
    | some spec =>
      rw [← hspec, ← e.fields.writtenIn_equality (Entity.reserved_of_find? he hspec)]
      exact FieldTable.writtenIn_of_wellFormed hentry

theorem ofValue_toValue (criteria : Criteria) : ofValue criteria.toValue = .ok criteria := by
  cases criteria <;> rfl

/-- Criteria in normal form are turned for the entity that a text names. -/
theorem coerceValue_of_known {name : String} {e : Entity} (h : Entity.ofName? name = some e)
    (criteria : Criteria) :
    coerceValue (.str name) criteria.toValue = .ok (criteria.coerce e).toValue := by
  rw [coerceValue, ofValue_toValue, Entity.find?, h]
  rfl

theorem writtenValue_of_known {name : String} {e : Entity} (h : Entity.ofName? name = some e)
    (criteria : Criteria) : writtenValue (.str name) criteria.toValue = criteria.written e := by
  rw [writtenValue, ofValue_toValue, Entity.find?, h]

/-- For a text that names no entity they stay as they are. -/
theorem coerceValue_of_unknown {name : String} (h : Entity.ofName? name = none)
    (criteria : Criteria) : coerceValue (.str name) criteria.toValue = .ok criteria.toValue := by
  rw [coerceValue, ofValue_toValue, Entity.find?, h]
  rfl

end Criteria

theorem Entity.ofName?_of_get {name : String} {e : Entity} (h : get (.str name) = .ok e) :
    ofName? name = some e := by
  cases hname : ofName? name with
  | none =>
    simp only [get, find?, hname] at h
    cases h
  | some found =>
    simp only [get, find?, hname] at h
    cases h
    rfl

/-! ## 4. All steps -/

/-- The query of valid criteria can be made, whatever their form. -/
theorem Query.exists_ofValue {e : Entity} {criteria : Criteria} (h : Valid e criteria)
    (entity : String) : ∃ q, Query.ofValue entity criteria.toValue = .ok q := by
  cases criteria with
  | entries items => exact ⟨_, Query.ofEntries_of_valid entity h⟩
  | equalities fields => exact ⟨_, rfl⟩

/-- **Criteria settle.** The normal form of criteria in normal form is the same, and turning the
    values of turned criteria for a name, with the normal form taken in between, changes nothing, be
    they valid or not, and be there an entity with this name or not. Criteria that validation
    accepts for an entity are not changed by turning their values, so they compile to the text of
    their own query; and if they are a list, or have no reserved keys, then preparing them accepts
    them and gives them back. -/
theorem criteria_settle (name : String) :
    (∀ raw : Value,
      Criteria.normalize (Criteria.normalize raw).toValue = Criteria.normalize raw) ∧
    (∀ raw : Value, ∃ turned,
      Criteria.coerceValue (.str name) (Criteria.normalize raw).toValue = .ok turned ∧
      Criteria.coerceValue (.str name) (Criteria.normalize turned).toValue = .ok turned) ∧
    ∀ e, Entity.get (.str name) = .ok e → ∀ criteria, check e criteria = .ok () →
      Criteria.coerceValue (.str name) criteria.toValue = .ok criteria.toValue ∧
      (∃ q, Query.ofValue name criteria.toValue = .ok q ∧
        Query.compileValue (.str name) criteria.toValue = q.text) ∧
      (criteria.HasFreeKeys → Query.prepare e criteria.toValue = .ok criteria) := by
  refine ⟨Criteria.normalize_normalize, fun raw => ?_, fun e hget criteria hcheck => ?_⟩
  · have hfree := Criteria.hasFreeKeys_normalize raw
    cases hname : Entity.ofName? name with
    | none =>
      refine ⟨_, Criteria.coerceValue_of_unknown hname _, ?_⟩
      rw [Criteria.normalize_normalize, Criteria.coerceValue_of_unknown hname]
    | some e =>
      refine ⟨_, Criteria.coerceValue_of_known hname _, ?_⟩
      rw [Criteria.normalize_toValue (Criteria.hasFreeKeys_coerce hfree e),
        Criteria.coerceValue_of_known hname, Criteria.coerce_coerce]
  · have hname := Entity.ofName?_of_get hget
    have hvalid := check_eq_ok.mp hcheck
    have hsame := Criteria.coerce_of_valid (Entity.mem_all_of_ofName? hname) hvalid
    have hturned : Criteria.coerceValue (.str name) criteria.toValue = .ok criteria.toValue := by
      rw [Criteria.coerceValue_of_known hname, hsame]
    obtain ⟨q, hquery⟩ := Query.exists_ofValue hvalid name
    refine ⟨hturned, ⟨q, hquery, ?_⟩, fun hfree => ?_⟩
    · have hwritten : Query.checkWritable
          (Criteria.writtenValue (.str name) criteria.toValue) = .ok () := by
        rw [Criteria.writtenValue_of_known hname,
          Criteria.written_of_valid (Entity.mem_all_of_ofName? hname) hvalid]
        rfl
      unfold Query.compileValue
      rw [hturned, hwritten]
      show (do (← Query.ofValue name criteria.toValue).text) = _
      rw [hquery]
      rfl
    · rw [prepare_eq_ok, Criteria.normalize_toValue hfree, hsame]
      exact ⟨rfl, hvalid⟩

/-- Criteria as validation accepts them. -/
def overdueFirst : Criteria :=
  .entries [.obj [("field", .str "Balance"), ("value", .int 5), ("operator", .str ">")],
    Entry.bare "asc" (.str "TxnDate"), Entry.bare "fetchAll" .null]

theorem criteria_settle_overdueFirst :
    Entity.get (.str "invoice") = .ok Entity.all[6] ∧
    check Entity.all[6] overdueFirst = .ok () ∧
    Query.compileValue (.str "invoice") overdueFirst.toValue =
      .ok "SELECT * FROM invoice WHERE Balance > 5 ORDER BY TxnDate ASC" ∧
    Query.prepare Entity.all[6] overdueFirst.toValue = .ok overdueFirst := by
  have hget : Entity.get (.str "invoice") = .ok Entity.all[6] := rfl
  have hcheck : check Entity.all[6] overdueFirst = .ok () := rfl
  obtain ⟨_, ⟨q, hquery, htext⟩, hprepare⟩ :=
    (criteria_settle "invoice").2.2 _ hget overdueFirst hcheck
  refine ⟨hget, hcheck, ?_, hprepare True.intro⟩
  cases hquery
  rw [htext, Query.text, if_pos (by decide +kernel)]
  rfl

end BooksGateway
