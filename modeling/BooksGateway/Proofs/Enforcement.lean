import BooksGateway.Proofs.Coercion

/-!
# Which conditions are enforced

A caller writes conditions as entries of a list or as keys of a mapping. The conditions of the query
are exactly those that are written in a list, or as keys of a mapping without a list of filters.
Keys that stand beside a list of filters have no effect, and nothing is said about them.

* `map_conditionOf?_normalize`: bringing criteria into normal form keeps the listed conditions;
* `conditions_of_prepare`: the conditions of a query are the listed ones;
* `enforced_iff`: when everything that was written is enforced.
-/

namespace BooksGateway

open Validation

namespace Enforcement

/-! ## 1. What a caller writes -/

/-- Whether an entry is none of the six directives. -/
def isCondition : Value → Bool
  | .obj entry => !Entry.isDirective entry
  | _ => true

/-- The entries that are no directives. -/
def conditionsIn (items : List Value) : List Value := items.filter isCondition

/-- The keys of a mapping that are not reserved, as entries that ask for equality. -/
def keyConditions (fields : Fields) : List Value :=
  (fields.filter fun (key, _) => !Directive.isReserved key).map fun (key, v) =>
    Entry.equality key v

/-- The conditions in a list, in the list of filters of a mapping, or in a mapping without one. -/
def listed : Value → List Value
  | .list items => conditionsIn items
  | .obj fields =>
    match Fields.get? fields Directive.filtersKey with
    | some (.list items) => conditionsIn items
    | some _ => []
    | none => keyConditions fields
  | _ => []

/-- The conditions beside a list of filters. -/
def beside : Value → List Value
  | .obj fields => if Fields.has fields Directive.filtersKey then keyConditions fields else []
  | _ => []

/-- All conditions that a caller writes. -/
def written (raw : Value) : List Value := listed raw ++ beside raw

/-- The condition that an entry asks for, its value turned into the kind of its field; only a
    mapping asks for any. -/
def conditionOf? (e : Entity) : Value → Option Condition
  | .obj entry =>
    some ⟨Entry.field entry, Entry.operator entry,
      coerceFor (e.fields.named? (Entry.field entry)) (Entry.value entry)⟩
  | _ => none

/-- A query enforces an entry when it has the condition that the entry asks for. -/
def Enforces (e : Entity) (q : Query) (v : Value) : Prop :=
  ∃ c ∈ q.conditions, conditionOf? e v = some c

/-! ## 2. Normal form -/

theorem conditionsIn_append (items more : List Value) :
    conditionsIn (items ++ more) = conditionsIn items ++ conditionsIn more :=
  List.filter_append items more

theorem conditionsIn_cons_of_condition {v : Value} (h : isCondition v = true)
    (rest : List Value) : conditionsIn (v :: rest) = v :: conditionsIn rest :=
  List.filter_cons_of_pos h

theorem conditionsIn_cons_of_directive {v : Value} (h : isCondition v = false)
    (rest : List Value) : conditionsIn (v :: rest) = conditionsIn rest :=
  List.filter_cons_of_neg (Bool.eq_false_iff.mp h)

theorem isCondition_bare (d : Directive) (v : Value) :
    isCondition (Entry.bare d.key v) = false := by
  cases d <;> rfl

theorem isCondition_equality {key : String} (h : Directive.isReserved key = false) (v : Value) :
    isCondition (Entry.equality key v) = true := by
  simp only [Directive.isReserved, Bool.or_eq_false_iff] at h
  show (!(Directive.ofKey? key).isSome) = true
  rw [h.1]
  rfl

/-- Options are directives. -/
theorem conditionsIn_options (options : List (Directive × Value)) :
    conditionsIn (options.filterMap fun (d, v) => d.entry? v) = [] := by
  refine List.filter_eq_nil_iff.mpr fun entry hentry => ?_
  obtain ⟨⟨d, v⟩, _, hoption⟩ := List.mem_filterMap.mp hentry
  have hbare : ∃ w, entry = Entry.bare d.key w := by
    unfold Directive.entry? at hoption
    cases d <;> simp only [Option.ite_none_right_eq_some, Option.some.injEq] at hoption
    all_goals exact ⟨_, hoption.2.symm⟩
  obtain ⟨w, rfl⟩ := hbare
  rw [isCondition_bare]
  exact Bool.false_ne_true

/-- Writing out the parts of a filter does not change what it asks for. -/
theorem conditionOf?_fullEntry (e : Entity) (v : Value) :
    conditionOf? e (Criteria.fullEntry v) = conditionOf? e v := by
  cases v with
  | obj entry =>
    show some (Condition.mk (Entry.field entry)
      ((Entry.operator entry).orElse (.str Entry.defaultOperator)) _) = _
    rw [Entry.orElse_operator]
    rfl
  | _ => rfl

theorem isCondition_fullEntry (v : Value) :
    isCondition (Criteria.fullEntry v) = isCondition v := by
  cases v <;> rfl

theorem conditionsIn_map_fullEntry (items : List Value) :
    conditionsIn (items.map Criteria.fullEntry) = (conditionsIn items).map Criteria.fullEntry := by
  unfold conditionsIn
  rw [List.filter_map]
  congr 2
  funext v
  exact isCondition_fullEntry v

theorem keyConditions_cons_of_free {key : String} (h : Directive.isReserved key = false) (v : Value)
    (rest : Fields) :
    keyConditions ((key, v) :: rest) = Entry.equality key v :: keyConditions rest := by
  simp [keyConditions, h]

theorem keyConditions_cons_of_reserved {key : String} (h : Directive.isReserved key = true)
    (v : Value) (rest : Fields) : keyConditions ((key, v) :: rest) = keyConditions rest := by
  simp [keyConditions, h]

theorem mixedEntry_of_reserved {key : String} (hne : key ≠ Directive.filtersKey)
    (h : Directive.isReserved key = true) (v : Value) :
    ∃ d w, Criteria.mixedEntry key v = Entry.bare (Directive.key d) w := by
  have hsome : (Directive.ofKey? key).isSome = true := by
    simpa [Directive.isReserved, hne] using h
  obtain ⟨d, hd⟩ := Option.isSome_iff_exists.mp hsome
  obtain rfl := Directive.key_of_ofKey? hd
  refine ⟨d, ?_⟩
  unfold Criteria.mixedEntry
  rw [if_pos h, Directive.ofKey?_key]
  cases d <;> exact ⟨_, rfl⟩

/-- Of a mixed mapping the keys that are not reserved are conditions. -/
theorem conditionsIn_mixed {fields : Fields} (h : fields.get? Directive.filtersKey = none) :
    conditionsIn (fields.map fun (key, v) => Criteria.mixedEntry key v) = keyConditions fields := by
  induction fields with
  | nil => rfl
  | cons field rest ih =>
    obtain ⟨key, v⟩ := field
    have hne : key ≠ Directive.filtersKey := by
      rintro rfl
      rw [Fields.get?, if_pos rfl] at h
      cases h
    rw [Fields.get?, if_neg hne] at h
    show conditionsIn (Criteria.mixedEntry key v :: rest.map _) = _
    by_cases hreserved : Directive.isReserved key = true
    · obtain ⟨d, w, hentry⟩ := mixedEntry_of_reserved hne hreserved v
      rw [hentry, conditionsIn_cons_of_directive (isCondition_bare d w),
        keyConditions_cons_of_reserved hreserved, ih h]
    · have hfree := Bool.eq_false_iff.mpr hreserved
      have hentry : Criteria.mixedEntry key v = Entry.equality key v := if_neg hreserved
      rw [hentry, conditionsIn_cons_of_condition (isCondition_equality hfree v),
        keyConditions_cons_of_free hfree, ih h]

theorem keyConditions_of_all {fields : Fields}
    (h : (fields.all fun (key, _) => Directive.isReserved key) = true) :
    keyConditions fields = [] := by
  unfold keyConditions
  rw [List.map_eq_nil_iff, List.filter_eq_nil_iff]
  intro field hfield
  have hreserved : Directive.isReserved field.1 = true := List.all_eq_true.mp h field hfield
  simp [hreserved]

theorem conditionsIn_equalities {fields : Fields}
    (h : (fields.any fun (key, _) => Directive.isReserved key) = false) :
    conditionsIn (fields.map fun (key, v) => Entry.equality key v) = keyConditions fields := by
  have hfree : ∀ field ∈ fields, Directive.isReserved field.1 = false := by
    simpa only [List.any_eq_false, Bool.not_eq_true] using h
  have hall : (fields.filter fun (key, _) => !Directive.isReserved key) = fields :=
    List.filter_eq_self.mpr fun field hfield => by simp [hfree field hfield]
  unfold keyConditions conditionsIn
  rw [hall, List.filter_eq_self]
  intro v hv
  obtain ⟨field, hfield, rfl⟩ := List.mem_map.mp hv
  exact isCondition_equality (hfree field hfield) field.2

/-- The entry under which filters that are no list are kept is not well formed. -/
theorem not_wellFormed_filters (e : Entity) (v : Value) :
    ¬ WellFormed e
      (e.fields.coerceEntry (Criteria.fullEntry (Entry.bare Directive.filtersKey v))) := by
  intro h
  have hnone := checkEntry_eq_none.mpr h
  cases hnone

/-- **Bringing criteria into normal form keeps the listed conditions**, in order. -/
theorem map_conditionOf?_normalize {e : Entity} {raw : Value}
    (h : ∀ v ∈ (Criteria.normalize raw).asEntries, WellFormed e (e.fields.coerceEntry v)) :
    (conditionsIn (Criteria.normalize raw).asEntries).map (conditionOf? e) =
      (listed raw).map (conditionOf? e) := by
  cases raw with
  | list items => rfl
  | obj fields =>
    simp only [Criteria.normalize, Shape.of, Shape.ofFields, listed] at h ⊢
    cases hfilters : Fields.get? fields Directive.filtersKey with
    | some filters =>
      simp only [hfilters, Criteria.ofShape, Criteria.asEntries_ofEntries] at h ⊢
      rw [conditionsIn_append, conditionsIn_options, List.append_nil, conditionsIn_map_fullEntry,
        List.map_map]
      have hfull : conditionOf? e ∘ Criteria.fullEntry = conditionOf? e :=
        funext (conditionOf?_fullEntry e)
      rw [hfull]
      cases filters with
      | list items => rfl
      | null => rfl
      | _ =>
        have hkept := h _ (List.mem_append_left _ List.mem_cons_self)
        exact absurd hkept (not_wellFormed_filters e _)
    | none =>
      dsimp only
      by_cases hempty : fields.isEmpty = true
      · rw [if_pos hempty, List.isEmpty_iff.mp hempty]
        rfl
      · rw [if_neg hempty]
        by_cases hall : (fields.all fun (key, _) => Directive.isReserved key) = true
        · rw [if_pos hall, keyConditions_of_all hall, Criteria.ofShape,
            Criteria.asEntries_ofEntries, List.map_nil, List.nil_append, conditionsIn_options]
        · rw [if_neg hall]
          by_cases hany : (fields.any fun (key, _) => Directive.isReserved key) = true
          · rw [if_pos hany, Criteria.ofShape, Criteria.asEntries_ofEntries,
              conditionsIn_mixed hfilters]
          · rw [if_neg hany, Criteria.ofShape, Criteria.asEntries,
              conditionsIn_equalities (Bool.eq_false_iff.mpr hany)]
  | _ => rfl

/-! ## 3. Queries -/

theorem conditions_of_entries (e : Entity) {items : List Value}
    (h : ∀ v ∈ items, WellFormed e (e.fields.coerceEntry v)) :
    ((Query.filters (Query.mappings (items.map e.fields.coerceEntry))).map
      Query.conditionOf).map some = (conditionsIn items).map (conditionOf? e) := by
  induction items with
  | nil => rfl
  | cons v rest ih =>
    have hrest := ih fun w hw => h w (List.mem_cons_of_mem _ hw)
    have hv := h v List.mem_cons_self
    cases v with
    | obj entry =>
      rw [List.map_cons]
      by_cases hdirective : Entry.isDirective entry = true
      · have hfilters : ∀ more, Query.filters (entry :: more) = Query.filters more := by
          rw [Entry.isDirective_eq_not_isFilter, Bool.not_eq_true'] at hdirective
          exact fun more => List.filter_cons_of_neg (Bool.eq_false_iff.mp hdirective)
        have hskip : isCondition (.obj entry) = false := by simp [isCondition, hdirective]
        rw [conditionsIn_cons_of_directive hskip, FieldTable.coerceEntry, if_pos hdirective,
          Query.mappings, hfilters, hrest]
      · have hfilters : ∀ more, Query.filters (e.fields.coerceFilter entry :: more) =
            e.fields.coerceFilter entry :: Query.filters more := by
          rw [Entry.isDirective_eq_not_isFilter, Bool.not_eq_true', Bool.not_eq_false] at hdirective
          refine fun more => List.filter_cons_of_pos ?_
          rw [FieldTable.isFilter_coerceFilter, hdirective]
        have hkeep : isCondition (.obj entry) = true := by simp [isCondition, hdirective]
        rw [conditionsIn_cons_of_condition hkeep, FieldTable.coerceEntry, if_neg hdirective,
          Query.mappings, hfilters, List.map_cons, List.map_cons, hrest,
          FieldTable.conditionOf_coerceFilter]
        rfl
    | _ => cases hv

/-- Criteria are accepted only if all entries of their normal form are well-formed once turned. -/
theorem wellFormed_of_prepare {e : Entity} {raw : Value} {criteria : Criteria}
    (hprepare : Query.prepare e raw = .ok criteria) :
    ∀ v ∈ (Criteria.normalize raw).asEntries, WellFormed e (e.fields.coerceEntry v) := by
  obtain ⟨rfl, hvalid⟩ := prepare_eq_ok.mp hprepare
  intro v hv
  refine hvalid _ ?_
  rw [Criteria.asEntries_coerce (Criteria.hasFreeKeys_normalize raw) e]
  exact List.mem_map_of_mem hv

/-- **The conditions of a query are the listed ones**, in order. -/
theorem conditions_of_prepare {e : Entity} {raw : Value} {criteria : Criteria}
    (hprepare : Query.prepare e raw = .ok criteria) {q : Query}
    (hquery : Query.ofCriteria e.name criteria = .ok q) (hrows : q.countOnly = false) :
    q.conditions.map some = (listed raw).map (conditionOf? e) := by
  obtain ⟨_, rfl⟩ := Query.extended_of_prepare hprepare hquery hrows
  have hentries := wellFormed_of_prepare hprepare
  obtain ⟨rfl, _⟩ := prepare_eq_ok.mp hprepare
  rw [← map_conditionOf?_normalize hentries, ← conditions_of_entries e hentries,
    Criteria.asEntries_coerce (Criteria.hasFreeKeys_normalize raw) e]
  rfl

/-- **When everything that was written is enforced.** The conditions of a query for rows are the
    listed ones, in order. So what a caller wrote is enforced iff what stands beside a list of
    filters repeats what is in it. -/
theorem enforced_iff {e : Entity} {raw : Value} {criteria : Criteria}
    (hprepare : Query.prepare e raw = .ok criteria) {q : Query}
    (hquery : Query.ofCriteria e.name criteria = .ok q) (hrows : q.countOnly = false) :
    q.conditions.map some = (listed raw).map (conditionOf? e) ∧
      ((∀ v ∈ written raw, Enforces e q v) ↔
        ∀ v ∈ beside raw, ∃ w ∈ listed raw, conditionOf? e w = conditionOf? e v) := by
  have hconditions := conditions_of_prepare hprepare hquery hrows
  have hlisted : ∀ w ∈ listed raw, Enforces e q w := by
    intro w hw
    have hmem := List.mem_map_of_mem (f := conditionOf? e) hw
    rw [← hconditions] at hmem
    obtain ⟨c, hc, hsome⟩ := List.mem_map.mp hmem
    exact ⟨c, hc, hsome.symm⟩
  refine ⟨hconditions, ?_⟩
  constructor
  · intro hall v hv
    obtain ⟨c, hc, hsome⟩ := hall v (List.mem_append_right _ hv)
    have hmem := List.mem_map_of_mem (f := some) hc
    rw [hconditions] at hmem
    obtain ⟨w, hw, hcondition⟩ := List.mem_map.mp hmem
    exact ⟨w, hw, by rw [hcondition, hsome]⟩
  · intro hrepeats v hv
    rcases List.mem_append.mp hv with hv | hv
    · exact hlisted v hv
    · obtain ⟨w, hw, hsame⟩ := hrepeats v hv
      obtain ⟨c, hc, hsome⟩ := hlisted w hw
      exact ⟨c, hc, by rw [← hsame, hsome]⟩

/-- A field beside an empty list of filters. -/
def besideNothing : Value := .obj [("filters", .list []), ("DisplayName", .str "Acme")]

theorem enforced_iff_besideNothing :
    ∃ criteria q, Query.prepare Entity.all[3] besideNothing = .ok criteria ∧
      Query.ofCriteria Entity.all[3].name criteria = .ok q ∧ q.countOnly = false ∧
      q.render = "SELECT * FROM Customer" ∧
      written besideNothing = [Entry.equality "DisplayName" (.str "Acme")] ∧
      ¬ ∀ v ∈ written besideNothing, Enforces Entity.all[3] q v := by
  have hprepare : Query.prepare Entity.all[3] besideNothing = .ok (.equalities []) := rfl
  have hquery : Query.ofCriteria Entity.all[3].name (.equalities []) =
      .ok { entity := "Customer" } := rfl
  obtain ⟨_, hiff⟩ := enforced_iff hprepare hquery rfl
  refine ⟨_, _, hprepare, hquery, rfl, rfl, rfl, fun hall => ?_⟩
  obtain ⟨w, hw, _⟩ := hiff.mp hall _ List.mem_cons_self
  exact absurd hw List.not_mem_nil

end Enforcement

end BooksGateway
