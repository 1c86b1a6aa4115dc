import BooksGateway.Proofs.Validity

/-!
# Validation is exact

For an entity of the registry the checks turn down the entries that are not in order, and no others.
Every one of these gets a message of its own, which hangs on nothing but the entry.

* `InOrder`: an entry in order, said of its parts;
* `wellFormed_iff_inOrder`: the rules of validation say the same;
* `check_of_illFormed`, `reasons_append`: one entry out of order is enough, and each adds its own
  reason;
* `check_exact`: validation of criteria for an entity that is found by its name.
-/

namespace BooksGateway.Validation

/-! ## 1. Entries in order -/

/-- **An entry in order.** It is a directive with a value that the directive can have, or a filter
    on a field that rows can be chosen by, with one of the operators and a value that fits. -/
inductive InOrder (e : Entity) : Value → Prop where
  /-- A directive: its key stands in the place of a field. -/
  | directive {entry : Fields} {d : Directive} (hfield : Entry.field entry = .str d.key)
      (hvalue : DirectiveFits e d (Entry.value entry)) : InOrder e (.obj entry)
  /-- A filter. -/
  | filter {entry : Fields} {name : String} {spec : FieldSpec} {operator : String}
      (hfield : Entry.field entry = .str name) (hknown : e.fields.find? name = some spec)
      (hopen : spec.filterable = true) (hoperator : Entry.operator entry = .str operator)
      (hmem : operator ∈ operators) (hvalue : Fits spec.kind operator (Entry.value entry)) :
      InOrder e (.obj entry)

/-- In the registry no field has a reserved name, so a filter in order is never taken for a
    directive. -/
theorem wellFormed_iff_inOrder {e : Entity} (he : e ∈ Entity.all) {v : Value} :
    WellFormed e v ↔ InOrder e v := by
  constructor
  · intro h
    cases h with
    | directive hd hv => exact .directive (directiveOf?_eq_some.mp hd) hv
    | filter h =>
      exact .filter h.field h.known h.filterable h.operator_eq h.operator_mem h.value
  · intro h
    cases h with
    | directive hfield hvalue => exact .directive (directiveOf?_eq_some.mpr hfield) hvalue
    | filter hfield hknown hopen hoperator hmem hvalue =>
      exact .filter
        ⟨hfield, Entity.reserved_of_find? he hknown, hknown, hopen, hoperator, hmem, hvalue⟩

/-! ## 2. Reasons -/

/-- The reasons for which criteria were turned down; none when they were not. -/
def reasonsIn : Except Failure Unit → List String
  | .error (.rejected reasons) => reasons
  | _ => []

theorem reasonsIn_check (e : Entity) (criteria : Criteria) :
    reasonsIn (check e criteria) = reasons e criteria := by
  unfold check
  cases reasons e criteria with
  | nil => rfl
  | cons => rfl

/-- One entry out of order is enough, and its message is among the reasons. -/
theorem check_of_illFormed {e : Entity} {criteria : Criteria} {v : Value}
    (hv : v ∈ criteria.asEntries) (h : ¬ WellFormed e v) :
    check e criteria = .error (.rejected (reasons e criteria)) := by
  rcases check_cases e criteria with hok | herror
  · exact absurd (check_eq_ok.mp hok v hv) h
  · exact herror

theorem reasons_append (e : Entity) (items more : List Value) :
    reasons e (.entries (items ++ more)) =
      reasons e (.entries items) ++ reasons e (.entries more) :=
  List.filterMap_append

/-! ## 3. Validation -/

theorem mem_all_of_get {name : String} {e : Entity} (h : Entity.get (.str name) = .ok e) :
    e ∈ Entity.all := by
  rcases Entity.get_text_cases name with ⟨reasons, hget⟩ | ⟨found, hfound, hget⟩
  · rw [hget] at h
    cases h
  · rw [hget] at h
    cases h
    exact hfound

/-- **Validation is exact, complete, and goes entry by entry.** For an entity there is a report on
    every value by itself, which finds nothing exactly in the entries that are in order. Criteria
    pass iff all their entries are in order; otherwise they are turned down for what the report says
    of their entries, in order. So two lists together are turned down for what is wrong with the
    one, followed by what is wrong with the other. -/
theorem check_exact {name : String} {e : Entity} (hget : Entity.get (.str name) = .ok e) :
    ∃ report : Value → Option String,
      (∀ v, report v = none ↔ InOrder e v) ∧
      (∀ criteria : Criteria,
        (check e criteria = .ok () ↔ ∀ v ∈ criteria.asEntries, InOrder e v) ∧
        ((∃ v ∈ criteria.asEntries, ¬ InOrder e v) →
          check e criteria = .error (.rejected (criteria.asEntries.filterMap report)))) ∧
      ∀ items more : List Value,
        reasonsIn (check e (.entries (items ++ more))) =
          reasonsIn (check e (.entries items)) ++ reasonsIn (check e (.entries more)) := by
  have he := mem_all_of_get hget
  refine ⟨checkEntry e, fun v => ?_, fun criteria => ⟨?_, ?_⟩, fun items more => ?_⟩
  · rw [checkEntry_eq_none, wellFormed_iff_inOrder he]
  · rw [check_eq_ok]
    exact forall₂_congr fun v _ => wellFormed_iff_inOrder he
  · rintro ⟨v, hv, hbad⟩
    exact check_of_illFormed hv fun h => hbad ((wellFormed_iff_inOrder he).mp h)
  · rw [reasonsIn_check, reasonsIn_check, reasonsIn_check, reasons_append]

/-- Entries of which the first and the last are out of order. -/
def mixedEntries : List Value :=
  [.int 3, Entry.bare "limit" (.int 5), Entry.bare "limit" (.bool true)]

theorem check_exact_mixed :
    Entity.get (.str "customer") = .ok Entity.all[3] ∧
    check Entity.all[3] (.entries mixedEntries) ≠ .ok () ∧
    reasonsIn (check Entity.all[3] (.entries (mixedEntries ++ [.null]))) =
      ["Criteria entries must be objects, got int", "limit must be a non-negative integer",
        "Criteria entries must be objects, got NoneType"] := by
  have hget : Entity.get (.str "customer") = .ok Entity.all[3] := rfl
  obtain ⟨report, hreport, hcheck, happend⟩ := check_exact hget
  refine ⟨hget, fun hok => ?_, ?_⟩
  · have horder : InOrder Entity.all[3] (.int 3) :=
      (hcheck (.entries mixedEntries)).1.mp hok _ List.mem_cons_self
    cases horder
  · rw [happend]
    rfl

end BooksGateway.Validation
