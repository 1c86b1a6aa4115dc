import BooksGateway.Proofs.Precision
import BooksGateway.Proofs.Soundness
import BooksGateway.Proofs.Stability

/-!
# Criteria with short numbers

When the whole numbers in raw criteria can be written, so can all that come of them. Bringing them
into normal form takes them apart, and turning a value makes a new number only of a text, which is
read up to a bound. Such criteria are accepted as soon as they are prepared.

* `Numeral.isShort_of_numberOfText`: what is read from a text can be written;
* `Criteria.hasShortWholes_normalize`, `Criteria.hasShortWholes_coerce`: what the steps preserve;
* `Query.accept_of_hasShortWholes`: accepting is preparing;
* `Query.text_of_hasShortWholes`: the query can be written, but for one single offset.
-/

namespace BooksGateway

open Validation

/-! ## 1. Numbers read from texts -/

namespace Numeral

open Binary64

/-- A whole number in its notation has few enough digits to be written. -/
theorem Whole.isShort {cs : List Char} {n : Int} (h : Whole cs n) : IsShort n := by
  cases h with
  | @mk sign cs negative ds hsign hdigits hshort =>
    have hlt := ofDigits_lt hdigits.lt_ten
    rw [IsShort, natAbs_signed]
    exact Nat.lt_of_lt_of_le hlt (pow_le_writeLimit hshort)

/-- A whole number of the floating-point format has few enough digits to be written. -/
theorem isShort_of_isFloat {n : Int} (h : IsFloat n) : IsShort n := by
  obtain ⟨units, _, hlimit, habs⟩ := h.exists_magnitude
  have hunits : units = n.natAbs * unitsPerOne := by
    rw [← magnitude_eq_natCast_iff, ← habs, Nat.cast_natAbs, Int.cast_abs]
  -- All floats are below a power of two, and so below the same power of ten.
  obtain ⟨i, hi, htop⟩ := unitsLimit_eq_mul
  have hbits : n.natAbs < 2 ^ i := by
    rw [htop, hunits] at hlimit
    exact Nat.lt_of_mul_lt_mul_right hlimit
  calc n.natAbs < 2 ^ i := hbits
    _ ≤ 10 ^ i := Nat.pow_le_pow_left (by decide) i
    _ ≤ writeLimit := pow_le_writeLimit (by rw [hi]; decide)

/-- **What is read from a text can be written.** -/
theorem isShort_of_numberOfText {s : String} {n : Int} (h : FieldKind.numberOfText s = .int n) :
    IsShort n := by
  rcases FieldKind.numberOfText_eq_int_iff.mp h with hwhole | ⟨_, w, negative, units, _, hresult, hn⟩
  · exact hwhole.isShort
  · have hnearest := isNearest_of_ofDecimal hresult
    rw [hn] at hnearest
    exact isShort_of_isFloat hnearest.float

end Numeral

open Value

/-! ## 2. Normal form -/

section Parts

variable {v : Value}

theorem Entry.hasShortWholes_bare (key : String) (h : v.HasShortWholes) :
    (bare key v).HasShortWholes := by
  simpa [bare, HasShortWholes, wholes, wholesOfFields] using h

theorem Entry.hasShortWholes_equality_iff {key : String} :
    (equality key v).HasShortWholes ↔ v.HasShortWholes := by
  simp [equality, HasShortWholes, wholes, wholesOfFields]

theorem Entry.hasShortWholes_operator {entry : Fields} (h : (obj entry).HasShortWholes) :
    (operator entry).HasShortWholes := by
  unfold operator orElse
  split
  · exact hasShortWholes_getD h _
  · exact hasShortWholes_str _

theorem Shape.hasShortWholes_filterList (h : v.HasShortWholes) :
    ∀ w ∈ filterList v, w.HasShortWholes := by
  cases v with
  | null => nofun
  | list items => exact hasShortWholes_list.mp h
  | _ => exact List.forall_mem_singleton.mpr (Entry.hasShortWholes_bare _ h)

theorem Criteria.hasShortWholes_fullEntry (h : v.HasShortWholes) :
    (fullEntry v).HasShortWholes := by
  cases v with
  | obj entry =>
    refine hasShortWholes_obj.mpr ?_
    simp only [List.forall_mem_cons]
    exact ⟨hasShortWholes_getD h _, hasShortWholes_getD h _, Entry.hasShortWholes_operator h, nofun⟩
  | _ => exact h

theorem Directive.hasShortWholes_entry? {d : Directive} (h : v.HasShortWholes) {w : Value}
    (hw : d.entry? v = some w) : w.HasShortWholes := by
  have hflag : (bool true).HasShortWholes := nofun
  unfold entry? at hw
  split at hw <;> split at hw
  all_goals cases hw
  all_goals exact Entry.hasShortWholes_bare _ ‹_›

theorem Criteria.hasShortWholes_mixedEntry (key : String) (h : v.HasShortWholes) :
    (mixedEntry key v).HasShortWholes := by
  have hflag : (bool true).HasShortWholes := nofun
  unfold mixedEntry
  split
  · split <;> exact Entry.hasShortWholes_bare _ ‹_›
  · exact Entry.hasShortWholes_equality_iff.mpr h

end Parts

namespace Criteria

/-- Every whole number in criteria can be written. -/
def HasShortWholes (criteria : Criteria) : Prop := ∀ v ∈ criteria.asEntries, v.HasShortWholes

theorem hasShortWholes_equalities {fields : Fields} (h : (obj fields).HasShortWholes) :
    (equalities fields).HasShortWholes := by
  intro v hv
  obtain ⟨field, hfield, rfl⟩ := List.mem_map.mp hv
  exact Entry.hasShortWholes_equality_iff.mpr (hasShortWholes_obj.mp h field hfield)

theorem hasShortWholes_advanced {filters : List Value} (hfilters : ∀ v ∈ filters, v.HasShortWholes)
    {fields : Fields} (h : (obj fields).HasShortWholes) :
    (ofShape (.advanced filters (Shape.options fields))).HasShortWholes := by
  intro v hv
  rw [ofShape, asEntries_ofEntries] at hv
  rcases List.mem_append.mp hv with hv | hv
  · obtain ⟨w, hw, rfl⟩ := List.mem_map.mp hv
    exact hasShortWholes_fullEntry (hfilters w hw)
  · obtain ⟨⟨d, w⟩, hoption, hentry⟩ := List.mem_filterMap.mp hv
    obtain ⟨_, _, hget⟩ := List.mem_filterMap.mp hoption
    obtain ⟨_, hvalue, hpair⟩ := Option.map_eq_some_iff.mp hget
    cases hpair
    exact Directive.hasShortWholes_entry? (hasShortWholes_get? h hvalue) hentry

/-- **Bringing criteria into normal form makes no new number.** -/
theorem hasShortWholes_normalize {raw : Value} (h : raw.HasShortWholes) :
    (normalize raw).HasShortWholes := by
  cases raw with
  | list items => exact hasShortWholes_list.mp h
  | obj fields =>
    show (ofShape (Shape.ofFields fields)).HasShortWholes
    -- one case for each shape: filters, nothing, options only, mixed keys, equalities
    unfold Shape.ofFields
    split
    · rename_i filters hfilters
      exact hasShortWholes_advanced
        (Shape.hasShortWholes_filterList (hasShortWholes_get? h hfilters)) h
    · split
      · nofun
      split
      · exact hasShortWholes_advanced (fun _ hv => absurd hv List.not_mem_nil) h
      split
      · intro v hv
        rw [ofShape, asEntries_ofEntries] at hv
        obtain ⟨field, hfield, rfl⟩ := List.mem_map.mp hv
        exact hasShortWholes_mixedEntry _ (hasShortWholes_obj.mp h field hfield)
      · exact hasShortWholes_equalities h
  | _ => nofun

end Criteria

/-! ## 3. Turning values -/

theorem FieldKind.hasShortWholes_numberOfText (s : String) :
    (numberOfText s).HasShortWholes := by
  have hcases := numberOfText_cases s
  cases hread : numberOfText s with
  | null | bool | float | str => nofun
  | int n => exact List.forall_mem_singleton.mpr (Numeral.isShort_of_numberOfText hread)
  | list | obj =>
    rw [hread] at hcases
    rcases hcases with hkind | hsame
    · cases hkind
    · cases hsame

section Turning

variable {v : Value}

/-- Turning a single value makes no number that is too long. -/
theorem FieldKind.hasShortWholes_coerceOne (kind : FieldKind) (h : v.HasShortWholes) :
    (kind.coerceOne v).HasShortWholes := by
  cases kind with
  | text | date =>
    cases v with
    | null | list | obj => exact h
    | bool | int | float | str => exact hasShortWholes_str _
  | number =>
    cases v with
    | bool b =>
      refine List.forall_mem_singleton.mpr (Numeral.lt_writeLimit ?_)
      cases b <;> decide
    | str s => exact hasShortWholes_numberOfText s
    | null | int | float | list | obj => exact h
  | flag => cases v <;> nofun

theorem FieldKind.hasShortWholes_coerce (kind : FieldKind) (h : v.HasShortWholes) :
    (kind.coerce v).HasShortWholes := by
  cases v with
  | list items =>
    refine hasShortWholes_list.mpr fun w hw => ?_
    obtain ⟨item, hitem, rfl⟩ := List.mem_map.mp hw
    exact kind.hasShortWholes_coerceOne (hasShortWholes_list.mp h item hitem)
  | _ => exact kind.hasShortWholes_coerceOne h

theorem hasShortWholes_coerceFor (spec : Option FieldSpec) (h : v.HasShortWholes) :
    (coerceFor spec v).HasShortWholes := by
  cases spec with
  | some spec => exact spec.kind.hasShortWholes_coerce h
  | none => exact h

theorem FieldTable.hasShortWholes_coerceEntry (table : FieldTable) (h : v.HasShortWholes) :
    (table.coerceEntry v).HasShortWholes := by
  cases v with
  | obj entry =>
    by_cases hdirective : Entry.isDirective entry = true
    · rw [coerceEntry, if_pos hdirective]
      exact h
    · rw [coerceEntry, if_neg hdirective]
      exact hasShortWholes_put h _ (hasShortWholes_coerceFor _ (hasShortWholes_getD h _))
  | _ => exact h

/-- **Turning the values of criteria makes no number that is too long.** -/
theorem Criteria.hasShortWholes_coerce {criteria : Criteria} (hfree : criteria.HasFreeKeys)
    (h : criteria.HasShortWholes) (e : Entity) : (criteria.coerce e).HasShortWholes := by
  intro v hv
  rw [asEntries_coerce hfree] at hv
  obtain ⟨entry, hentry, rfl⟩ := List.mem_map.mp hv
  exact e.fields.hasShortWholes_coerceEntry (h entry hentry)

/-! ## 4. What is written on the way -/

/-- Turning a value writes numbers that are in it. -/
theorem FieldKind.isShort_of_mem_written {kind : FieldKind} (h : v.HasShortWholes) {n : Int}
    (hn : n ∈ kind.written v) : Numeral.IsShort n := by
  have hone : ∀ w : Value, w.HasShortWholes → n ∈ kind.writtenOne w → Numeral.IsShort n := by
    intro w hw hmem
    unfold writtenOne at hmem
    split at hmem
    · exact hw n hmem
    · exact hw n hmem
    · cases hmem
  cases v with
  | list items =>
    obtain ⟨item, hitem, hmem⟩ := List.mem_flatMap.mp hn
    exact hone item (hasShortWholes_list.mp h item hitem) hmem
  | _ => exact hone _ h hn

theorem isShort_of_mem_writtenFor {spec : Option FieldSpec} (h : v.HasShortWholes) {n : Int}
    (hn : n ∈ writtenFor spec v) : Numeral.IsShort n := by
  cases spec with
  | some spec => exact FieldKind.isShort_of_mem_written h hn
  | none => cases hn

theorem FieldTable.isShort_of_mem_writtenIn {table : FieldTable} (h : v.HasShortWholes) {n : Int}
    (hn : n ∈ table.writtenIn v) : Numeral.IsShort n := by
  unfold writtenIn at hn
  split at hn
  · split at hn
    · cases hn
    · exact isShort_of_mem_writtenFor (hasShortWholes_getD h _) hn
  · cases hn

theorem Criteria.isShort_of_mem_written {criteria : Criteria} (h : criteria.HasShortWholes)
    {e : Entity} {n : Int} (hn : n ∈ criteria.written e) : Numeral.IsShort n := by
  cases criteria with
  | entries items =>
    obtain ⟨v, hv, hmem⟩ := List.mem_flatMap.mp hn
    exact FieldTable.isShort_of_mem_writtenIn (h v hv) hmem
  | equalities fields =>
    obtain ⟨⟨key, v⟩, hfield, hmem⟩ := List.mem_flatMap.mp hn
    exact isShort_of_mem_writtenFor
      (Entry.hasShortWholes_equality_iff.mp (h _ (List.mem_map_of_mem hfield))) hmem

/-- A message names the operator of an entry. -/
theorem Validation.isShort_of_mem_writtenIn {e : Entity} (h : v.HasShortWholes) {n : Int}
    (hn : n ∈ Validation.writtenIn e v) : Numeral.IsShort n := by
  unfold Validation.writtenIn at hn
  split at hn
  · split at hn
    · split at hn
      · cases hn
      · split at hn
        · split at hn
          · exact Entry.hasShortWholes_operator h n hn
          · cases hn
        · cases hn
    · cases hn
  · cases hn

end Turning

/-! ## 5. Queries -/

namespace Query

variable {e : Entity} {raw : Value} {criteria : Criteria} {q : Query}

/-- **Criteria with short numbers are accepted as soon as they are prepared.** -/
theorem accept_of_hasShortWholes (h : raw.HasShortWholes) : accept e raw = prepare e raw := by
  have hnormal := Criteria.hasShortWholes_normalize h
  have hfree := Criteria.hasFreeKeys_normalize raw
  refine accept_of_short fun n hn => ?_
  rcases List.mem_append.mp hn with hn | hn
  · exact Criteria.isShort_of_mem_written hnormal hn
  · obtain ⟨v, hv, hmem⟩ := List.mem_flatMap.mp hn
    exact isShort_of_mem_writtenIn (Criteria.hasShortWholes_coerce hfree hnormal e v hv) hmem

theorem hasShortWholes_conditionOf {entry : Fields} (h : (obj entry).HasShortWholes) :
    (conditionOf entry).HasShortWholes := by
  intro n hn
  simp only [Condition.wholes, conditionOf, List.mem_append] at hn
  rcases hn with (hn | hn) | hn
  · exact hasShortWholes_getD h _ n hn
  · exact Entry.hasShortWholes_operator h n hn
  · exact hasShortWholes_getD h _ n hn

/-- The bound that an entry sets is a number in it. -/
theorem isShort_of_boundOf? {d : Directive} {entry : Fields} (h : (obj entry).HasShortWholes)
    {n : Int} (hn : boundOf? d entry = some n) : Numeral.IsShort n := by
  have hvalue := hasShortWholes_getD h "value"
  unfold boundOf? at hn
  split at hn
  · split at hn
    · rename_i hint
      cases hn
      rw [show entry.getD "value" = int n from hint] at hvalue
      exact hvalue n List.mem_cons_self
    · cases hn
  · cases hn

/-- **Queries from criteria with short numbers can be written, but for one single offset.** When raw
    criteria with short numbers are prepared and make a query for rows, they are accepted, and the
    numbers in its conditions are short. Only when the offset is the greatest number that can be
    written, the position after it cannot. -/
theorem text_of_hasShortWholes (h : raw.HasShortWholes) (hprepare : prepare e raw = .ok criteria)
    (hquery : ofCriteria e.name criteria = .ok q) (hrows : q.countOnly = false) :
    accept e raw = .ok criteria ∧ (∀ c ∈ q.conditions, c.HasShortWholes) ∧
      (q.text = .ok q.render ∨
        q.text = .error .unwritableWhole ∧ q.offset = some ((Numeral.writeLimit : Int) - 1)) := by
  obtain ⟨hvalid, _⟩ := prepare_spec hprepare
  obtain ⟨_, rfl⟩ := extended_of_prepare hprepare hquery hrows
  have hentries : ∀ entry ∈ mappings criteria.asEntries, (obj entry).HasShortWholes := by
    obtain ⟨rfl, _⟩ := prepare_eq_ok.mp hprepare
    have hshort := Criteria.hasShortWholes_coerce (Criteria.hasFreeKeys_normalize raw)
      (Criteria.hasShortWholes_normalize h) e
    exact fun entry hentry => hshort _ (mem_mappings.mp hentry)
  have hconditions : ∀ c ∈ (extended { entity := e.name }
      (mappings criteria.asEntries)).conditions, c.HasShortWholes := by
    intro c hc
    obtain ⟨entry, hentry, rfl⟩ := List.mem_map.mp hc
    exact hasShortWholes_conditionOf (hentries entry (List.mem_filter.mp hentry).1)
  refine ⟨(accept_of_hasShortWholes h).trans hprepare, hconditions, ?_⟩
  have hsound := isSound_extended (wellFormed_of_mappings hvalid)
  refine (text_of_isSound hsound).imp_right fun ⟨htext, hlong⟩ => ⟨htext, ?_⟩
  rcases hlong with ⟨n, hn, hlimit⟩ | ⟨c, hc, hlong⟩
  · have hoffset := hn
    simp only [extended, Option.or_none] at hoffset
    obtain ⟨entry, hentry, hbound⟩ := exists_of_latest hoffset
    have hshort := isShort_of_boundOf? (hentries entry hentry) hbound
    have hnonneg := hsound.offset n hn
    rw [hn]
    unfold Numeral.IsShort at hshort
    exact congrArg some (by omega)
  · exact absurd (hconditions c hc) hlong

end Query

end BooksGateway
