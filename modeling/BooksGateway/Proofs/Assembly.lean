import BooksGateway.Proofs.Validity

/-!
# The query of valid criteria

On valid criteria the way from entries to a query cannot fail, and what it gives can be said without
going through the entries one by one: the conditions are those of the filters, in order, and of the
directives of one sort the last one counts.

* `foldlM_take`: one entry after another is taken without failure, and adds up to `extended`;
* `ofCriteria_of_valid`: the query of valid criteria is `assembled`;
* `prepare_spec`, `extended_of_prepare`: what is known of criteria that were prepared, and of their
  query when it is one for rows.
-/

namespace BooksGateway.Query

open Validation

/-! ## 1. The last entry that has a say -/

section Latest

variable {α β : Type}

/-- What the last of some entries tells, of those that tell anything. -/
def latest (tells : α → Option β) (entries : List α) : Option β :=
  (entries.filterMap tells).getLast?

theorem latest_nil (tells : α → Option β) : latest tells [] = none := rfl

theorem latest_cons (tells : α → Option β) (entry : α) (rest : List α) :
    latest tells (entry :: rest) = (latest tells rest).or (tells entry) := by
  unfold latest
  cases htells : tells entry with
  | none => rw [List.filterMap_cons_none htells, Option.or_none]
  | some b => rw [List.filterMap_cons_some htells, List.getLast?_cons, Option.or_some]

theorem latest_append (tells : α → Option β) (entries more : List α) :
    latest tells (entries ++ more) = (latest tells more).or (latest tells entries) := by
  unfold latest
  rw [List.filterMap_append, List.getLast?_append]

theorem exists_of_latest {tells : α → Option β} {entries : List α} {b : β}
    (h : latest tells entries = some b) : ∃ entry ∈ entries, tells entry = some b :=
  List.mem_filterMap.mp (List.mem_of_getLast? h)

theorem latest_eq_none {tells : α → Option β} {entries : List α}
    (h : ∀ entry ∈ entries, tells entry = none) : latest tells entries = none := by
  unfold latest
  rw [List.filterMap_eq_nil_iff.mpr h]
  rfl

/-- **What is told last is told by the last entry that tells anything.** -/
theorem latest_eq_bind {tells : α → Option β} {p : α → Bool} {entries : List α}
    (h : ∀ a ∈ entries, (tells a).isSome = p a) :
    latest tells entries = ((entries.filter p).getLast?).bind tells := by
  induction entries with
  | nil => rfl
  | cons a rest ih =>
    have ha := h a List.mem_cons_self
    have hrest : ∀ b ∈ rest, (tells b).isSome = p b := fun b hb => h b (List.mem_cons_of_mem _ hb)
    rw [latest_cons, ih hrest]
    by_cases hp : p a = true
    · rw [List.filter_cons_of_pos hp, List.getLast?_cons]
      cases hlast : (rest.filter p).getLast? with
      | none => rfl
      | some b =>
        obtain ⟨hb, hpb⟩ := List.mem_filter.mp (List.mem_of_getLast? hlast)
        obtain ⟨c, hc⟩ := Option.isSome_iff_exists.mp ((hrest b hb).trans hpb)
        simp [hc]
    · rw [Bool.not_eq_true] at hp
      have hnone : tells a = none := by
        rw [← Option.not_isSome_iff_eq_none, ha, hp]
        exact Bool.false_ne_true
      rw [List.filter_cons_of_neg (Bool.eq_false_iff.mp hp), hnone, Option.or_none]

/-- Entries that tell nothing can be left out. -/
theorem latest_filter {tells : α → Option β} {p : α → Bool} (hp : ∀ a, p a = false → tells a = none)
    (entries : List α) : latest tells (entries.filter p) = latest tells entries := by
  unfold latest
  rw [List.filterMap_filter]
  congr 2
  funext a
  cases ha : p a with
  | true => rfl
  | false => exact (hp a ha).symm

end Latest

/-! ## 2. What entries say -/

/-- The sort order that an entry asks for. -/
def sortOf? (entry : Fields) : Option (Value × Direction) :=
  match directiveOf? entry with
  | some .ascending => some (Entry.value entry, .rising)
  | some .descending => some (Entry.value entry, .falling)
  | _ => none

/-- The whole number that an entry gives for a directive. -/
def boundOf? (d : Directive) (entry : Fields) : Option Int :=
  if directiveOf? entry = some d then
    match Entry.value entry with
    | .int n => some n
    | _ => none
  else none

/-- Whether an entry is a filter. -/
def isFilter (entry : Fields) : Bool := (directiveOf? entry).isNone

/-- The filters among entries. -/
def filters (entries : List Fields) : List Fields := entries.filter isFilter

/-- A query with entries taken into account, all at once. -/
def extended (q : Query) (entries : List Fields) : Query :=
  { q with
    conditions := q.conditions ++ (filters entries).map conditionOf
    order := (latest sortOf? entries).or q.order
    limit := (latest (boundOf? .limit) entries).or q.limit
    offset := (latest (boundOf? .offset) entries).or q.offset }

theorem extended_nil (q : Query) : q.extended [] = q := by
  simp [extended, filters, latest_nil]

theorem extended_cons (q : Query) (entry : Fields) (rest : List Fields) :
    (q.extended [entry]).extended rest = q.extended (entry :: rest) := by
  have hfilters : filters (entry :: rest) = filters [entry] ++ filters rest :=
    List.filter_append [entry] rest
  simp only [extended, latest_cons, latest_nil, Option.none_or, Option.or_assoc, hfilters,
    List.map_append, List.append_assoc]

/-! ## 3. One entry after another -/

/-- **Taking a well-formed entry into account cannot fail.** -/
theorem take_of_wellFormed {e : Entity} {entry : Fields} (h : WellFormed e (.obj entry))
    (q : Query) : q.take entry = .ok (q.extended [entry]) := by
  cases h with
  | @directive _ d hd hv =>
    have hfilters : filters [entry] = [] := by simp [filters, isFilter, hd]
    cases d with
    | limit =>
      obtain ⟨n, hn, _⟩ := hv.bound (Or.inl rfl)
      have htake : q.take entry = .ok { q with limit := some n } := by
        simp only [take, hd, hn]
        rfl
      simp [htake, hd, hn, extended, hfilters, latest_cons, latest_nil, sortOf?, boundOf?]
    | offset =>
      obtain ⟨n, hn, _⟩ := hv.bound (Or.inr rfl)
      have htake : q.take entry = .ok { q with offset := some n } := by
        simp only [take, hd, hn]
        rfl
      simp [htake, hd, hn, extended, hfilters, latest_cons, latest_nil, sortOf?, boundOf?]
    | _ => simp [take, hd, extended, hfilters, latest_cons, latest_nil, sortOf?, boundOf?]
  | filter hfits =>
    have hd := hfits.directiveOf?
    have hfilters : filters [entry] = [entry] := by simp [filters, isFilter, hd]
    simp [take, hd, extended, hfilters, latest_cons, latest_nil, sortOf?, boundOf?]

/-- **Well-formed entries are taken into account one after another without failure**, and what comes
    of it is what comes of taking them all at once. -/
theorem foldlM_take {e : Entity} {entries : List Fields}
    (h : ∀ entry ∈ entries, WellFormed e (.obj entry)) (q : Query) :
    entries.foldlM take q = .ok (q.extended entries) := by
  induction entries generalizing q with
  | nil => rw [extended_nil]; rfl
  | cons entry rest ih =>
    have hrest : ∀ other ∈ rest, WellFormed e (.obj other) :=
      fun other hmem => h other (List.mem_cons_of_mem _ hmem)
    rw [List.foldlM_cons, take_of_wellFormed (h entry List.mem_cons_self)]
    show rest.foldlM take (q.extended [entry]) = _
    rw [ih hrest, extended_cons]

/-! ## 4. The mappings among values -/

theorem mem_mappings {items : List Value} {entry : Fields} :
    entry ∈ mappings items ↔ .obj entry ∈ items := by
  induction items with
  | nil => simp [mappings]
  | cons v rest ih => cases v <;> simp [mappings, ih]

theorem mappings_append (items more : List Value) :
    mappings (items ++ more) = mappings items ++ mappings more := by
  induction items with
  | nil => rfl
  | cons v rest ih => cases v <;> simp [mappings, ih]

theorem wellFormed_of_mappings {e : Entity} {items : List Value}
    (h : ∀ v ∈ items, WellFormed e v) : ∀ entry ∈ mappings items, WellFormed e (.obj entry) :=
  fun _ hmem => h _ (mem_mappings.mp hmem)

/-! ## 5. The query of valid criteria -/

/-- The query that valid entries add up to. -/
def assembled (entity : String) (items : List Value) : Query :=
  if (mappings items).any asksForCount then { entity, countOnly := true }
  else extended { entity } (mappings items)

theorem ofEntries_of_valid {e : Entity} {items : List Value} (entity : String)
    (h : ∀ v ∈ items, WellFormed e v) : ofEntries entity items = .ok (assembled entity items) := by
  unfold ofEntries assembled
  by_cases hcount : (mappings items).any asksForCount = true
  · rw [if_pos hcount, if_pos hcount]
  · rw [if_neg hcount, if_neg hcount]
    exact foldlM_take (wellFormed_of_mappings h) _

end BooksGateway.Query

namespace BooksGateway.Criteria

/-- Fields that are given with the values they must equal have no reserved names. -/
def HasFreeKeys : Criteria → Prop
  | .entries _ => True
  | .equalities fields => ∀ field ∈ fields, Directive.isReserved field.1 = false

theorem hasFreeKeys_ofEntries (items : List Value) : (ofEntries items).HasFreeKeys := by
  cases items with
  | nil => exact fun _ h => absurd h List.not_mem_nil
  | cons => exact True.intro

theorem hasFreeKeys_normalize (raw : Value) : (normalize raw).HasFreeKeys := by
  unfold normalize
  cases raw with
  | list => exact True.intro
  | obj fields =>
    simp only [Shape.of, Shape.ofFields]
    split
    · exact hasFreeKeys_ofEntries _
    · split
      · exact fun _ h => absurd h List.not_mem_nil
      · split
        · exact hasFreeKeys_ofEntries _
        · split
          · exact hasFreeKeys_ofEntries _
          · rename_i hany
            intro field hfield
            simp only [List.any_eq_true, not_exists, not_and, Bool.not_eq_true] at hany
            exact hany field hfield
  | _ => exact fun _ h => absurd h List.not_mem_nil

theorem hasFreeKeys_coerce {criteria : Criteria} (h : criteria.HasFreeKeys) (e : Entity) :
    (criteria.coerce e).HasFreeKeys := by
  cases criteria with
  | entries => exact True.intro
  | equalities fields =>
    intro field hfield
    obtain ⟨other, hother, rfl⟩ := List.mem_map.mp hfield
    exact h other hother

end BooksGateway.Criteria

namespace BooksGateway.Query

open Validation

/-- The entry for an equality, as a mapping. -/
def equalityFields (field : String × Value) : Fields :=
  [("field", .str field.1), ("value", field.2), ("operator", .str Entry.defaultOperator)]

theorem mappings_equalities (fields : Fields) :
    mappings (fields.map fun (key, v) => Entry.equality key v) = fields.map equalityFields := by
  induction fields with
  | nil => rfl
  | cons field rest ih =>
    show equalityFields field :: mappings (rest.map _) = _
    rw [ih]
    rfl

theorem directiveOf?_equalityFields {field : String × Value}
    (h : Directive.isReserved field.1 = false) : directiveOf? (equalityFields field) = none := by
  simp only [Directive.isReserved, Bool.or_eq_false_iff, Option.isSome_eq_false_iff,
    Option.isNone_iff_eq_none] at h
  exact h.1

theorem assembled_equalities (entity : String) {fields : Fields}
    (h : (Criteria.equalities fields).HasFreeKeys) :
    assembled entity (Criteria.equalities fields).asEntries =
      { entity, conditions := fields.map fun (key, v) => ⟨.str key, .str "=", v⟩ } := by
  have hnone : ∀ entry ∈ fields.map equalityFields, directiveOf? entry = none := by
    intro entry hentry
    obtain ⟨field, hfield, rfl⟩ := List.mem_map.mp hentry
    exact directiveOf?_equalityFields (h field hfield)
  have hcount : (fields.map equalityFields).any asksForCount = false := by
    rw [List.any_eq_false]
    intro entry hentry
    simp [asksForCount, hnone entry hentry]
  have hfilters : filters (fields.map equalityFields) = fields.map equalityFields := by
    refine List.filter_eq_self.mpr fun entry hentry => ?_
    simp [isFilter, hnone entry hentry]
  have hsort : latest sortOf? (fields.map equalityFields) = none :=
    latest_eq_none fun entry hentry => by simp [sortOf?, hnone entry hentry]
  have hbound : ∀ d, latest (boundOf? d) (fields.map equalityFields) = none := fun d =>
    latest_eq_none fun entry hentry => by simp [boundOf?, hnone entry hentry]
  simp only [Criteria.asEntries, assembled, mappings_equalities, hcount, Bool.false_eq_true,
    if_false, extended, hfilters, hsort, hbound, List.map_map, List.nil_append, Option.or_none]
  rfl

/-- **The query of valid criteria is assembled from their entries**; making it cannot fail. -/
theorem ofCriteria_of_valid {e : Entity} {criteria : Criteria} (entity : String)
    (hfree : criteria.HasFreeKeys) (hvalid : Valid e criteria) :
    ofCriteria entity criteria = .ok (assembled entity criteria.asEntries) := by
  cases criteria with
  | entries items => exact ofEntries_of_valid entity hvalid
  | equalities fields => rw [assembled_equalities entity hfree]; rfl

/-- What is known of criteria that were prepared: they are valid, and their query is assembled. -/
theorem prepare_spec {e : Entity} {raw : Value} {criteria : Criteria}
    (h : prepare e raw = .ok criteria) :
    Valid e criteria ∧
      ofCriteria e.name criteria = .ok (assembled e.name criteria.asEntries) := by
  obtain ⟨rfl, hvalid⟩ := prepare_eq_ok.mp h
  have hfree := Criteria.hasFreeKeys_coerce (Criteria.hasFreeKeys_normalize raw) e
  exact ⟨hvalid, ofCriteria_of_valid e.name hfree hvalid⟩

/-- **A query for rows holds what all entries add up to.** -/
theorem extended_of_prepare {e : Entity} {raw : Value} {criteria : Criteria}
    (hprepare : prepare e raw = .ok criteria) {q : Query}
    (hquery : ofCriteria e.name criteria = .ok q) (hrows : q.countOnly = false) :
    (mappings criteria.asEntries).any asksForCount = false ∧
      q = extended { entity := e.name } (mappings criteria.asEntries) := by
  obtain ⟨_, hassembled⟩ := prepare_spec hprepare
  rw [hquery] at hassembled
  cases hassembled
  unfold assembled at hrows ⊢
  by_cases hcount : (mappings criteria.asEntries).any asksForCount = true
  · rw [if_pos hcount] at hrows
    cases hrows
  · rw [if_neg hcount]
    exact ⟨Bool.eq_false_iff.mpr hcount, rfl⟩

end BooksGateway.Query
