import BooksGateway.Proofs.Paging
import Mathlib.Data.List.Basic

/-!
# The last directive counts

A list of valid entries may hold a directive several times and in any place. The query hangs on the
filters, in their order, and on the last entry for each directive; only counting is asked for by any
one entry. So does everything that a search does.

* `Agree`: lists that differ only in directives that do not count;
* `IsMadeOf`: what the query for rows of a list is made of;
* `Rearranged.agree`: a directive can stand anywhere among the filters, and one that is overridden
  has no effect;
* `Search.run_congr`: searches with lists that agree do the same;
* `last_directive_counts`: the query, the window and the search of lists that agree.
-/

namespace BooksGateway

open Validation

/-! ## 1. Places of directives -/

namespace Directive

/-- The directive in whose place a directive stands. There is one sort order, so both directions
    stand in the same place. -/
def place : Directive → Directive
  | .descending => .ascending
  | d => d

end Directive

/-- The directive that asks for a direction. -/
def Direction.directive : Direction → Directive
  | .rising => .ascending
  | .falling => .descending

namespace Query

/-- Whether an entry stands in the place of a directive. -/
def standsAt (place : Directive) (entry : Fields) : Bool :=
  (directiveOf? entry).map Directive.place == some place

/-- The last entry in the place of a directive. -/
def lastAt (place : Directive) (items : List Value) : Option Fields :=
  ((mappings items).filter (standsAt place)).getLast?

/-- What an entry tells as a directive: which one it is, and its value. -/
def told (entry : Fields) : Option Directive × Value := (directiveOf? entry, Entry.value entry)

/-- Whether some entry asks for the number of rows only. -/
def Counts (items : List Value) : Prop := ∃ entry ∈ mappings items, asksForCount entry = true

/-- **Lists that agree.** They hold the same filters in the same order, the last entries in every
    place tell the same, and either both ask for the number of rows only or neither does. -/
structure Agree (items others : List Value) : Prop where
  /-- The filters are the same, in order. -/
  filters : filters (mappings items) = filters (mappings others)
  /-- The last entries tell the same. -/
  last : ∀ place, place ≠ .count →
    (lastAt place items).map told = (lastAt place others).map told
  /-- Both ask for the number of rows only, or neither does. -/
  counts : Counts items ↔ Counts others

/-- The query for rows that a list makes: its conditions are the filters, in order, and the sort
    order and the window are those that the last entries tell. -/
structure IsMadeOf (entity : String) (items : List Value) (q : Query) : Prop where
  /-- The entity is the one that is asked for. -/
  entity : q.entity = entity
  /-- Rows are asked for, not their number. -/
  rows : q.countOnly = false
  /-- No filter is lost, and none is added. -/
  conditions : q.conditions = (Query.filters (mappings items)).map conditionOf
  /-- The sort order is the one of the last entry for either direction. -/
  order : (q.order.map fun (field, direction) => (some direction.directive, field)) =
    (lastAt .ascending items).map told
  /-- The greatest number of rows is that of the last entry for it. -/
  limit : q.limit.map Value.int = (lastAt .limit items).map Entry.value
  /-- The number of rows to leave out is that of the last entry for it. -/
  offset : q.offset.map Value.int = (lastAt .offset items).map Entry.value

/-! ## 2. What is told last -/

/-- Every directive but the ones for sorting has a place of its own. -/
theorem standsAt_eq {d : Directive} (hrising : d ≠ .ascending) (hfalling : d ≠ .descending)
    (entry : Fields) : standsAt d entry = (directiveOf? entry == some d) := by
  unfold standsAt
  cases directiveOf? entry with
  | none => rfl
  | some other =>
    cases other with
    | descending =>
      have hplace : (some Directive.ascending == some d) = false :=
        beq_eq_false_iff_ne.mpr fun h => hrising (Option.some.inj h).symm
      have hother : (some Directive.descending == some d) = false :=
        beq_eq_false_iff_ne.mpr fun h => hfalling (Option.some.inj h).symm
      rw [hother]
      exact hplace
    | _ => rfl

theorem isSome_sortOf? (entry : Fields) : (sortOf? entry).isSome = standsAt .ascending entry := by
  unfold sortOf? standsAt
  cases directiveOf? entry with
  | none => rfl
  | some d => cases d <;> rfl

/-- The sort order that an entry asks for, from what it tells. -/
theorem sortOf?_eq_some {entry : Fields} {field : Value} {direction : Direction}
    (h : sortOf? entry = some (field, direction)) :
    told entry = (some direction.directive, field) := by
  unfold sortOf? at h
  unfold told
  split at h
  · rename_i hd
    cases h
    rw [hd]
    rfl
  · rename_i hd
    cases h
    rw [hd]
    rfl
  · cases h

section Accepted

variable {e : Entity} {items others : List Value}

/-- The last entry in a place of its own is the last one for the directive. -/
theorem lastAt_eq {d : Directive} (hrising : d ≠ .ascending) (hfalling : d ≠ .descending)
    (items : List Value) :
    lastAt d items =
      ((mappings items).filter fun entry => directiveOf? entry == some d).getLast? := by
  unfold lastAt
  rw [funext (standsAt_eq hrising hfalling)]

theorem ne_sort_of_bound {d : Directive} (hd : d = .limit ∨ d = .offset) :
    d ≠ .ascending ∧ d ≠ .descending := by
  rcases hd with rfl | rfl <;> decide

theorem map_int_latest_mappings (h : ∀ v ∈ items, WellFormed e v) {d : Directive}
    (hd : d = .limit ∨ d = .offset) :
    (latest (boundOf? d) (mappings items)).map Value.int = (lastAt d items).map Entry.value := by
  obtain ⟨hrising, hfalling⟩ := ne_sort_of_bound hd
  rw [lastAt_eq hrising hfalling]
  exact Search.map_int_latest (wellFormed_of_mappings h) hd

theorem map_told_latest (items : List Value) :
    ((latest sortOf? (mappings items)).map fun (field, direction) =>
      (some direction.directive, field)) = (lastAt .ascending items).map told := by
  rw [latest_eq_bind fun entry _ => isSome_sortOf? entry]
  show ((lastAt .ascending items).bind sortOf?).map _ = _
  cases hlast : lastAt .ascending items with
  | none => rfl
  | some entry =>
    have hstands := (List.mem_filter.mp (List.mem_of_getLast? hlast)).2
    rw [← isSome_sortOf?] at hstands
    obtain ⟨⟨field, direction⟩, hsort⟩ := Option.isSome_iff_exists.mp hstands
    rw [Option.bind_some, hsort, Option.map_some, Option.map_some, sortOf?_eq_some hsort]

/-! ## 3. Queries of lists that agree -/

theorem counts_iff : Counts items ↔ (mappings items).any asksForCount = true :=
  List.any_eq_true.symm

theorem assembled_of_counts (h : Counts items) (entity : String) :
    assembled entity items = { entity, countOnly := true } :=
  if_pos (counts_iff.mp h)

theorem assembled_of_rows (h : ¬ Counts items) (entity : String) :
    assembled entity items = extended { entity } (mappings items) :=
  if_neg fun hcount => h (counts_iff.mpr hcount)

theorem isMadeOf_extended (h : ∀ v ∈ items, WellFormed e v) (entity : String) :
    IsMadeOf entity items (extended { entity } (mappings items)) where
  entity := rfl
  rows := rfl
  conditions := List.nil_append _
  order := by
    rw [← map_told_latest]
    exact congrArg _ Option.or_none
  limit := by
    rw [← map_int_latest_mappings h (.inl rfl)]
    exact congrArg _ Option.or_none
  offset := by
    rw [← map_int_latest_mappings h (.inr rfl)]
    exact congrArg _ Option.or_none

/-- What an entry for sorting tells says its direction. -/
theorem map_sort_injective {a b : Option (Value × Direction)}
    (h : (a.map fun (field, direction) => (some direction.directive, field)) =
      b.map fun (field, direction) => (some direction.directive, field)) : a = b := by
  refine Option.map_injective ?_ h
  rintro ⟨field, direction⟩ ⟨field', direction'⟩ hsame
  cases direction <;> cases direction' <;> simp_all [Direction.directive]

theorem Agree.map_value (h : Agree items others) (place : Directive) (hplace : place ≠ .count) :
    (lastAt place items).map Entry.value = (lastAt place others).map Entry.value := by
  have hlast := congrArg (Option.map Prod.snd) (h.last place hplace)
  rw [Option.map_map, Option.map_map] at hlast
  exact hlast

/-- What a query for rows is made of says all about it. -/
theorem IsMadeOf.unique {entity : String} {q q' : Query} (h : Agree items others)
    (hq : IsMadeOf entity items q) (hq' : IsMadeOf entity others q') : q = q' := by
  have hconditions : q.conditions = q'.conditions := by
    rw [hq.conditions, hq'.conditions, h.filters]
  have horder : q.order = q'.order := by
    refine map_sort_injective ?_
    rw [hq.order, hq'.order, h.last .ascending (by decide)]
  have hlimit : q.limit = q'.limit := by
    refine Option.map_injective (fun _ _ => Value.int.inj) ?_
    rw [hq.limit, hq'.limit, h.map_value .limit (by decide)]
  have hoffset : q.offset = q'.offset := by
    refine Option.map_injective (fun _ _ => Value.int.inj) ?_
    rw [hq.offset, hq'.offset, h.map_value .offset (by decide)]
  have hentity : q.entity = q'.entity := hq.entity.trans hq'.entity.symm
  have hrows : q.countOnly = q'.countOnly := hq.rows.trans hq'.rows.symm
  cases q
  cases q'
  simp_all

/-- A valid list is accepted without any change. -/
theorem accept_list (h : ∀ v ∈ items, WellFormed e v) :
    accept e (.list items) = .ok (.entries items) := by
  have hsame : (Criteria.entries items).coerce e = .entries items :=
    congrArg Criteria.entries (FieldTable.map_coerceEntry_of_wellFormed h)
  have hnone : written e (.list items) = [] := by
    show (Criteria.entries items).written e ++
      Validation.written e ((Criteria.entries items).coerce e) = []
    rw [hsame, Criteria.written_entries_of_wellFormed h, List.nil_append]
    exact List.flatMap_eq_nil_iff.mpr fun v hv => writtenIn_of_wellFormed (h v hv)
  refine accept_eq_ok_iff.mpr ⟨?_, prepare_eq_ok.mpr ⟨hsame.symm, h⟩⟩
  rw [hnone]
  nofun

/-- **Valid lists that agree make the same query.** -/
theorem assembled_congr (h : Agree items others) (hitems : ∀ v ∈ items, WellFormed e v)
    (hothers : ∀ v ∈ others, WellFormed e v) (entity : String) :
    assembled entity items = assembled entity others := by
  by_cases hcounts : Counts items
  · rw [assembled_of_counts hcounts, assembled_of_counts (h.counts.mp hcounts)]
  · have hothersCounts : ¬ Counts others := fun hc => hcounts (h.counts.mpr hc)
    rw [assembled_of_rows hcounts, assembled_of_rows hothersCounts]
    exact IsMadeOf.unique h (isMadeOf_extended hitems entity) (isMadeOf_extended hothers entity)

end Accepted

/-! ## 4. Where directives can stand -/

/-- **Rearranging directives.** A directive moves past filters, and past directives in other places;
    and a directive that a later one overrides comes or goes. -/
inductive Rearranged : List Value → List Value → Prop
  /-- Nothing is done. -/
  | refl (items : List Value) : Rearranged items items
  /-- A directive moves past what does not stand in its place. -/
  | move (before middle after : List Value) {entry : Fields} {d : Directive}
      (hentry : directiveOf? entry = some d)
      (hmiddle : ∀ other ∈ mappings middle, standsAt d.place other = false) :
      Rearranged (before ++ .obj entry :: (middle ++ after))
        (before ++ (middle ++ .obj entry :: after))
  /-- A directive goes that a later one overrides; counting is never overridden. -/
  | override (before middle after : List Value) {entry later : Fields} {d : Directive}
      (hentry : directiveOf? entry = some d) (hd : d ≠ .count)
      (hlater : standsAt d.place later = true) :
      Rearranged (before ++ .obj entry :: (middle ++ .obj later :: after))
        (before ++ (middle ++ .obj later :: after))
  /-- All this can be undone. -/
  | symm {items others : List Value} : Rearranged items others → Rearranged others items
  /-- One thing is done after another. -/
  | trans {items others rest : List Value} :
      Rearranged items others → Rearranged others rest → Rearranged items rest

section Places

variable {entry : Fields} {d : Directive}

theorem Agree.refl (items : List Value) : Agree items items := ⟨rfl, fun _ _ => rfl, Iff.rfl⟩

theorem Agree.symm {items others : List Value} (h : Agree items others) : Agree others items :=
  ⟨h.filters.symm, fun place hplace => (h.last place hplace).symm, h.counts.symm⟩

theorem Agree.trans {items others rest : List Value} (h : Agree items others)
    (hrest : Agree others rest) : Agree items rest :=
  ⟨h.filters.trans hrest.filters,
    fun place hplace => (h.last place hplace).trans (hrest.last place hplace),
    h.counts.trans hrest.counts⟩

theorem isFilter_of_directive (hentry : directiveOf? entry = some d) : isFilter entry = false := by
  rw [isFilter, hentry]
  rfl

/-- A directive stands in its own place only. -/
theorem standsAt_iff (hentry : directiveOf? entry = some d) (place : Directive) :
    standsAt place entry = true ↔ d.place = place := by
  rw [standsAt, hentry, beq_iff_eq, Option.map_some, Option.some.injEq]

/-- **A directive can move** past everything that does not stand in its place. -/
theorem agree_move (before middle after : List Value) (hentry : directiveOf? entry = some d)
    (hmiddle : ∀ other ∈ mappings middle, standsAt d.place other = false) :
    Agree (before ++ .obj entry :: (middle ++ after))
      (before ++ (middle ++ .obj entry :: after)) where
  filters := by
    simp [filters, mappings_append, mappings, isFilter_of_directive hentry]
  last place _ := by
    have hmoved : ((mappings (.obj entry :: (middle ++ after))).filter (standsAt place)) =
        ((mappings (middle ++ .obj entry :: after)).filter (standsAt place)) := by
      by_cases hstands : standsAt place entry = true
      · have hnone : (mappings middle).filter (standsAt place) = [] := by
          rw [← (standsAt_iff hentry place).mp hstands, List.filter_eq_nil_iff]
          exact fun other hother => Bool.eq_false_iff.mp (hmiddle other hother)
        rw [mappings, mappings_append, mappings_append, mappings, List.filter_cons_of_pos hstands,
          List.filter_append, List.filter_append, List.filter_cons_of_pos hstands, hnone]
        rfl
      · simp [mappings, mappings_append, hstands]
    rw [lastAt, lastAt, mappings_append, mappings_append, List.filter_append, List.filter_append,
      hmoved]
  counts := by
    simp only [counts_iff, mappings_append, mappings, List.any_append, List.any_cons,
      Bool.or_eq_true]
    exact or_congr_right or_left_comm

/-- **An earlier directive has no effect** when a later one stands in its place. -/
theorem agree_override (before middle after : List Value) {later : Fields}
    (hentry : directiveOf? entry = some d) (hd : d ≠ .count)
    (hlater : standsAt d.place later = true) :
    Agree (before ++ .obj entry :: (middle ++ .obj later :: after))
      (before ++ (middle ++ .obj later :: after)) where
  filters := by
    simp [filters, mappings_append, mappings, isFilter_of_directive hentry]
  last place _ := by
    congr 1
    rw [lastAt, lastAt, mappings_append, mappings_append, mappings, List.filter_append,
      List.filter_append]
    by_cases hstands : standsAt place entry = true
    · have hmem : later ∈ mappings (middle ++ .obj later :: after) :=
        mem_mappings.mpr (List.mem_append_right _ List.mem_cons_self)
      have hsame : standsAt place later = true := by
        rw [← (standsAt_iff hentry place).mp hstands]
        exact hlater
      have hrest : (mappings (middle ++ .obj later :: after)).filter (standsAt place) ≠ [] :=
        List.ne_nil_of_mem (List.mem_filter.mpr ⟨hmem, hsame⟩)
      rw [List.filter_cons_of_pos hstands, List.append_cons,
        List.getLast?_append_of_ne_nil _ hrest, List.getLast?_append_of_ne_nil _ hrest]
    · rw [List.filter_cons_of_neg hstands]
  counts := by
    have hcount : asksForCount entry = false := by
      rw [asksForCount, hentry, Bool.and_eq_false_iff]
      exact .inl (beq_eq_false_iff_ne.mpr fun h => hd (Option.some.inj h))
    simp [counts_iff, mappings_append, mappings, hcount]

/-- **Rearranged lists agree.** -/
theorem Rearranged.agree {items others : List Value} (h : Rearranged items others) :
    Agree items others := by
  induction h with
  | refl items => exact .refl items
  | move before middle after hentry hmiddle => exact agree_move before middle after hentry hmiddle
  | override before middle after hentry hd hlater =>
    exact agree_override before middle after hentry hd hlater
  | symm _ ih => exact ih.symm
  | trans _ _ ih ih' => exact ih.trans ih'

end Places

end Query

/-! ## 5. Searches with lists that agree -/

namespace Search

open Query (Agree Counts lastAt assembled_of_rows assembled_congr)

variable {σ : Type} {e : Entity} {items others : List Value}

theorem lastOf_eq_lastAt {d : Directive} (hrising : d ≠ .ascending) (hfalling : d ≠ .descending)
    (items : List Value) :
    lastOf d items = ((lastAt d items).map Entry.value).getD .null := by
  rw [Query.lastAt_eq hrising hfalling]
  unfold lastOf
  dsimp only
  cases ((Query.mappings items).filter fun entry =>
    Query.directiveOf? entry == some d).getLast? <;> rfl

theorem lastOf_congr (h : Agree items others) {d : Directive} (hrising : d ≠ .ascending)
    (hfalling : d ≠ .descending) (hcount : d ≠ .count) : lastOf d items = lastOf d others := by
  rw [lastOf_eq_lastAt hrising hfalling, lastOf_eq_lastAt hrising hfalling,
    h.map_value d hcount]

theorem pageSize_congr (h : Agree items others) : pageSize items = pageSize others := by
  unfold pageSize
  rw [lastOf_congr h (by decide) (by decide) (by decide)]

theorem startOffset_congr (h : Agree items others) : startOffset items = startOffset others := by
  unfold startOffset
  rw [lastOf_congr h (by decide) (by decide) (by decide)]

/-- The pages of lists that agree are asked for by the same texts. -/
theorem compile_congr (h : Agree items others) (hitems : ∀ v ∈ items, WellFormed e v)
    (hothers : ∀ v ∈ others, WellFormed e v) (hrows : ¬ Counts items) {size : Nat}
    (hsize : size ≤ 1000) (offset : Nat) :
    Query.compile e (.entries (pageEntries items size offset)) =
      Query.compile e (.entries (pageEntries others size offset)) := by
  have hrows' : ¬ Counts others := fun hc => hrows (h.counts.mpr hc)
  have hsame := assembled_congr h hitems hothers e.name
  rw [assembled_of_rows hrows, assembled_of_rows hrows'] at hsame
  rw [compile_pageEntries hitems (Bool.eq_false_iff.mpr (mt Query.counts_iff.mpr hrows)) hsize,
    compile_pageEntries hothers (Bool.eq_false_iff.mpr (mt Query.counts_iff.mpr hrows')) hsize,
    hsame]

theorem fetchPages_congr (server : Server σ) (access : Access) (sandbox : Option Bool) {size : Nat}
    (hcompile : ∀ offset : Nat, Query.compile e (.entries (pageEntries items size offset)) =
      Query.compile e (.entries (pageEntries others size offset))) (budget offset : Nat) :
    fetchPages server access sandbox e items size budget offset =
      fetchPages server access sandbox e others size budget offset := by
  induction budget generalizing offset with
  | zero => rfl
  | succ budget ih =>
    have hmore := ih (offset + size)
    rw [Int.natCast_add] at hmore
    simp only [fetchPages, hcompile, hmore]

/-- Lists that agree and ask for rows have the same pages. -/
theorem fetchAll_congr (h : Agree items others) (hitems : ∀ v ∈ items, WellFormed e v)
    (hothers : ∀ v ∈ others, WellFormed e v) (hrows : ¬ Counts items) (server : Server σ)
    (access : Access) (sandbox : Option Bool) :
    fetchAll server access sandbox e items = fetchAll server access sandbox e others := by
  have hsound := Query.isSound_extended (Query.wellFormed_of_mappings hitems)
  unfold fetchAll
  rw [← pageSize_congr h, ← startOffset_congr h, pageSize_eq_pageRows hitems rfl hsound,
    startOffset_eq_skipped hitems rfl hsound]
  simp only [fetchPages_congr server access sandbox
    (compile_congr h hitems hothers hrows (pageRows_bounds hsound).2)]

/-- **Searches with valid lists that agree do the same**, request by request, whatever the server
    answers. -/
theorem run_congr (h : Agree items others) (hitems : ∀ v ∈ items, WellFormed e v)
    (hothers : ∀ v ∈ others, WellFormed e v) {entity : Value} (hentity : Entity.get entity = .ok e)
    (server : Server σ) (sandbox : Option Bool) (realm : Value) (s : Session σ) :
    (run server sandbox realm entity (.list items)).execute s =
      (run server sandbox realm entity (.list others)).execute s := by
  have hquery := Query.ofEntries_of_valid e.name hitems
  have hquery' := Query.ofEntries_of_valid e.name hothers
  rw [← assembled_congr h hitems hothers] at hquery'
  unfold run
  simp only [Gateway.execute_bind, Gateway.execute_ofExcept, Gateway.execute_access, hentity,
    Query.accept_list hitems, Query.accept_list hothers, Query.ofCriteria, hquery,
    hquery']
  cases Access.resolve s.settings s.credentials realm with
  | error f => rfl
  | ok access =>
    dsimp only
    cases (Query.assembled e.name items).text with
    | error f => rfl
    | ok text =>
      dsimp only
      by_cases hcounts : Counts items
      · have hcountOnly : (Query.assembled e.name items).countOnly = true := by
          rw [Query.assembled_of_counts hcounts]
        rw [if_pos hcountOnly, if_pos hcountOnly]
      · have hwanted : lastOf .fetchAll (Criteria.entries items).asEntries =
            lastOf .fetchAll (Criteria.entries others).asEntries :=
          lastOf_congr h (by decide) (by decide) (by decide)
        have hpages : fetchAll server access sandbox e (Criteria.entries items).asEntries =
            fetchAll server access sandbox e (Criteria.entries others).asEntries :=
          fetchAll_congr h hitems hothers hcounts server access sandbox
        rw [hwanted, hpages]

end Search

/-! ## 6. Valid lists -/

open Query in
/-- **The last directive counts.** Take valid lists with the same filters in the same order, the
    same last entry for sorting in either direction, the same last limit, offset and entry for
    fetching all pages, and of which either both or none ask for the number of rows. They make the
    same query. If they ask for the number of rows, its text does just that, wherever the entry
    stands; otherwise its conditions are the filters, in order, and the sort order and the window
    are those of the last entries. A search decides in the same way on fetching all pages, takes the
    same page size and the same start, and does the same all along. Lists agree in this way when
    directives are moved among the filters, or when directives that later ones override come or
    go. -/
theorem last_directive_counts {e : Entity} {items others : List Value}
    (hitems : check e (.entries items) = .ok ()) (hothers : check e (.entries others) = .ok ())
    (h : Agree items others) (entity : String) :
    (∃ q, ofValue entity (.list items) = .ok q ∧ ofValue entity (.list others) = .ok q ∧
      (Counts items → q = { entity, countOnly := true } ∧
        q.text = .ok ("SELECT COUNT(*) FROM " ++ entity)) ∧
      (¬ Counts items → IsMadeOf entity items q)) ∧
    (Search.lastOf .fetchAll items).isTruthy = (Search.lastOf .fetchAll others).isTruthy ∧
    Search.pageSize items = Search.pageSize others ∧
    Search.startOffset items = Search.startOffset others ∧
    (∀ {σ : Type} (server : Server σ) (sandbox : Option Bool) (realm name : Value) (s : Session σ),
      Entity.get name = .ok e →
        (Search.run server sandbox realm name (.list items)).execute s =
          (Search.run server sandbox realm name (.list others)).execute s) ∧
    ∀ before after : List Value, Rearranged before after → Agree before after := by
  have hvalid : ∀ v ∈ items, WellFormed e v := check_eq_ok.mp hitems
  have hvalid' : ∀ v ∈ others, WellFormed e v := check_eq_ok.mp hothers
  have hquery := ofEntries_of_valid entity hvalid
  have hquery' := ofEntries_of_valid entity hvalid'
  rw [← assembled_congr h hvalid hvalid'] at hquery'
  refine ⟨⟨assembled entity items, hquery, hquery', fun hcounts => ?_, fun hrows => ?_⟩, ?_,
    Search.pageSize_congr h, Search.startOffset_congr h, ?_, fun _ _ => Rearranged.agree⟩
  · rw [assembled_of_counts hcounts]
    exact ⟨rfl, rfl⟩
  · rw [assembled_of_rows hrows]
    exact isMadeOf_extended hvalid entity
  · rw [Search.lastOf_congr h (by decide) (by decide) (by decide)]
  · intro σ server sandbox realm name s hname
    exact Search.run_congr h hvalid hvalid' hname server sandbox realm s

/-- A filter before its directives. -/
def filterFirst : List Value :=
  [Entry.equality "DisplayName" (.str "Acme"), Entry.bare "asc" (.str "DisplayName"),
    Entry.bare "limit" (.int 5)]

/-- The same filter after its directives, one of which is overridden. -/
def filterLast : List Value :=
  [Entry.bare "limit" (.int 9), Entry.bare "asc" (.str "DisplayName"),
    Entry.bare "limit" (.int 5), Entry.equality "DisplayName" (.str "Acme")]

open Query in
theorem rearranged_filterLast : Rearranged filterLast filterFirst := by
  have hoverride : Rearranged filterLast (filterLast.drop 1) :=
    .override [] [Entry.bare "asc" (.str "DisplayName")]
      [Entry.equality "DisplayName" (.str "Acme")] (d := .limit) rfl (by decide) rfl
  have hlimit : Rearranged (filterLast.drop 1)
      [Entry.bare "asc" (.str "DisplayName"), Entry.equality "DisplayName" (.str "Acme"),
        Entry.bare "limit" (.int 5)] :=
    .move [Entry.bare "asc" (.str "DisplayName")] [Entry.equality "DisplayName" (.str "Acme")] []
      (d := .limit) rfl (by simp [Entry.equality, mappings]; rfl)
  have hsort : Rearranged [Entry.bare "asc" (.str "DisplayName"),
      Entry.equality "DisplayName" (.str "Acme"), Entry.bare "limit" (.int 5)] filterFirst :=
    .move [] [Entry.equality "DisplayName" (.str "Acme")] [Entry.bare "limit" (.int 5)]
      (d := .ascending) rfl (by simp [Entry.equality, mappings]; rfl)
  exact hoverride.trans (hlimit.trans hsort)

open Query in
theorem last_directive_counts_filterLast :
    check Entity.all[3] (.entries filterLast) = .ok () ∧
    check Entity.all[3] (.entries filterFirst) = .ok () ∧ Agree filterLast filterFirst ∧
    (∃ q, ofValue "Customer" (.list filterLast) = .ok q ∧
      ofValue "Customer" (.list filterFirst) = .ok q ∧ IsMadeOf "Customer" filterLast q) ∧
    Search.pageSize filterLast = Search.pageSize filterFirst := by
  have hlast : check Entity.all[3] (.entries filterLast) = .ok () := rfl
  have hfirst : check Entity.all[3] (.entries filterFirst) = .ok () := rfl
  have hagree := rearranged_filterLast.agree
  obtain ⟨⟨q, hq, hq', _, hrows⟩, _, hsize, _⟩ :=
    last_directive_counts hlast hfirst hagree "Customer"
  have hcounts : ¬ Counts filterLast := by
    rw [counts_iff]
    decide
  exact ⟨hlast, hfirst, hagree, ⟨q, hq, hq', hrows hcounts⟩, hsize⟩

end BooksGateway
