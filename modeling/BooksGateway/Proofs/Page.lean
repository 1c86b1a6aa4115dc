import BooksGateway.Proofs.Coercion
import BooksGateway.Proofs.Soundness
import BooksGateway.Session.Search

/-!
# The query of one page

The query of a page is the query of the whole search with another window: same conditions, same sort
order. Its text is the text of the search without a window, followed by the window.

* `render_window`: the text of a query with a window;
* `text_of_rows`, `text_window`: when the text of a query can be written;
* `pageSize_eq`, `startOffset_eq`: the window of a search is the one of its query;
* `compile_pageEntries`: the entries of a page make the query of the search with another window.
-/

namespace BooksGateway

open Validation

/-! ## 1. Windows -/

namespace Query

/-- A query with a window of its own. -/
def window (q : Query) (size offset : Nat) : Query :=
  { q with limit := some size, offset := some offset }

/-- The text of a query without a window. -/
def windowless (q : Query) : String := render { q with limit := none, offset := none }

/-- The text of a window: the first row is named unless it is the very first. -/
def windowText (size offset : Nat) : String :=
  " MAXRESULTS " ++ toString size ++
    if offset = 0 then "" else " STARTPOSITION " ++ toString (offset + 1)

theorem shownLimit_window (q : Query) {size : Nat} (hsize : 0 < size) (offset : Nat) :
    (q.window size offset).shownLimit = some (size : Int) := by
  rw [shownLimit_of_limit rfl, if_neg (by omega)]

theorem shownFirst_window (q : Query) (size offset : Nat) :
    (q.window size offset).shownFirst = if offset = 0 then none else some ((offset : Int) + 1) := by
  rw [shownFirst_of_offset rfl]
  by_cases h : offset = 0 <;> simp [h]

theorem limitClause_window (q : Query) {size : Nat} (hsize : 0 < size) (offset : Nat) :
    Statement.limitClause (q.window size offset).statement.limit =
      " MAXRESULTS " ++ toString size := by
  show Statement.limitClause ((q.window size offset).shownLimit.map toString) = _
  rw [shownLimit_window q hsize]
  rfl

theorem firstClause_window (q : Query) (size offset : Nat) :
    Statement.firstClause (q.window size offset).statement.first =
      if offset = 0 then "" else " STARTPOSITION " ++ toString (offset + 1) := by
  show Statement.firstClause ((q.window size offset).shownFirst.map toString) = _
  rw [shownFirst_window]
  by_cases h : offset = 0
  · rw [if_pos h, if_pos h]
    rfl
  · rw [if_neg h, if_neg h]
    rfl

/-- **The text of a query with a window** is the text without one, and the window. -/
theorem render_window {q : Query} (hrows : q.countOnly = false) {size : Nat} (hsize : 0 < size)
    (offset : Nat) : (q.window size offset).render = q.windowless ++ windowText size offset := by
  have hplain : q.windowless = "SELECT * FROM " ++ q.entity ++
      Statement.whereClause (q.conditions.map Condition.render) ++
      Statement.orderClause q.statement.order ++ "" ++ "" := Statement.render_rows hrows
  have hwhole : (q.window size offset).render = "SELECT * FROM " ++ q.entity ++
      Statement.whereClause (q.conditions.map Condition.render) ++
      Statement.orderClause q.statement.order ++
      Statement.limitClause (q.window size offset).statement.limit ++
      Statement.firstClause (q.window size offset).statement.first := Statement.render_rows hrows
  rw [hwhole, limitClause_window q hsize, firstClause_window, hplain, String.append_empty,
    String.append_empty, windowText, String.append_assoc]

/-- A query in order is in order with any window that the server takes. -/
theorem IsSound.window {e : Entity} {q : Query} (h : q.IsSound e) {size : Nat}
    (hsize : size ≤ 1000) (offset : Nat) : (q.window size offset).IsSound e where
  entity := h.entity
  conditions := h.conditions
  order := h.order
  limit := by
    rintro _ ⟨⟩
    unfold maxPageSize
    omega
  offset := by
    rintro _ ⟨⟩
    omega

/-- **The text of a query for rows can be written** iff the whole numbers in its conditions can, and
    so can the position after its offset. -/
theorem text_of_rows {e : Entity} {q : Query} (hsound : q.IsSound e) (hrows : q.countOnly = false)
    {offset : Nat} (hoffset : (q.offset.getD 0).toNat = offset) :
    q.text =
      if (∀ c ∈ q.conditions, c.HasShortWholes) ∧ offset + 1 < Numeral.writeLimit then .ok q.render
      else .error .unwritableWhole := by
  have hfirst : (∀ n, q.offset = some n → n + 1 < (Numeral.writeLimit : Int)) ↔
      offset + 1 < Numeral.writeLimit := by
    have hone := Numeral.lt_writeLimit (show 1 ≤ 1000 by decide)
    subst hoffset
    cases hn : q.offset with
    | none => exact iff_of_true nofun hone
    | some n =>
      have := hsound.offset n hn
      simp only [Option.some.injEq, forall_eq', Option.getD_some]
      omega
  have hwritable := isWritable_iff hsound
  rw [hrows, hfirst] at hwritable
  simp only [Bool.false_eq_true, false_or] at hwritable
  unfold text
  simp only [hwritable]

theorem text_window {e : Entity} {q : Query} (hsound : q.IsSound e) (hrows : q.countOnly = false)
    {size : Nat} (hsize : size ≤ 1000) (offset : Nat) :
    (q.window size offset).text =
      if (∀ c ∈ q.conditions, c.HasShortWholes) ∧ offset + 1 < Numeral.writeLimit then
        .ok (q.window size offset).render
      else .error .unwritableWhole :=
  text_of_rows (hsound.window hsize offset) hrows rfl

/-! ## 2. The entries of a page -/

theorem mappings_filter (p : Value → Bool) (items : List Value) :
    mappings (items.filter p) = (mappings items).filter fun entry => p (.obj entry) := by
  induction items with
  | nil => rfl
  | cons v rest ih =>
    by_cases hp : p v = true
    · rw [List.filter_cons_of_pos hp]
      cases v with
      | obj entry =>
        rw [mappings, mappings, ih]
        exact (List.filter_cons_of_pos (p := fun other => p (.obj other)) hp).symm
      | _ => exact ih
    · rw [List.filter_cons_of_neg hp]
      cases v with
      | obj entry =>
        rw [mappings, ih]
        exact (List.filter_cons_of_neg (p := fun other => p (.obj other)) hp).symm
      | _ => exact ih

end Query

namespace Search

variable {e : Entity} {items : List Value}

/-- The entry for a bound, as a mapping. -/
def boundEntry (d : Directive) (n : Nat) : Fields := [("field", .str d.key), ("value", .int n)]

theorem mappings_pageEntries (items : List Value) (size offset : Nat) :
    Query.mappings (pageEntries items size offset) =
      (Query.mappings items).filter (fun entry => !isWindowEntry (.obj entry)) ++
        [boundEntry .limit size, boundEntry .offset offset] := by
  unfold pageEntries
  rw [Query.mappings_append, Query.mappings_filter]
  rfl

/-- The entries of a page are well formed. -/
theorem wellFormed_pageEntries (h : ∀ v ∈ items, WellFormed e v) {size : Nat} (hsize : size ≤ 1000)
    (offset : Nat) : ∀ v ∈ pageEntries items size offset, WellFormed e v := by
  intro v hv
  rcases List.mem_append.mp hv with hv | hv
  · exact h v (List.mem_filter.mp hv).1
  · have hmax : (size : Int) ≤ maxPageSize := by
      unfold maxPageSize
      omega
    have hlimit : WellFormed e (.obj (boundEntry .limit size)) :=
      .directive (d := .limit) rfl (.limit (Int.natCast_nonneg _) hmax)
    have hoffset : WellFormed e (.obj (boundEntry .offset offset)) :=
      .directive (d := .offset) rfl (.offset (Int.natCast_nonneg _))
    rcases List.mem_cons.mp hv with rfl | hv
    · exact hlimit
    · obtain rfl := List.mem_singleton.mp hv
      exact hoffset

/-- Window entries say nothing about the rest of the query. -/
theorem directiveOf?_of_window {entry : Fields} (h : isWindowEntry (.obj entry) = true) :
    Query.directiveOf? entry = some .limit ∨ Query.directiveOf? entry = some .offset ∨
      Query.directiveOf? entry = some .fetchAll := by
  simp only [isWindowEntry] at h
  split at h
  · exact Or.inl (by assumption)
  · exact Or.inr (Or.inl (by assumption))
  · exact Or.inr (Or.inr (by assumption))
  · cases h

theorem isFilter_of_window {entry : Fields} (h : isWindowEntry (.obj entry) = true) :
    Query.isFilter entry = false := by
  rcases directiveOf?_of_window h with hd | hd | hd <;> simp [Query.isFilter, hd]

theorem sortOf?_of_window {entry : Fields} (h : isWindowEntry (.obj entry) = true) :
    Query.sortOf? entry = none := by
  rcases directiveOf?_of_window h with hd | hd | hd <;> simp [Query.sortOf?, hd]

/-- **The entries of a page make the query of the search with another window.** -/
theorem extended_pageEntries (entity : String) (items : List Value) (size offset : Nat) :
    Query.extended { entity } (Query.mappings (pageEntries items size offset)) =
      (Query.extended { entity } (Query.mappings items)).window size offset := by
  have hfilters : Query.filters (Query.mappings (pageEntries items size offset)) =
      Query.filters (Query.mappings items) := by
    rw [mappings_pageEntries]
    unfold Query.filters
    rw [List.filter_append, List.filter_filter]
    show _ ++ [] = _
    rw [List.append_nil]
    refine List.filter_congr fun entry _ => ?_
    cases hwindow : isWindowEntry (.obj entry) with
    | true => simp [isFilter_of_window hwindow]
    | false => simp
  have hsort : Query.latest Query.sortOf? (Query.mappings (pageEntries items size offset)) =
      Query.latest Query.sortOf? (Query.mappings items) := by
    rw [mappings_pageEntries, Query.latest_append]
    show Option.or none _ = _
    rw [Option.none_or]
    refine Query.latest_filter (fun entry hentry => sortOf?_of_window ?_) _
    simpa using hentry
  have hlimit : Query.latest (Query.boundOf? .limit)
      (Query.mappings (pageEntries items size offset)) = some (size : Int) := by
    rw [mappings_pageEntries, Query.latest_append]
    rfl
  have hoffset : Query.latest (Query.boundOf? .offset)
      (Query.mappings (pageEntries items size offset)) = some (offset : Int) := by
    rw [mappings_pageEntries, Query.latest_append]
    rfl
  unfold Query.window Query.extended
  rw [hfilters, hsort, hlimit, hoffset]
  simp

theorem asksForCount_pageEntries (h : (Query.mappings items).any Query.asksForCount = false)
    (size offset : Nat) :
    (Query.mappings (pageEntries items size offset)).any Query.asksForCount = false := by
  rw [mappings_pageEntries, List.any_append, Bool.or_eq_false_iff]
  refine ⟨?_, rfl⟩
  rw [List.any_eq_false] at h ⊢
  exact fun entry hentry => h entry (List.mem_filter.mp hentry).1

/-- **What the entries of a page compile to.** -/
theorem compile_pageEntries (h : ∀ v ∈ items, WellFormed e v)
    (hcount : (Query.mappings items).any Query.asksForCount = false) {size : Nat}
    (hsize : size ≤ 1000) (offset : Nat) :
    Query.compile e (.entries (pageEntries items size offset)) =
      ((Query.extended { entity := e.name } (Query.mappings items)).window size offset).text := by
  have hwell := wellFormed_pageEntries h hsize offset
  unfold Query.compile
  rw [Criteria.written_entries_of_wellFormed hwell, Criteria.coerce,
    FieldTable.map_coerceEntry_of_wellFormed hwell, Query.ofCriteria,
    Query.ofEntries_of_valid e.name hwell, Query.assembled,
    if_neg (by rw [asksForCount_pageEntries hcount]; decide), extended_pageEntries]
  rfl

/-! ## 3. The window of a search -/

/-- Well-formed entries for the window have whole numbers. -/
theorem exists_boundOf? {entries : List Fields} (h : ∀ entry ∈ entries, WellFormed e (.obj entry))
    {d : Directive} (hd : d = .limit ∨ d = .offset) {entry : Fields} (hentry : entry ∈ entries)
    (hdirective : Query.directiveOf? entry = some d) :
    ∃ n, Query.boundOf? d entry = some n ∧ Entry.value entry = .int n := by
  obtain ⟨n, hn, _⟩ := (Query.directiveFits_of_mem h hentry hdirective).bound hd
  refine ⟨n, ?_, hn⟩
  rw [Query.boundOf?, if_pos hdirective, hn]

/-- **The bound of well-formed entries** is the value of the last entry for it. -/
theorem map_int_latest {entries : List Fields} (h : ∀ entry ∈ entries, WellFormed e (.obj entry))
    {d : Directive} (hd : d = .limit ∨ d = .offset) :
    (Query.latest (Query.boundOf? d) entries).map Value.int =
      ((entries.filter fun entry => Query.directiveOf? entry == some d).getLast?).map
        Entry.value := by
  have htells : ∀ entry ∈ entries, (Query.boundOf? d entry).isSome =
      (Query.directiveOf? entry == some d) := by
    intro entry hentry
    by_cases hdirective : Query.directiveOf? entry = some d
    · obtain ⟨n, hn, _⟩ := exists_boundOf? h hd hentry hdirective
      rw [hn, hdirective, beq_self_eq_true]
      rfl
    · rw [Query.boundOf?, if_neg hdirective, beq_eq_false_iff_ne.mpr hdirective]
      rfl
  rw [Query.latest_eq_bind htells]
  cases hlast : (entries.filter fun entry => Query.directiveOf? entry == some d).getLast? with
  | none => rfl
  | some entry =>
    obtain ⟨hentry, hdirective⟩ := List.mem_filter.mp (List.mem_of_getLast? hlast)
    obtain ⟨n, hn, hvalue⟩ := exists_boundOf? h hd hentry (beq_iff_eq.mp hdirective)
    rw [Option.bind_some, hn, Option.map_some, Option.map_some, hvalue]

/-- The last entry for a bound has the bound of the query. -/
theorem lastOf_bound (h : ∀ v ∈ items, WellFormed e v) {d : Directive}
    (hd : d = .limit ∨ d = .offset) :
    lastOf d items =
      ((Query.latest (Query.boundOf? d) (Query.mappings items)).map .int).getD .null := by
  rw [map_int_latest (Query.wellFormed_of_mappings h) hd]
  unfold lastOf
  dsimp only
  cases ((Query.mappings items).filter fun entry =>
    Query.directiveOf? entry == some d).getLast? <;> rfl

theorem pageSize_eq (h : ∀ v ∈ items, WellFormed e v) {q : Query}
    (hq : q = Query.extended { entity := e.name } (Query.mappings items)) :
    pageSize items = q.shownLimit.getD maxPageSize := by
  have hlimit : q.limit = Query.latest (Query.boundOf? .limit) (Query.mappings items) := by
    rw [hq]
    exact Option.or_none
  unfold pageSize
  rw [lastOf_bound h (Or.inl rfl), ← hlimit]
  cases hcase : q.limit with
  | none =>
    unfold Query.shownLimit
    rw [hcase]
    rfl
  | some n =>
    rw [Query.shownLimit_of_limit hcase]
    by_cases hn : n = 0 <;> simp [hn]

theorem startOffset_eq (h : ∀ v ∈ items, WellFormed e v) {q : Query}
    (hq : q = Query.extended { entity := e.name } (Query.mappings items)) :
    startOffset items = q.offset.getD 0 := by
  have hoffset : q.offset = Query.latest (Query.boundOf? .offset) (Query.mappings items) := by
    rw [hq]
    exact Option.or_none
  unfold startOffset
  rw [lastOf_bound h (Or.inr rfl), ← hoffset]
  cases q.offset <;> rfl

end Search

end BooksGateway
