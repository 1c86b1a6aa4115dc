import BooksGateway.Proofs.Reading.Literals

/-!
# The text of a query is unambiguous

Reading the text of a query gives back what the query holds. Clause by clause: what is rendered is
read back with any later clauses after it, and a clause that is missing is seen to be, because each
of them opens with a letter of its own.

* `readCondition_render`, `readWhere_clause`: conditions are read back;
* `readOrder_clause`, `readBound_limitClause`, `readBound_firstClause`: so are the sort order and the
  window;
* `read_render`: and so is a query;
* `read_search`: every search for rows is read back as what its entries say.
-/

namespace BooksGateway.Reading

open Validation

/-! ## 1. Words and numbers -/

theorem readWord_append {s : String} (hs : Entity.isWord s = true) {rest : List Char}
    (hrest : Stops (· != ' ') rest) : readWord (s.toList ++ rest) = some (s, rest) := by
  have hbare : ∀ c ∈ s.toList, (c != ' ') = true := by
    intro c hc
    exact bne_iff_ne.mpr (Entity.isWord_no_space hs c hc)
  unfold readWord
  rw [readWhile_append (Entity.isWord_ne_nil hs) hbare hrest, Option.map_some]
  show some (String.ofList s.toList, rest) = _
  rw [String.ofList_toList]

theorem readNumber_toString {n : Int} (hn : 0 ≤ n) {rest : List Char}
    (hrest : Stops Char.isDigit rest) :
    readNumber ((toString n).toList ++ rest) = some (n.toNat, rest) := by
  obtain ⟨m, rfl⟩ := Int.eq_ofNat_of_zero_le hn
  have hdigits : ∀ c ∈ Nat.toDigits 10 m, c.isDigit = true :=
    fun c hc => Nat.isDigit_of_mem_toDigits (by decide) (by decide) hc
  unfold readNumber
  rw [Numeral.toList_toString_nat, readWhile_append Nat.toDigits_ne_nil hdigits hrest,
    Option.map_some]
  show some (Nat.ofDigitChars 10 (Nat.toDigits 10 m) 0, rest) = _
  rw [Nat.ofDigitChars_ten_toDigits]
  rfl

/-! ## 2. What may follow a clause -/

/-- Nothing stands next, or a clause that opens with one of these letters. -/
def Opens (letters : List Char) (cs : List Char) : Prop :=
  cs = [] ∨ ∃ letter ∈ letters, ∃ rest, cs = ' ' :: letter :: rest

theorem Opens.append {letters more cs rest : List Char} (h : Opens letters cs)
    (hrest : Opens more rest) : Opens (letters ++ more) (cs ++ rest) := by
  rcases h with rfl | ⟨letter, hletter, tail, rfl⟩
  · rcases hrest with rfl | ⟨letter, hletter, tail, rfl⟩
    · exact Or.inl rfl
    · exact Or.inr ⟨letter, List.mem_append_right _ hletter, tail, rfl⟩
  · exact Or.inr ⟨letter, List.mem_append_left _ hletter, tail ++ rest, rfl⟩

theorem Opens.stops {letters cs : List Char} (h : Opens letters cs) {p : Char → Bool}
    (hp : p ' ' = false) : Stops p cs := by
  rcases h with rfl | ⟨letter, _, rest, rfl⟩
  · intro c hc
    cases hc
  · exact stops_cons hp _

/-- A clause that opens with another letter is not there. -/
theorem Opens.after?_eq_none {letters cs : List Char} (h : Opens letters cs) {mark : String}
    {letter : Char} {tail : List Char} (hmark : mark.toList = ' ' :: letter :: tail)
    (hletter : letter ∉ letters) : after? mark cs = none := by
  unfold after?
  rw [hmark]
  rcases h with rfl | ⟨other, hother, rest, rfl⟩
  · rfl
  · have hne : letter ≠ other := by
      rintro rfl
      exact hletter hother
    refine if_neg ?_
    simp [List.isPrefixOf, hne]

theorem opens_mark {mark : String} {letter : Char} {tail : List Char}
    (hmark : mark.toList = ' ' :: letter :: tail) (rest : String) :
    Opens [letter] (mark ++ rest).toList := by
  refine Or.inr ⟨letter, List.mem_singleton_self _, tail ++ rest.toList, ?_⟩
  rw [String.toList_append, hmark]
  rfl

/-! ## 3. Conditions -/

/-- A condition whose text can be read back: field and operator are words, and the value fits and
    holds no text that ends in a backslash. -/
inductive IsReadable : Condition → Prop where
  /-- There is only one form. -/
  | intro {name operator : String} {kind : FieldKind} {v : Value}
      (hname : Entity.isWord name = true) (hoperator : Entity.isWord operator = true)
      (hfits : Fits kind operator v) (hclosed : IsClosed v) :
      IsReadable ⟨.str name, .str operator, v⟩

/-- What a condition is read back as. -/
def ofCondition (c : Condition) : ReadCondition :=
  ⟨c.field.display, c.operator.display, literalOf c.value⟩

/-- **A condition is read back**, with anything after it that ends a literal. -/
theorem readCondition_render {c : Condition} (hc : IsReadable c) {rest : List Char}
    (hrest : Stops isBare rest) :
    readCondition (c.render.toList ++ rest) = some (ofCondition c, rest) := by
  cases hc with
  | @intro name operator kind v hname hoperator hfits hclosed =>
    have hspace : ∀ tail, Stops (· != ' ') ((" " : String).toList ++ tail) := stops_cons rfl
    have hroom : (Literal.render v).toList.length ≤ ((Literal.render v).toList ++ rest).length := by
      rw [List.length_append]
      exact Nat.le_add_right _ _
    have hliteral := readLiteral_of_fits hfits hclosed hrest hroom
    have htext : (Condition.render ⟨.str name, .str operator, v⟩).toList ++ rest =
        name.toList ++ ((" " : String).toList ++ (operator.toList ++ ((" " : String).toList ++
          ((Literal.render v).toList ++ rest)))) := by
      simp only [Condition.render, Value.display, String.toList_append, List.append_assoc]
    rw [htext]
    unfold readCondition
    rw [readWord_append hname (hspace _)]
    simp only [bind, Option.bind, after?_append, readWord_append hoperator (hspace _), hliteral]
    rfl

/-- **Conditions are read back** as long as one follows another. -/
theorem readConditions_joined {conditions : List Condition} (hne : conditions ≠ [])
    (h : ∀ c ∈ conditions, IsReadable c) {rest : List Char} (hrest : Opens ['O', 'M', 'S'] rest)
    {room : Nat} (hroom : conditions.length ≤ room) :
    readConditions room
        ((Value.joined " AND " (conditions.map Condition.render)).toList ++ rest) =
      some (conditions.map ofCondition, rest) := by
  induction conditions generalizing room with
  | nil => exact absurd rfl hne
  | cons c more ih =>
    obtain ⟨room, rfl⟩ := Nat.exists_eq_add_of_le' (Nat.le_trans (Nat.le_add_left 1 _) hroom)
    have hc := h c List.mem_cons_self
    cases more with
    | nil =>
      have hnone : after? " AND " rest = none := hrest.after?_eq_none rfl (by decide)
      simp only [readConditions, List.map_singleton, Value.joined,
        readCondition_render hc (hrest.stops rfl), bind, Option.bind, hnone]
      rfl
    | cons next others =>
      have hmore := ih (List.cons_ne_nil _ _) (fun d hd => h d (List.mem_cons_of_mem _ hd))
        (Nat.le_of_succ_le_succ hroom)
      have hstops : ∀ tail, Stops isBare ((" AND " : String).toList ++ tail) := stops_cons rfl
      rw [readConditions, List.map_cons, List.map_cons, joined_cons_cons, ← List.map_cons]
      simp only [String.toList_append, List.append_assoc, readCondition_render hc (hstops _), bind,
        Option.bind, after?_append, hmore]
      rfl

/-! ## 4. Clauses -/

theorem opens_whereClause (conditions : List String) :
    Opens ['W'] (Statement.whereClause conditions).toList := by
  cases conditions with
  | nil => exact Or.inl rfl
  | cons part rest =>
    rw [Statement.whereClause_cons]
    exact opens_mark rfl _

theorem opens_orderClause (order : Option (String × String)) :
    Opens ['O'] (Statement.orderClause order).toList := by
  cases order with
  | none => exact Or.inl rfl
  | some sort =>
    rw [Statement.orderClause_some, String.append_assoc, String.append_assoc]
    exact opens_mark rfl _

theorem opens_limitClause (limit : Option String) :
    Opens ['M'] (Statement.limitClause limit).toList := by
  cases limit with
  | none => exact Or.inl rfl
  | some number =>
    rw [Statement.limitClause_some]
    exact opens_mark rfl _

theorem opens_firstClause (first : Option String) :
    Opens ['S'] (Statement.firstClause first).toList := by
  cases first with
  | none => exact Or.inl rfl
  | some number =>
    rw [Statement.firstClause_some]
    exact opens_mark rfl _

/-- **The clause with the conditions is read back**, there or not. -/
theorem readWhere_clause {conditions : List Condition} (h : ∀ c ∈ conditions, IsReadable c)
    {rest : List Char} (hrest : Opens ['O', 'M', 'S'] rest) :
    readWhere ((Statement.whereClause (conditions.map Condition.render)).toList ++ rest) =
      some (conditions.map ofCondition, rest) := by
  unfold readWhere
  cases conditions with
  | nil =>
    have hnone : after? " WHERE " rest = none := hrest.after?_eq_none rfl (by decide)
    simp only [List.map_nil, Statement.whereClause, String.toList_empty, List.nil_append, hnone]
  | cons c more =>
    have hlength := length_le_joined (show (" AND " : String).toList ≠ [] by decide)
      ((c :: more).map Condition.render)
    rw [List.length_map] at hlength
    rw [List.map_cons, Statement.whereClause_cons, ← List.map_cons, String.toList_append,
      List.append_assoc, after?_append]
    refine readConditions_joined (List.cons_ne_nil _ _) h hrest (Nat.le_trans hlength ?_)
    rw [List.length_append]
    omega

theorem readDirection_word (direction : Direction) (rest : List Char) :
    readDirection (direction.word.toList ++ rest) = some (direction, rest) := by
  cases direction with
  | rising => rw [readDirection, Direction.word, after?_append]
  | falling =>
    have hnone : after? "ASC" (("DESC" : String).toList ++ rest) = none := rfl
    rw [readDirection, Direction.word, after?_append, hnone]

/-- **The clause with the sort order is read back**, there or not. -/
theorem readOrder_clause {order : Option (String × Direction)}
    (h : ∀ field direction, order = some (field, direction) → Entity.isWord field = true)
    {rest : List Char} (hrest : Opens ['M', 'S'] rest) :
    readOrder ((Statement.orderClause (order.map fun (field, direction) =>
      (field, direction.word))).toList ++ rest) = some (order, rest) := by
  unfold readOrder
  cases order with
  | none =>
    have hnone : after? " ORDER BY " rest = none := hrest.after?_eq_none rfl (by decide)
    simp only [Option.map_none, Statement.orderClause, String.toList_empty, List.nil_append, hnone]
  | some sort =>
    obtain ⟨field, direction⟩ := sort
    have hspace : ∀ tail, Stops (· != ' ') ((" " : String).toList ++ tail) := stops_cons rfl
    simp only [Option.map_some, Statement.orderClause_some, String.toList_append, List.append_assoc,
      after?_append, readWord_append (h field direction rfl) (hspace _), readDirection_word, bind,
      Option.bind]
    rfl

theorem readBound_some (keyword : String) {n : Int} (hn : 0 ≤ n) {rest : List Char}
    (hrest : Stops Char.isDigit rest) :
    readBound keyword ((keyword ++ toString n).toList ++ rest) = some (some n.toNat, rest) := by
  unfold readBound
  rw [String.toList_append, List.append_assoc, after?_append]
  simp only [readNumber_toString hn hrest, Option.map_some]

/-- **The clause with the greatest number of rows is read back**, there or not. -/
theorem readBound_limitClause {limit : Option Int} (h : ∀ n, limit = some n → 0 ≤ n)
    {rest : List Char} (hrest : Opens ['S'] rest) :
    readBound " MAXRESULTS " ((Statement.limitClause (limit.map toString)).toList ++ rest) =
      some (limit.map Int.toNat, rest) := by
  cases limit with
  | none =>
    have hnone : after? " MAXRESULTS " rest = none := hrest.after?_eq_none rfl (by decide)
    simp only [readBound, Option.map_none, Statement.limitClause, String.toList_empty,
      List.nil_append, hnone]
  | some n => exact readBound_some _ (h n rfl) (hrest.stops rfl)

/-- **The clause with the first row is read back**, there or not. -/
theorem readBound_firstClause {first : Option Int} (h : ∀ n, first = some n → 0 ≤ n) :
    readBound " STARTPOSITION " (Statement.firstClause (first.map toString)).toList =
      some (first.map Int.toNat, []) := by
  cases first with
  | none => rfl
  | some n =>
    have hend : Stops Char.isDigit [] := fun c hc => by cases hc
    have hread := readBound_some " STARTPOSITION " (h n rfl) hend
    rw [List.append_nil] at hread
    exact hread

/-! ## 5. Queries -/

/-- The sort order of a query as it is shown. -/
def shownOrder (q : Query) : Option (String × Direction) :=
  q.order.map fun (field, direction) => (field.display, direction)

/-- How many rows a query asks for at most; zero is no bound. -/
def rowBound (q : Query) : Option Nat :=
  match q.limit with
  | none | some 0 => none
  | some n => some n.toNat

/-- The first row that a query asks for, counted from one, if it leaves rows out. -/
def firstRow (q : Query) : Option Nat :=
  match q.offset with
  | none | some 0 => none
  | some n => some (n.toNat + 1)

/-- What a query for rows is read back as. -/
def ofQuery (q : Query) : Reading where
  entity := q.entity
  conditions := q.conditions.map ofCondition
  order := shownOrder q
  limit := rowBound q
  first := firstRow q

/-- A query whose text can be read back. -/
structure IsReadableQuery (q : Query) : Prop where
  /-- The entity is a word. -/
  entity : Entity.isWord q.entity = true
  /-- The conditions can be read back. -/
  conditions : ∀ c ∈ q.conditions, IsReadable c
  /-- The field of the sort order is a word. -/
  order : ∀ field direction, q.order = some (field, direction) →
    Entity.isWord field.display = true
  /-- The greatest number of rows is not negative. -/
  limit : ∀ n, q.limit = some n → 0 ≤ n
  /-- The number of rows left out is not negative. -/
  offset : ∀ n, q.offset = some n → 0 ≤ n
  /-- It asks for rows. -/
  rows : q.countOnly = false

theorem IsReadableQuery.shownLimit {q : Query} (h : IsReadableQuery q) (n : Int)
    (hn : q.shownLimit = some n) : 0 ≤ n := by
  obtain ⟨hlimit, _⟩ := Option.filter_eq_some_iff.mp hn
  exact h.limit n hlimit

theorem IsReadableQuery.shownFirst {q : Query} (h : IsReadableQuery q) (n : Int)
    (hn : q.shownFirst = some n) : 0 ≤ n := by
  obtain ⟨m, hm, rfl⟩ := Option.map_eq_some_iff.mp hn
  obtain ⟨hoffset, _⟩ := Option.filter_eq_some_iff.mp hm
  have := h.offset m hoffset
  omega

/-- The bound that is shown is the one that is asked for. -/
theorem map_shownLimit (q : Query) : q.shownLimit.map Int.toNat = rowBound q := by
  unfold rowBound
  split
  · rename_i hnone
    rw [Query.shownLimit, hnone]
    rfl
  · rename_i hzero
    rw [Query.shownLimit_of_limit hzero, if_pos rfl]
    rfl
  · rename_i n hne hn
    rw [Query.shownLimit_of_limit hn, if_neg hne]
    rfl

/-- The first row that is shown is the one that is asked for. -/
theorem IsReadableQuery.map_shownFirst {q : Query} (h : IsReadableQuery q) :
    q.shownFirst.map Int.toNat = firstRow q := by
  unfold firstRow
  split
  · rename_i hnone
    rw [Query.shownFirst, hnone]
    rfl
  · rename_i hzero
    rw [Query.shownFirst_of_offset hzero, if_pos rfl]
    rfl
  · rename_i n hne hn
    have hnonneg := h.offset n hn
    rw [Query.shownFirst_of_offset hn, if_neg hne, Option.map_some]
    exact congrArg some (by omega)

theorem IsReadableQuery.shownOrder {q : Query} (h : IsReadableQuery q) (field : String)
    (direction : Direction) (hsort : Reading.shownOrder q = some (field, direction)) :
    Entity.isWord field = true := by
  obtain ⟨⟨v, d⟩, hv, hshown⟩ := Option.map_eq_some_iff.mp hsort
  cases hshown
  exact h.order v _ hv

theorem statement_order (q : Query) :
    q.statement.order = (shownOrder q).map fun (field, direction) => (field, direction.word) := by
  unfold shownOrder
  rw [Option.map_map]
  rfl

/-- The characters of the text of a query for rows, clause by clause. -/
theorem toList_render {q : Query} (hrows : q.countOnly = false) :
    q.render.toList = ("SELECT * FROM " : String).toList ++ (q.entity.toList ++
      ((Statement.whereClause (q.conditions.map Condition.render)).toList ++
        ((Statement.orderClause q.statement.order).toList ++
          ((Statement.limitClause (q.shownLimit.map toString)).toList ++
            (Statement.firstClause (q.shownFirst.map toString)).toList)))) := by
  have hrender := Statement.render_rows (s := q.statement) hrows
  rw [Query.render, hrender]
  simp only [String.toList_append, List.append_assoc]
  rfl

/-- **The text of a query is read back as what the query holds.** -/
theorem read_render {q : Query} (h : IsReadableQuery q) : read q.render = some (ofQuery q) := by
  -- what follows each clause, from the last one on
  have hfirst := opens_firstClause (q.shownFirst.map toString)
  have hlimit := (opens_limitClause (q.shownLimit.map toString)).append hfirst
  have horder := (opens_orderClause q.statement.order).append hlimit
  have hwhere := (opens_whereClause (q.conditions.map Condition.render)).append horder
  have hsort := readOrder_clause h.shownOrder hlimit
  rw [← statement_order] at hsort
  unfold read
  rw [toList_render h.rows, after?_append]
  simp only [bind, Option.bind, readWord_append h.entity (hwhere.stops rfl),
    readWhere_clause h.conditions horder, hsort, readBound_limitClause h.shownLimit hfirst,
    readBound_firstClause h.shownFirst, map_shownLimit, h.map_shownFirst]
  rfl

/-! ## 6. Searches -/

theorem isWord_of_operator {operator : String} (h : operator ∈ operators) :
    Entity.isWord operator = true := by
  have hall : operators.all Entity.isWord = true := by decide
  exact List.all_eq_true.mp hall operator h

theorem isReadable_of_fits {e : Entity} (he : e ∈ Entity.all) {entry : Fields} {name : String}
    {spec : FieldSpec} {operator : String} (h : FilterFits e entry name spec operator)
    (hclosed : IsClosed (Entry.value entry)) : IsReadable (Query.conditionOf entry) := by
  rw [Query.conditionOf, h.field, h.operator_eq]
  exact .intro (Entity.word_of_find? he h.known) (isWord_of_operator h.operator_mem) h.value hclosed

/-- What well-formed entries add up to can be read back, unless a text that is compared with ends in
    a backslash. -/
theorem isReadableQuery_extended {e : Entity} (he : e ∈ Entity.all) {entries : List Fields}
    (h : ∀ entry ∈ entries, WellFormed e (.obj entry))
    (hclosed : ∀ entry ∈ Query.filters entries, IsClosed (Entry.value entry)) :
    IsReadableQuery (Query.extended { entity := e.name } entries) where
  entity := Entity.word_of_mem he
  conditions := by
    intro c hc
    simp only [Query.extended, List.nil_append] at hc
    obtain ⟨entry, hentry, rfl⟩ := List.mem_map.mp hc
    obtain ⟨_, _, _, hfits⟩ := Query.fits_of_mem_filters h hentry
    exact isReadable_of_fits he hfits (hclosed entry hentry)
  order := by
    intro field direction horder
    obtain ⟨name, hname, rfl⟩ := (Query.isSound_extended h).order field direction horder
    exact Entity.word_of_sortable he hname
  limit := fun n hn => ((Query.isSound_extended h).limit n hn).1
  offset := (Query.isSound_extended h).offset
  rows := rfl

/-- **The text of a search is unambiguous.** When criteria are accepted and make a query for rows,
    the query holds what the entries say, and reading its text gives back all of it, unless a text
    that is compared with ends in a backslash. The text can be written, unless the offset or a whole
    number in a condition is too long to be. -/
theorem read_search {e : Entity} (he : e ∈ Entity.all) {raw : Value} {criteria : Criteria}
    (hprepare : Query.prepare e raw = .ok criteria) {q : Query}
    (hquery : Query.ofCriteria e.name criteria = .ok q) (hrows : q.countOnly = false)
    (hclosed : ∀ c ∈ q.conditions, IsClosed c.value) :
    q = Query.extended { entity := e.name } (Query.mappings criteria.asEntries) ∧
      read q.render = some (ofQuery q) ∧
      (q.text = .ok q.render ∨
        q.text = .error .unwritableWhole ∧
          ((∃ n, q.offset = some n ∧ (Numeral.writeLimit : Int) ≤ n + 1) ∨
            ∃ c ∈ q.conditions, ¬ c.HasShortWholes)) := by
  obtain ⟨hvalid, _⟩ := Query.prepare_spec hprepare
  have hentries := Query.wellFormed_of_mappings hvalid
  obtain ⟨_, rfl⟩ := Query.extended_of_prepare hprepare hquery hrows
  refine ⟨rfl, read_render (isReadableQuery_extended he hentries fun entry hentry => ?_),
    Query.text_of_isSound (Query.isSound_extended hentries)⟩
  refine hclosed (Query.conditionOf entry) ?_
  simp only [Query.extended, List.nil_append]
  exact List.mem_map_of_mem hentry

/-- Criteria with texts that look like parts of a query. -/
def lookalike : Value :=
  .list [
    .obj [("field", .str "DisplayName"), ("value", .str "\\' OR Id = '1")],
    .obj [("field", .str "Balance"), ("operator", .str "IN"),
      ("value", .list [.int 5, .str "-7"])],
    .obj [("field", .str "desc"), ("value", .str "Balance")],
    .obj [("field", .str "offset"), ("value", .int 20)]]

theorem read_search_lookalike :
    ∃ criteria q, Query.prepare Entity.all[3] lookalike = .ok criteria ∧
      Query.ofCriteria Entity.all[3].name criteria = .ok q ∧ q.countOnly = false ∧
      (∀ c ∈ q.conditions, IsClosed c.value) ∧
      q.render = "SELECT * FROM Customer WHERE DisplayName = '\\\\' OR Id = \\'1' AND " ++
        "Balance IN (5, -7) ORDER BY Balance DESC STARTPOSITION 21" ∧
      read q.render = some (ofQuery q) := by
  have hprepare : Query.prepare Entity.all[3] lookalike =
      .ok ((Criteria.normalize lookalike).coerce Entity.all[3]) := rfl
  have hclosed : ∀ c ∈ (Query.assembled Entity.all[3].name
      ((Criteria.normalize lookalike).coerce Entity.all[3]).asEntries).conditions,
      IsClosed c.value := by
    decide +kernel
  have hread := read_search (List.getElem_mem _) hprepare rfl rfl hclosed
  exact ⟨_, _, hprepare, rfl, rfl, hclosed, by decide +kernel, hread.2.1⟩

end BooksGateway.Reading
