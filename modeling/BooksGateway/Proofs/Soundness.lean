import BooksGateway.Proofs.Assembly
import BooksGateway.Proofs.Wholes

/-!
# Searches compile soundly

A search by a name and raw criteria is turned down with reasons, or it becomes a query in which
everything is in order. The text of such a query can be written, but for whole numbers that are too
long.

* `Condition.IsSound`: a condition reads as field, operator and literal, and the literal is of the
  form that the kind of the field and the operator ask for;
* `Query.IsSound`: the conditions, the sort order and the window of a query are in order;
* `Query.isWritable_iff`: when the whole numbers in a query in order can be written;
* `search_sound`: what comes of a search before anything is sent.
-/

namespace BooksGateway

open Validation

/-! ## 1. Literals -/

namespace Literal

/-- **The escaped form of a text**: a backslash stands before every single quote, and every other
    character stands for itself. -/
inductive Escapes : List Char → List Char → Prop where
  /-- Nothing is left. -/
  | nil : Escapes [] []
  /-- A quote. -/
  | quote {cs inside : List Char} (h : Escapes cs inside) :
      Escapes ('\'' :: cs) ('\\' :: '\'' :: inside)
  /-- Any other character. -/
  | other {c : Char} {cs inside : List Char} (hc : c ≠ '\'') (h : Escapes cs inside) :
      Escapes (c :: cs) (c :: inside)

/-- Texts that stand for one value of a kind: for texts and dates the escaped form between single
    quotes, bare for numbers and truth values. -/
inductive IsSingle : FieldKind → String → Prop where
  /-- A quoted text. -/
  | text {cs inside : List Char} (h : Escapes cs inside) :
      IsSingle .text (String.ofList ('\'' :: inside ++ ['\'']))
  /-- A quoted date. -/
  | date {cs inside : List Char} (h : Escapes cs inside) :
      IsSingle .date (String.ofList ('\'' :: inside ++ ['\'']))
  /-- A whole number. -/
  | whole (n : Int) : IsSingle .number (toString n)
  /-- A floating-point number. -/
  | decimal (x : Binary64) : IsSingle .number (Value.floatText x)
  /-- A truth value. -/
  | flag (b : Bool) : IsSingle .flag (if b then "true" else "false")

/-- Texts that stand for what an operator compares with: a list in parentheses with at least one
    item where the operator compares with a list, and a single value otherwise. -/
inductive IsFor (kind : FieldKind) : (operator : String) → String → Prop where
  /-- A list of values. -/
  | items {parts : List String} (hne : parts ≠ []) (h : ∀ part ∈ parts, IsSingle kind part) :
      IsFor kind listOperator ("(" ++ Value.joined ", " parts ++ ")")
  /-- A single value. -/
  | single {operator text : String} (hop : operator ≠ listOperator) (h : IsSingle kind text) :
      IsFor kind operator text

/-- Quoting writes the escaped form. -/
theorem escapes_flatMap (cs : List Char) : Escapes cs (cs.flatMap quotedChar) := by
  induction cs with
  | nil => exact .nil
  | cons c rest ih =>
    rw [List.flatMap_cons, quotedChar]
    by_cases hc : c = '\''
    · rw [if_pos hc, hc]
      exact .quote ih
    · rw [if_neg hc]
      exact .other hc ih

theorem renderAll_eq_map (items : List Value) : renderAll items = items.map render := by
  induction items with
  | nil => rfl
  | cons v rest ih => rw [renderAll, ih, List.map_cons]

theorem isSingle_render {kind : FieldKind} {v : Value} (h : IsOfKind kind v) :
    IsSingle kind (render v) := by
  cases h with
  | text s =>
    rw [render, quote]
    exact .text (escapes_flatMap s.toList)
  | date s =>
    rw [render, quote]
    exact .date (escapes_flatMap s.toList)
  | whole n =>
    rw [render]
    exact .whole n
  | decimal x =>
    rw [render]
    exact .decimal x
  | flag b =>
    rw [render]
    exact .flag b

/-- What fits an operator and a kind is rendered in the form for both. -/
theorem isFor_render {kind : FieldKind} {operator : String} {v : Value}
    (h : Fits kind operator v) : IsFor kind operator (render v) := by
  cases h with
  | @items items hne hkind =>
    rw [render, renderAll_eq_map]
    refine .items (fun hmap => hne (List.map_eq_nil_iff.mp hmap)) fun part hpart => ?_
    obtain ⟨v, hv, rfl⟩ := List.mem_map.mp hpart
    exact isSingle_render (hkind v hv)
  | single hop hkind => exact .single hop (isSingle_render hkind)

end Literal

/-! ## 2. Queries in order -/

/-- **A condition in order**: it reads as field, operator and literal, with spaces between; rows can
    be chosen by the field, there is such an operator, and the literal is of the form for both. -/
def Condition.IsSound (e : Entity) (c : Condition) : Prop :=
  ∃ name spec operator literal,
    c.render = name ++ " " ++ operator ++ " " ++ literal ∧
    e.fields.find? name = some spec ∧ spec.filterable = true ∧
    operator ∈ operators ∧ Literal.IsFor spec.kind operator literal

/-- **A query for rows in order.** -/
structure Query.IsSound (e : Entity) (q : Query) : Prop where
  /-- It is about the entity. -/
  entity : q.entity = e.name
  /-- Its conditions are in order. -/
  conditions : ∀ c ∈ q.conditions, c.IsSound e
  /-- Rows can be sorted by the field of its sort order. -/
  order : ∀ field direction, q.order = some (field, direction) →
    ∃ name ∈ e.sortable, field = .str name
  /-- Its bound is one that the server takes. -/
  limit : ∀ n, q.limit = some n → 0 ≤ n ∧ n ≤ maxPageSize
  /-- It leaves out a number of rows. -/
  offset : ∀ n, q.offset = some n → 0 ≤ n

theorem Condition.isSound_of_fits {e : Entity} {entry : Fields} {name : String} {spec : FieldSpec}
    {operator : String} (h : FilterFits e entry name spec operator) :
    (Query.conditionOf entry).IsSound e := by
  refine ⟨name, spec, operator, Literal.render (Entry.value entry), ?_, h.known, h.filterable,
    h.operator_mem, Literal.isFor_render h.value⟩
  simp only [Query.conditionOf, Condition.render, h.field, h.operator_eq, Value.display]

namespace Query

variable {e : Entity} {entries : List Fields}

theorem fits_of_mem_filters (h : ∀ entry ∈ entries, WellFormed e (.obj entry)) {entry : Fields}
    (hmem : entry ∈ filters entries) :
    ∃ name spec operator, FilterFits e entry name spec operator := by
  obtain ⟨hentry, hfilter⟩ := List.mem_filter.mp hmem
  cases h entry hentry with
  | directive hd _ => simp [isFilter, hd] at hfilter
  | filter hfits => exact ⟨_, _, _, hfits⟩

theorem directiveFits_of_mem (h : ∀ entry ∈ entries, WellFormed e (.obj entry)) {entry : Fields}
    (hmem : entry ∈ entries) {d : Directive} (hd : directiveOf? entry = some d) :
    DirectiveFits e d (Entry.value entry) := by
  cases h entry hmem with
  | directive hd' hv =>
    rw [hd] at hd'
    cases hd'
    exact hv
  | filter hfits =>
    rw [hfits.directiveOf?] at hd
    cases hd

theorem sort_fits (h : ∀ entry ∈ entries, WellFormed e (.obj entry)) {field : Value}
    {direction : Direction} (hsort : latest sortOf? entries = some (field, direction)) :
    ∃ name ∈ e.sortable, field = .str name := by
  obtain ⟨entry, hmem, htells⟩ := exists_of_latest hsort
  unfold sortOf? at htells
  split at htells
  · rename_i hd
    cases htells
    exact (directiveFits_of_mem h hmem hd).sort (Or.inl rfl)
  · rename_i hd
    cases htells
    exact (directiveFits_of_mem h hmem hd).sort (Or.inr rfl)
  · cases htells

theorem bound_fits (h : ∀ entry ∈ entries, WellFormed e (.obj entry)) {d : Directive} {n : Int}
    (hbound : latest (boundOf? d) entries = some n) : DirectiveFits e d (.int n) := by
  obtain ⟨entry, hmem, htells⟩ := exists_of_latest hbound
  unfold boundOf? at htells
  split at htells
  · rename_i hd
    have hfits := directiveFits_of_mem h hmem hd
    split at htells
    · rename_i hv
      cases htells
      rwa [hv] at hfits
    · cases htells
  · cases htells

theorem nonneg_of_bound (h : ∀ entry ∈ entries, WellFormed e (.obj entry)) {d : Directive} {n : Int}
    (hd : d = .limit ∨ d = .offset) (hbound : latest (boundOf? d) entries = some n) : 0 ≤ n := by
  obtain ⟨m, hm, h0⟩ := (bound_fits h hbound).bound hd
  cases hm
  exact h0

/-- **What well-formed entries add up to is in order.** -/
theorem isSound_extended (h : ∀ entry ∈ entries, WellFormed e (.obj entry)) :
    (extended { entity := e.name } entries).IsSound e where
  entity := rfl
  conditions := by
    intro c hc
    simp only [extended, List.nil_append] at hc
    obtain ⟨entry, hentry, rfl⟩ := List.mem_map.mp hc
    obtain ⟨_, _, _, hfits⟩ := fits_of_mem_filters h hentry
    exact Condition.isSound_of_fits hfits
  order := by
    intro field direction horder
    simp only [extended, Option.or_none] at horder
    exact sort_fits h horder
  limit := by
    intro n hn
    simp only [extended, Option.or_none] at hn
    exact ⟨nonneg_of_bound h (Or.inl rfl) hn, (bound_fits h hn).limit_le⟩
  offset := by
    intro n hn
    simp only [extended, Option.or_none] at hn
    exact nonneg_of_bound h (Or.inr rfl) hn

end Query

/-! ## 3. Texts of queries -/

namespace Statement

theorem whereClause_cons (part : String) (rest : List String) :
    whereClause (part :: rest) = " WHERE " ++ Value.joined " AND " (part :: rest) := rfl

theorem orderClause_some (field direction : String) :
    orderClause (some (field, direction)) = " ORDER BY " ++ field ++ " " ++ direction := rfl

theorem limitClause_some (number : String) :
    limitClause (some number) = " MAXRESULTS " ++ number := rfl

theorem firstClause_some (number : String) :
    firstClause (some number) = " STARTPOSITION " ++ number := rfl

theorem render_rows {s : Statement} (h : s.countOnly = false) :
    s.render = "SELECT * FROM " ++ s.entity ++ whereClause s.conditions ++ orderClause s.order
      ++ limitClause s.limit ++ firstClause s.first := if_neg (Bool.eq_false_iff.mp h)

end Statement

namespace Query

theorem shownLimit_of_limit {q : Query} {n : Int} (h : q.limit = some n) :
    q.shownLimit = if n = 0 then none else some n := by
  unfold shownLimit
  rw [h]
  by_cases hz : n = 0 <;> simp [Option.filter, hz]

theorem shownFirst_of_offset {q : Query} {n : Int} (h : q.offset = some n) :
    q.shownFirst = if n = 0 then none else some (n + 1) := by
  unfold shownFirst
  rw [h]
  by_cases hz : n = 0 <;> simp [Option.filter, hz]

theorem writable_order {e : Entity} {q : Query} (h : q.IsSound e) :
    q.order.all (fun sort => sort.1.isWritable) = true := by
  cases hq : q.order with
  | none => rfl
  | some sort =>
    obtain ⟨name, _, hname⟩ := h.order sort.1 sort.2 hq
    rw [Option.all_some, hname]
    exact Value.isWritable_iff.mpr (Value.hasShortWholes_str name)

theorem writable_limit {e : Entity} {q : Query} (h : q.IsSound e) :
    q.shownLimit.all Numeral.isWritable = true := by
  cases hq : q.limit with
  | none =>
    unfold shownLimit
    rw [hq]
    rfl
  | some n =>
    rw [shownLimit_of_limit hq]
    by_cases hz : n = 0
    · rw [if_pos hz]
      rfl
    · obtain ⟨h0, h1⟩ := h.limit n hq
      obtain ⟨m, rfl⟩ := Int.eq_ofNat_of_zero_le h0
      rw [if_neg hz, Option.all_some]
      exact Numeral.isWritable_iff.mpr (Numeral.lt_writeLimit (Int.ofNat_le.mp h1))

/-- The first row that is shown can be written iff the position after the offset can. -/
theorem writable_first_iff {e : Entity} {q : Query} (h : q.IsSound e) :
    q.shownFirst.all Numeral.isWritable = true ↔
      ∀ n, q.offset = some n → n + 1 < (Numeral.writeLimit : Int) := by
  have hone := Numeral.lt_writeLimit (show 1 ≤ 1000 by decide)
  cases hq : q.offset with
  | none =>
    unfold shownFirst
    rw [hq]
    exact iff_of_true rfl nofun
  | some n =>
    have h0 := h.offset n hq
    rw [shownFirst_of_offset hq]
    by_cases hz : n = 0
    · rw [if_pos hz]
      refine iff_of_true rfl ?_
      rintro _ ⟨⟩
      omega
    · rw [if_neg hz, Option.all_some, Numeral.isWritable_iff]
      unfold Numeral.IsShort
      constructor
      · rintro hshort _ ⟨⟩
        omega
      · intro hshort
        have := hshort n rfl
        omega

/-- **When the whole numbers in a query in order can be written**: it counts rows, or those in its
    conditions can, and so can the position after its offset. -/
theorem isWritable_iff {e : Entity} {q : Query} (h : q.IsSound e) :
    q.isWritable = true ↔
      q.countOnly = true ∨ (∀ c ∈ q.conditions, c.HasShortWholes) ∧
        ∀ n, q.offset = some n → n + 1 < (Numeral.writeLimit : Int) := by
  rw [isWritable, Bool.or_eq_true, Bool.and_eq_true, writable_limit h, writable_order h,
    Bool.and_true, Bool.and_true, writable_first_iff h, List.all_eq_true]
  simp only [Condition.isWritable_iff]

/-- The text of a query in order can be written, but for whole numbers in its conditions or an
    offset that are too long. -/
theorem text_of_isSound {e : Entity} {q : Query} (h : q.IsSound e) :
    q.text = .ok q.render ∨
      q.text = .error .unwritableWhole ∧
        ((∃ n, q.offset = some n ∧ (Numeral.writeLimit : Int) ≤ n + 1) ∨
          ∃ c ∈ q.conditions, ¬ c.HasShortWholes) := by
  by_cases hw : q.isWritable = true
  · exact Or.inl (if_pos hw)
  · refine Or.inr ⟨if_neg hw, ?_⟩
    by_cases hconditions : ∀ c ∈ q.conditions, c.HasShortWholes
    · have hoffset : ¬ ∀ n, q.offset = some n → n + 1 < (Numeral.writeLimit : Int) :=
        fun hoffset => hw ((isWritable_iff h).mpr (.inr ⟨hconditions, hoffset⟩))
      simp only [Classical.not_forall, exists_prop, Int.not_lt] at hoffset
      exact Or.inl hoffset
    · simp only [Classical.not_forall, exists_prop] at hconditions
      exact Or.inr hconditions

end Query

/-! ## 4. Searches -/

/-- **Searches compile soundly.** A text and raw criteria are turned down, because of the name or
    because of the criteria, or they become a query. The query can be written, unless its offset or
    a whole number in its conditions is too long to be; and it counts rows, or everything in it is
    in order. -/
theorem search_sound (name : String) (raw : Value) :
    (∃ reasons, Entity.get (.str name) = .error (.rejected reasons)) ∨
      ∃ e ∈ Entity.all, Entity.get (.str name) = .ok e ∧
        ((∃ reasons, Query.prepare e raw = .error (.rejected reasons)) ∨
          ∃ criteria q, Query.prepare e raw = .ok criteria ∧
            Query.ofCriteria e.name criteria = .ok q ∧
            (q.text = .ok q.render ∨
              q.text = .error .unwritableWhole ∧
                ((∃ n, q.offset = some n ∧ (Numeral.writeLimit : Int) ≤ n + 1) ∨
                  ∃ c ∈ q.conditions, ¬ c.HasShortWholes)) ∧
            (q.countOnly = true ∨ q.IsSound e)) := by
  rcases Entity.get_text_cases name with hget | ⟨e, he, hget⟩
  · exact Or.inl hget
  refine Or.inr ⟨e, he, hget, ?_⟩
  rcases prepare_cases e raw with hprepare | ⟨criteria, hprepare⟩
  · exact Or.inl hprepare
  obtain ⟨hvalid, hquery⟩ := Query.prepare_spec hprepare
  refine Or.inr ⟨criteria, _, hprepare, hquery, ?_⟩
  unfold Query.assembled
  by_cases hcount : (Query.mappings criteria.asEntries).any Query.asksForCount = true
  · rw [if_pos hcount]
    exact ⟨Or.inl rfl, Or.inl rfl⟩
  · rw [if_neg hcount]
    have hsound := Query.isSound_extended (Query.wellFormed_of_mappings hvalid)
    exact ⟨Query.text_of_isSound hsound, Or.inr hsound⟩

end BooksGateway
