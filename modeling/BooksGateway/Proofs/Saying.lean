import BooksGateway.Proofs.Coercion
import BooksGateway.Session.Search

/-!
# What criteria say

Each entry of criteria says something by itself: that it is not well formed, or a condition, a sort
order, a part of the window, that rows are counted, or that all pages are wanted. What a search
comes to hangs only on what its entries say, taken together.

* `Saying`: what one entry says;
* `Saying.combined`: what entries say together;
* `Search.plan_eq_combined`: a search comes to what its entries say together;
* `Saying.combined_of_perm`: sayings in another order come to the same.
-/

namespace BooksGateway

open Validation

/-! ## 1. What one entry says -/

/-- What an entry says in a search. -/
structure Saying where
  /-- What is wrong with it. -/
  fault : Option String
  /-- The condition that it sets. -/
  condition : Option Condition := none
  /-- The sort order that it asks for. -/
  sort : Option (Value × Direction) := none
  /-- The greatest number of rows. -/
  limit : Option Int := none
  /-- The number of rows to leave out. -/
  offset : Option Int := none
  /-- Whether it asks for the number of rows only. -/
  counts : Bool := false
  /-- Whether it wants all pages, if it says anything about that. -/
  pages : Option Bool := none

namespace Saying

/-- What a mapping says about the pages that are wanted. -/
def pagesOf? (entry : Fields) : Option Bool :=
  if Query.directiveOf? entry = some .fetchAll then some (Entry.value entry).isTruthy else none

/-- What a mapping says as an entry. -/
def ofFields (e : Entity) (entry : Fields) : Saying where
  fault := checkEntry e (.obj entry)
  condition := if Query.isFilter entry then some (Query.conditionOf entry) else none
  sort := Query.sortOf? entry
  limit := Query.boundOf? .limit entry
  offset := Query.boundOf? .offset entry
  counts := Query.asksForCount entry
  pages := pagesOf? entry

/-- What a value says as an entry. -/
def ofEntry (e : Entity) : Value → Saying
  | .obj entry => ofFields e entry
  | v => { fault := checkEntry e v }

/-- What an entry says when its value is turned into the kind of its field first. -/
def ofRaw (e : Entity) (v : Value) : Saying := ofEntry e (e.fields.coerceEntry v)

theorem fault_ofEntry (e : Entity) (v : Value) : (ofEntry e v).fault = checkEntry e v := by
  cases v <;> rfl

/-! ## 2. What entries say together -/

/-- The query that sayings add up to. -/
def queryOf (entity : String) (sayings : List Saying) : Query :=
  if sayings.any (·.counts) then { entity, countOnly := true }
  else
    { entity
      conditions := sayings.filterMap (·.condition)
      order := Query.latest (·.sort) sayings
      limit := Query.latest (·.limit) sayings
      offset := Query.latest (·.offset) sayings }

/-- Whether all pages are wanted: the last saying about it counts. -/
def wantsPages (sayings : List Saying) : Bool := (Query.latest (·.pages) sayings).getD false

/-- What sayings add up to: everything that is wrong, or a query and whether all pages are
    wanted. -/
def combined (entity : String) (sayings : List Saying) : Except Failure (Query × Bool) :=
  match sayings.filterMap (·.fault) with
  | [] => .ok (queryOf entity sayings, wantsPages sayings)
  | reasons => .error (.rejected reasons)

/-- What is said by mappings only is said by the mappings among entries. -/
theorem filterMap_ofEntry {β : Type} (e : Entity) (tells : Saying → Option β)
    (hother : ∀ fault, tells { fault } = none) (items : List Value) :
    (items.map (ofEntry e)).filterMap tells =
      (Query.mappings items).filterMap fun entry => tells (ofFields e entry) := by
  induction items with
  | nil => rfl
  | cons v rest ih =>
    rw [List.map_cons]
    cases v with
    | obj entry => rw [Query.mappings, List.filterMap_cons, List.filterMap_cons, ih]; rfl
    | _ => exact (List.filterMap_cons_none (hother _)).trans ih

theorem latest_ofEntry {β : Type} (e : Entity) (tells : Saying → Option β)
    (hother : ∀ fault, tells { fault } = none) (items : List Value) :
    Query.latest tells (items.map (ofEntry e)) =
      Query.latest (fun entry => tells (ofFields e entry)) (Query.mappings items) :=
  congrArg List.getLast? (filterMap_ofEntry e tells hother items)

theorem any_counts_ofEntry (e : Entity) (items : List Value) :
    (items.map (ofEntry e)).any (·.counts) = (Query.mappings items).any Query.asksForCount := by
  induction items with
  | nil => rfl
  | cons v rest ih =>
    rw [List.map_cons, List.any_cons, ih]
    cases v <;> rfl

theorem filterMap_ite {α β : Type} (p : α → Bool) (f : α → β) (l : List α) :
    (l.filterMap fun a => if p a then some (f a) else none) = (l.filter p).map f := by
  rw [← List.filterMap_eq_map', List.filterMap_filter]

theorem queryOf_ofEntry (e : Entity) (items : List Value) :
    queryOf e.name (items.map (ofEntry e)) = Query.assembled e.name items := by
  have hconditions : (items.map (ofEntry e)).filterMap (·.condition) =
      (Query.filters (Query.mappings items)).map Query.conditionOf := by
    rw [filterMap_ofEntry e _ fun _ => rfl]
    exact filterMap_ite _ _ _
  unfold queryOf Query.assembled Query.extended
  rw [any_counts_ofEntry, hconditions, latest_ofEntry e _ fun _ => rfl,
    latest_ofEntry e _ fun _ => rfl, latest_ofEntry e _ fun _ => rfl, Option.or_none,
    Option.or_none, Option.or_none]
  rfl

theorem wantsPages_ofEntry (e : Entity) (items : List Value) :
    wantsPages (items.map (ofEntry e)) = (Search.lastOf .fetchAll items).isTruthy := by
  have hlatest : Query.latest pagesOf? (Query.mappings items) =
      (((Query.mappings items).filter fun entry =>
        Query.directiveOf? entry == some Directive.fetchAll).getLast?).map
          fun entry => (Entry.value entry).isTruthy := by
    unfold Query.latest
    rw [← List.getLast?_map, ← filterMap_ite]
    congr 2
    funext entry
    unfold pagesOf?
    simp
  unfold wantsPages Search.lastOf
  rw [latest_ofEntry e _ fun _ => rfl]
  show (Query.latest pagesOf? _).getD false = _
  rw [hlatest]
  dsimp only
  cases ((Query.mappings items).filter fun entry =>
    Query.directiveOf? entry == some Directive.fetchAll).getLast? <;> rfl

end Saying

/-! ## 3. What a search comes to -/

/-- What a search comes to before access is sought: why its criteria are turned down, or its query
    and whether all pages are wanted. -/
def Search.plan (e : Entity) (raw : Value) : Except Failure (Query × Bool) := do
  let criteria ← Query.prepare e raw
  let q ← Query.ofCriteria e.name criteria
  return (q, (Search.lastOf .fetchAll criteria.asEntries).isTruthy)

/-- **A search comes to what the entries of its criteria say together.** -/
theorem Search.plan_eq_combined (e : Entity) (raw : Value) :
    Search.plan e raw =
      Saying.combined e.name ((Criteria.normalize raw).asEntries.map (Saying.ofRaw e)) := by
  -- both sides speak of the entries after coercion, which leaves equalities what they are
  have hentries := Criteria.asEntries_coerce (Criteria.hasFreeKeys_normalize raw) e
  have hsayings : (Criteria.normalize raw).asEntries.map (Saying.ofRaw e) =
      ((Criteria.normalize raw).coerce e).asEntries.map (Saying.ofEntry e) := by
    rw [hentries, List.map_map]
    rfl
  have hreasons : (((Criteria.normalize raw).coerce e).asEntries.map
      (Saying.ofEntry e)).filterMap (·.fault) =
        reasons e ((Criteria.normalize raw).coerce e) := by
    rw [List.filterMap_map]
    unfold reasons
    congr 1
    funext v
    exact Saying.fault_ofEntry e v
  rw [hsayings, Saying.combined, hreasons]
  cases hfound : reasons e ((Criteria.normalize raw).coerce e) with
  | nil =>
    have hprepare : Query.prepare e raw = .ok ((Criteria.normalize raw).coerce e) :=
      prepare_eq_ok.mpr ⟨rfl, reasons_eq_nil.mp hfound⟩
    obtain ⟨_, hquery⟩ := Query.prepare_spec hprepare
    unfold Search.plan
    rw [hprepare, Saying.queryOf_ofEntry, Saying.wantsPages_ofEntry]
    show (do let q ← Query.ofCriteria e.name _; return _) = _
    rw [hquery]
    rfl
  | cons reason more =>
    unfold Search.plan
    rw [prepare_eq, check, hfound]
    rfl

/-! ## 4. Sayings in another order -/

namespace Saying

/-- Two outcomes of criteria are alike when both are accepted with the same query and the same
    decision about pages, or both are turned down for the same reasons in some order. -/
inductive Alike : Except Failure (Query × Bool) → Except Failure (Query × Bool) → Prop
  | accepted (result : Query × Bool) : Alike (.ok result) (.ok result)
  | rejected {reasons others : List String} (h : reasons.Perm others) :
      Alike (.error (.rejected reasons)) (.error (.rejected others))

/-- Sayings of which at most one tells each part of the window, the sort order, and whether all
    pages are wanted. -/
structure SaysOnce (sayings : List Saying) : Prop where
  /-- The sort order. -/
  sort : (sayings.filterMap (·.sort)).length ≤ 1
  /-- The greatest number of rows. -/
  limit : (sayings.filterMap (·.limit)).length ≤ 1
  /-- The number of rows to leave out. -/
  offset : (sayings.filterMap (·.offset)).length ≤ 1
  /-- Whether all pages are wanted. -/
  pages : (sayings.filterMap (·.pages)).length ≤ 1

/-- What is told at most once does not hang on the order. -/
theorem latest_of_perm {α β : Type} {tells : α → Option β} {l other : List α}
    (hperm : l.Perm other) (honce : (other.filterMap tells).length ≤ 1) :
    Query.latest tells l = Query.latest tells other := by
  have htold := hperm.filterMap tells
  unfold Query.latest
  cases hother : other.filterMap tells with
  | nil =>
    rw [hother] at htold
    rw [htold.eq_nil]
  | cons x more =>
    rw [hother] at htold honce
    have hmore : more = [] := List.length_eq_zero_iff.mp (by simpa using honce)
    rw [hmore] at htold ⊢
    rw [List.perm_singleton.mp htold]

theorem any_of_perm {α : Type} {p : α → Bool} {l other : List α} (h : l.Perm other) :
    l.any p = other.any p := by
  rw [Bool.eq_iff_iff, List.any_eq_true, List.any_eq_true]
  simp only [h.mem_iff]

/-- **Sayings in another order come to the same**, as long as the conditions keep their order and
    nothing else is told twice. -/
theorem combined_of_perm (entity : String) {l other : List Saying} (hperm : l.Perm other)
    (hconditions : l.filterMap (·.condition) = other.filterMap (·.condition))
    (honce : SaysOnce other) :
    Alike (combined entity l) (combined entity other) := by
  have hquery : queryOf entity l = queryOf entity other := by
    unfold queryOf
    rw [any_of_perm hperm, hconditions, latest_of_perm hperm honce.sort,
      latest_of_perm hperm honce.limit, latest_of_perm hperm honce.offset]
  have hpages : wantsPages l = wantsPages other := by
    unfold wantsPages
    rw [latest_of_perm hperm honce.pages]
  have hfaults := hperm.filterMap (·.fault)
  unfold combined
  cases hother : other.filterMap (·.fault) with
  | nil =>
    rw [hother] at hfaults
    rw [hfaults.eq_nil, hquery, hpages]
    exact .accepted _
  | cons reason more =>
    rw [hother] at hfaults
    cases hl : l.filterMap (·.fault) with
    | nil =>
      rw [hl] at hfaults
      cases hfaults.symm.eq_nil
    | cons => exact .rejected (hl ▸ hfaults)

end Saying

end BooksGateway
