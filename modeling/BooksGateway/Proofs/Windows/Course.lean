import BooksGateway.Proofs.Paging
import Mathlib.Data.List.Forall2

/-!
# The course of a search for all pages

Pages are requested one after another, as long as the last one is full, one more is allowed, and its
request can be made. A failure that is delivered ends the search, and so does a request that is due
and cannot be made.

* `IsPage`: a delivery that is a page with rows;
* `Course`: the requests that are sent, and what becomes of them;
* `Course.unmade`, `Course.short`, `Course.broken`, `Course.cons`: how a search goes, page by page.
-/

namespace BooksGateway

/-! ## 1. Requests and what is delivered for them -/

/-- What is delivered for requests that are sent one after another. -/
def Server.deliveries {σ : Type} (server : Server σ) : List Request → σ → List Delivery
  | [], _ => []
  | request :: rest, state =>
    (server.handle request state).1 :: server.deliveries rest (server.handle request state).2

/-- The text of the query that a request carries. -/
def Request.queryText (request : Request) : String :=
  match Fields.get? request.params "query" with
  | some (.str text) => text
  | _ => ""

namespace Search

open Validation

variable {σ : Type}

/-- A delivery that is a page with rows of an entity. -/
def IsPage (e : Entity) (d : Delivery) (rows : List Value) : Prop :=
  ∃ data, d.result = .ok data ∧ Holds e data rows

/-- A delivery, if there is one, that is a page with at least `size` rows. -/
def IsFullPage (e : Entity) (size : Nat) (d : Option Delivery) : Prop :=
  ∃ page rows, d = some page ∧ IsPage e page rows ∧ size ≤ rows.length

/-- A server that answers everything by a page of any length or by a failure. -/
def AnswersByPages (server : Server σ) (e : Entity) : Prop :=
  ∀ (request : Request) (state : σ),
    (∃ rows, IsPage e (server.handle request state).1 rows) ∨
      ∃ f, (server.handle request state).1.result = .error f

/-- A server that answers the queries among the requests so; it does anything with the others. -/
def AnswersQueries (server : Server σ) (e : Entity) : Prop :=
  ∀ (request : Request) (state : σ) (text : String),
    Fields.get? request.params "query" = some (.str text) →
      (∃ rows, IsPage e (server.handle request state).1 rows) ∨
        ∃ f, (server.handle request state).1.result = .error f

theorem AnswersByPages.queries {server : Server σ} {e : Entity} (h : AnswersByPages server e) :
    AnswersQueries server e :=
  fun request state _ _ => h request state

/-- The rows in a delivery, or why there are none. -/
def batchOf (e : Entity) (d : Delivery) : Except Failure (List Value) := do
  let data ← d.result
  Failure.ofMisuse (do (← rowsOf e data).elements)

theorem batchOf_page {e : Entity} {d : Delivery} {rows : List Value} (h : IsPage e d rows) :
    batchOf e d = .ok rows := by
  obtain ⟨data, hresult, hholds⟩ := h
  unfold batchOf
  rw [hresult]
  show Failure.ofMisuse (do (← rowsOf e data).elements) = _
  rw [batch_of_holds hholds]
  rfl

theorem batchOf_failure {e : Entity} {d : Delivery} {f : Failure} (h : d.result = .error f) :
    batchOf e d = .error f := by
  unfold batchOf
  rw [h]
  rfl

/-- A page is no failure. -/
theorem IsPage.result_ne_error {e : Entity} {d : Delivery} {rows : List Value} (h : IsPage e d rows)
    (f : Failure) : d.result ≠ .error f := by
  obtain ⟨data, hdata, _⟩ := h
  rw [hdata]
  exact nofun

theorem isPage_unique {e : Entity} {d : Delivery} {rows others : List Value}
    (h : IsPage e d rows) (hothers : IsPage e d others) : rows = others := by
  have heq := batchOf_page h
  rw [batchOf_page hothers] at heq
  cases heq
  rfl

/-! ## 2. The course of a search for all pages -/

/-- **How a search for all pages goes.** `page k` is the request for the page with the number `k`,
    or why it cannot be made; `requests` are the requests that are sent, from a state of the server
    on, when at most `cap` pages are allowed. -/
structure Course (server : Server σ) (e : Entity) (size : Nat)
    (page : Nat → Except Failure Request) (cap : Nat) (state : σ) (requests : List Request)
    (outcome : Except Failure Pages) : Prop where
  /-- Every request is that of its page. -/
  request : ∀ k r, requests[k]? = some r → page k = .ok r
  /-- There are not more of them than pages that are allowed. -/
  within : requests.length ≤ cap
  /-- The first one is sent if it can be made and a page is allowed. -/
  first : 0 < requests.length ↔ 0 < cap ∧ ∃ r, page 0 = .ok r
  /-- One more is sent iff the page before it is full, and it is allowed and can be made. -/
  next : ∀ k, k + 1 < requests.length ↔
    IsFullPage e size (server.deliveries requests state)[k]? ∧ k + 1 < cap ∧
      ∃ r, page (k + 1) = .ok r
  /-- A failure that is delivered is the outcome. -/
  failed : ∀ d ∈ server.deliveries requests state, ∀ f, d.result = .error f → outcome = .error f
  /-- A request that is due and cannot be made ends the search, with the reason. -/
  stuck : ∀ f, requests.length < cap →
    (∀ k, k + 1 = requests.length → IsFullPage e size (server.deliveries requests state)[k]?) →
      page requests.length = .error f → outcome = .error f
  /-- The rows of the pages are the outcome when the last page is short or no more are allowed. -/
  gathered : ∀ batches, List.Forall₂ (IsPage e) (server.deliveries requests state) batches →
    (requests.length = cap ∨ ∃ rows, batches.getLast? = some rows ∧ rows.length < size) →
      outcome = .ok ⟨batches.flatten, requests.map Request.queryText⟩

namespace Course

variable {server : Server σ} {e : Entity} {size : Nat} {page : Nat → Except Failure Request}
  {state : σ}

/-- No page is allowed. -/
theorem none_allowed : Course server e size page 0 state [] (.ok ⟨[], []⟩) where
  request k r h := by cases h
  within := Nat.le_refl 0
  first := by simp
  next k := by simp
  failed d h := absurd h List.not_mem_nil
  stuck f h := absurd h (Nat.lt_irrefl 0)
  gathered batches h _ := by
    cases h
    rfl

/-- The first request cannot be made. -/
theorem unmade {f : Failure} (h : page 0 = .error f) (cap : Nat) :
    Course server e size page (cap + 1) state [] (.error f) where
  request k r h := by cases h
  within := Nat.zero_le _
  first := by simp [h]
  next k := by simp [IsFullPage, Server.deliveries]
  failed d h := absurd h List.not_mem_nil
  stuck g _ _ hg := by
    rw [List.length_nil, h] at hg
    cases hg
    rfl
  gathered batches hpages hend := by
    cases hpages
    rcases hend with hend | ⟨rows, hrows, _⟩
    · cases hend
    · cases hrows

/-- The first request ends the search. -/
theorem single {request : Request} (hpage : page 0 = .ok request) (cap : Nat)
    {outcome : Except Failure Pages}
    (hlast : ¬ IsFullPage e size (some (server.handle request state).1))
    (hfailed : ∀ f, (server.handle request state).1.result = .error f → outcome = .error f)
    (hrows : ∀ rows, IsPage e (server.handle request state).1 rows →
      outcome = .ok ⟨rows, [request.queryText]⟩) :
    Course server e size page (cap + 1) state [request] outcome where
  request k r h := by
    cases k with
    | zero =>
      cases h
      exact hpage
    | succ k => cases h
  within := Nat.succ_le_succ (Nat.zero_le cap)
  first := by simp [hpage]
  next k := by
    cases k with
    | zero => simpa [Server.deliveries] using fun h => absurd h hlast
    | succ k => simp [Server.deliveries, IsFullPage]
  failed d hd := by
    rw [Server.deliveries, Server.deliveries, List.mem_singleton] at hd
    rw [hd]
    exact hfailed
  stuck f _ hfull := absurd (hfull 0 rfl) hlast
  gathered batches hpages _ := by
    cases hpages with
    | cons hfirst hrest =>
      cases hrest
      rw [hrows _ hfirst]
      simp

/-- The first page is short. -/
theorem short {request : Request} (hpage : page 0 = .ok request) (cap : Nat) {rows : List Value}
    (hrows : IsPage e (server.handle request state).1 rows) (hshort : rows.length < size) :
    Course server e size page (cap + 1) state [request] (.ok ⟨rows, [request.queryText]⟩) := by
  refine .single hpage cap ?_ (fun f hf => absurd hf (hrows.result_ne_error f))
    fun others hothers => ?_
  · rintro ⟨_, others, hsame, hothers, hfull⟩
    obtain rfl := Option.some.inj hsame
    obtain rfl := isPage_unique hrows hothers
    omega
  · rw [isPage_unique hrows hothers]

/-- A failure is delivered for the first request. -/
theorem broken {request : Request} (hpage : page 0 = .ok request) (cap : Nat) {f : Failure}
    (hfailure : (server.handle request state).1.result = .error f) :
    Course server e size page (cap + 1) state [request] (.error f) := by
  refine .single hpage cap ?_ (fun g hg => ?_) fun rows hrows =>
    absurd hfailure (hrows.result_ne_error f)
  · rintro ⟨_, rows, hsame, hrows, _⟩
    obtain rfl := Option.some.inj hsame
    exact hrows.result_ne_error f hfailure
  · rw [hfailure] at hg
    rw [Except.error.inj hg]

/-- After a full page the search goes on as one of its own. -/
theorem cons {request : Request} (hpage : page 0 = .ok request) {rows : List Value}
    (hrows : IsPage e (server.handle request state).1 rows) (hfull : size ≤ rows.length) {cap : Nat}
    {requests : List Request} {more : Except Failure Pages}
    (h : Course server e size (fun k => page (k + 1)) cap (server.handle request state).2 requests
      more) :
    Course server e size page (cap + 1) state (request :: requests)
      (more.map fun pages => ⟨rows ++ pages.rows, request.queryText :: pages.queries⟩) where
  request k r hr := by
    cases k with
    | zero =>
      cases hr
      exact hpage
    | succ k => exact h.request k r hr
  within := Nat.succ_le_succ h.within
  first := by simp [hpage]
  next k := by
    cases k with
    | zero =>
      have hpagefull : IsFullPage e size (some (server.handle request state).1) :=
        ⟨_, rows, rfl, hrows, hfull⟩
      have hfirst := h.first
      simp only [List.length_cons, Server.deliveries, List.getElem?_cons_zero, hpagefull, true_and,
        Nat.add_lt_add_iff_right]
      exact hfirst
    | succ k =>
      have hnext := h.next k
      simp only [List.length_cons, Server.deliveries, List.getElem?_cons_succ,
        Nat.add_lt_add_iff_right]
      exact hnext
  failed d hd f hf := by
    rw [Server.deliveries] at hd
    rcases List.mem_cons.mp hd with rfl | hd
    · exact absurd hf (hrows.result_ne_error f)
    · rw [h.failed d hd f hf]
      rfl
  stuck f hlength hfull hf := by
    have hmore : more = .error f := by
      refine h.stuck f (Nat.lt_of_succ_lt_succ hlength) (fun k hk => ?_) hf
      exact hfull (k + 1) (congrArg Nat.succ hk)
    rw [hmore]
    rfl
  gathered batches hpages hend := by
    cases hpages with
    | @cons _ batch _ rest hfirst hrest =>
      obtain rfl := isPage_unique hrows hfirst
      have hmore : more = .ok ⟨rest.flatten, requests.map Request.queryText⟩ := by
        refine h.gathered rest hrest ?_
        rcases hend with hend | ⟨last, hlast, hshort⟩
        · exact Or.inl (Nat.succ.inj hend)
        · refine Or.inr ⟨last, ?_, hshort⟩
          -- without more pages the short one would be this one, which is full
          cases rest with
          | nil =>
            obtain rfl : rows = last := Option.some.inj hlast
            omega
          | cons => exact hlast
      rw [hmore]
      rfl

end Course

end Search

end BooksGateway
