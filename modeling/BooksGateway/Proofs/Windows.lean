import BooksGateway.Proofs.Windows.Course

/-!
# The windows of a search for all pages

Whatever a server answers, a search for all pages asks one query in one window after another: the
conditions and the sort order stay, only the window moves. It goes on while pages are full, the cap
allows it and the next window can be written; a failure ends it.

* `execute_fetchPages_succ`: what fetching one page does;
* `course_fetchPages`: what fetching page by page does, from any offset on;
* `run_fetchAll_windows`: a search for all pages takes this course.
-/

namespace BooksGateway.Search

open Validation

variable {σ : Type}

/-! ## 1. The requests for the pages of a search -/

/-- The request for the text of a query, or why it cannot be made. -/
def queryRequest (settings : Settings) (access : Access) (sandbox : Option Bool) (text : String) :
    Except Failure Request := do
  let company ← access.realm.shown
  let timeout ← settings.timeout
  return {
    method := "GET"
    url := Inquiry.host settings sandbox ++ "/v3/company/" ++ company ++ "/query"
    headers := [("Authorization", authorization access.token), ("Accept", "application/json")]
    params := [("query", .str text), ("minorversion", .str settings.minorVersion)]
    body := .null
    timeout }

theorem request_query (settings : Settings) (access : Access) (sandbox : Option Bool)
    (text : String) :
    Inquiry.request settings access sandbox
        { method := "GET", path := "/query", params := [("query", .str text)] } =
      queryRequest settings access sandbox text := by
  have hmethod : Text.upper "GET" = "GET" := rfl
  have hpath : Inquiry.rooted ("/query" ++ "") = "/query" := rfl
  have hbody : Inquiry.bodyMethods.contains "GET" = false := rfl
  have hobject : (Value.str "").shown = .ok "" := rfl
  unfold Inquiry.request queryRequest
  simp only [hmethod, hobject, hbody, bind, Except.bind, hpath]
  rfl

/-- When the request can be made: the company and the time to wait can be read. -/
theorem queryRequest_isOk {settings : Settings} {access : Access} {sandbox : Option Bool}
    {text : String} :
    (∃ request, queryRequest settings access sandbox text = .ok request) ↔
      access.realm.HasShortWholes ∧ ∃ seconds, settings.timeout = .ok seconds := by
  unfold queryRequest
  by_cases hcompany : access.realm.HasShortWholes
  · rw [Value.shown_of_short hcompany]
    cases settings.timeout <;> simp [hcompany, bind, Except.bind, pure, Except.pure]
  · rw [Value.shown_of_not_short hcompany]
    simp [hcompany, bind, Except.bind]

/-- Why the request cannot be made. -/
theorem error_of_queryRequest {settings : Settings} {access : Access} {sandbox : Option Bool}
    {text : String} {f : Failure} (h : queryRequest settings access sandbox text = .error f) :
    f = .unwritableWhole ∨ settings.timeout = .error f := by
  unfold queryRequest at h
  by_cases hcompany : access.realm.HasShortWholes
  · rw [Value.shown_of_short hcompany] at h
    cases htimeout : settings.timeout with
    | ok seconds =>
      rw [htimeout] at h
      cases h
    | error g =>
      rw [htimeout] at h
      cases h
      exact Or.inr rfl
  · rw [Value.shown_of_not_short hcompany] at h
    cases h
    exact Or.inl rfl

/-- The request carries the text. -/
theorem query_of_queryRequest {settings : Settings} {access : Access} {sandbox : Option Bool}
    {text : String} {request : Request}
    (h : queryRequest settings access sandbox text = .ok request) :
    Fields.get? request.params "query" = some (.str text) := by
  obtain ⟨company, _, h⟩ := exists_of_bind h
  obtain ⟨seconds, _, h⟩ := exists_of_bind h
  cases h
  rfl

/-- The request for a query with a window of its own, or why it cannot be made. -/
def windowRequest (settings : Settings) (access : Access) (sandbox : Option Bool) (q : Query)
    (size offset : Nat) : Except Failure Request := do
  queryRequest settings access sandbox (← (q.window size offset).text)

theorem query_of_windowRequest {settings : Settings} {access : Access} {sandbox : Option Bool}
    {q : Query} {size offset : Nat} {request : Request}
    (h : windowRequest settings access sandbox q size offset = .ok request) :
    Fields.get? request.params "query" = some (.str (q.window size offset).render) := by
  obtain ⟨text, htext, h⟩ := exists_of_bind h
  unfold Query.text at htext
  split at htext
  · cases htext
    exact query_of_queryRequest h
  · cases htext

/-- The request for the page with the number `k` of a search in a session, or why it cannot be made:
    the query of the search with the window of that page. -/
def pageRequest (s : Session σ) (realm : Value) (sandbox : Option Bool) (q : Query) (k : Nat) :
    Except Failure Request := do
  let access ← Access.resolve s.settings s.credentials realm
  windowRequest s.settings access sandbox q (pageRows q) (skipped q + k * pageRows q)

/-- The request for a page carries the query with the window of that page. -/
theorem query_of_pageRequest {s : Session σ} {realm : Value} {sandbox : Option Bool} {q : Query}
    {k : Nat} {request : Request} (h : pageRequest s realm sandbox q k = .ok request) :
    Fields.get? request.params "query" =
      some (.str (q.window (pageRows q) (skipped q + k * pageRows q)).render) := by
  unfold pageRequest at h
  cases haccess : Access.resolve s.settings s.credentials realm with
  | error f =>
    rw [haccess] at h
    cases h
  | ok access =>
    rw [haccess] at h
    exact query_of_windowRequest h

theorem queryText_of_pageRequest {s : Session σ} {realm : Value} {sandbox : Option Bool} {q : Query}
    {k : Nat} {request : Request} (h : pageRequest s realm sandbox q k = .ok request) :
    request.queryText = (q.window (pageRows q) (skipped q + k * pageRows q)).render := by
  rw [Request.queryText, query_of_pageRequest h]

/-- One page: either its request cannot be made and nothing changes, or it is sent, and what is
    delivered decides how to go on. -/
theorem execute_fetchPages_succ (server : Server σ) (access : Access) (sandbox : Option Bool)
    {e : Entity} {items : List Value} {q : Query} {size offset : Nat}
    (hcompile : Query.compile e (.entries (pageEntries items size offset)) =
      (q.window size offset).text) (budget : Nat) (s : Session σ) :
    (fetchPages server access sandbox e items size (budget + 1) offset).execute s =
      match windowRequest s.settings access sandbox q size offset with
      | .error f => (.error f, s)
      | .ok request =>
        let next : Session σ :=
          { s with
            server := (server.handle request s.server).2
            sent := s.sent ++ [request] }
        match batchOf e (server.handle request s.server).1 with
        | .error f => (.error f, next)
        | .ok batch =>
          if batch.length < size then (.ok ⟨batch, [request.queryText]⟩, next)
          else
            let (more, after) := (fetchPages server access sandbox e items size budget
              ((offset + size : Nat) : Int)).execute next
            (more.map fun pages => ⟨batch ++ pages.rows, request.queryText :: pages.queries⟩,
              after) := by
  rw [fetchPages, Gateway.execute_bind, Gateway.execute_ofExcept, hcompile, windowRequest]
  cases (q.window size offset).text with
  | error f => rfl
  | ok text =>
    dsimp only
    rw [Gateway.execute_bind, Gateway.ask, Gateway.execute_inquire, request_query]
    show _ = match queryRequest s.settings access sandbox text with | .error f => _ | .ok request => _
    cases hrequest : queryRequest s.settings access sandbox text with
    | error f => rfl
    | ok request =>
      have htext : request.queryText = text := by
        rw [Request.queryText, query_of_queryRequest hrequest]
      dsimp only
      rw [htext, batchOf]
      cases (server.handle request s.server).1.result with
      | error f => rfl
      | ok data =>
        dsimp only
        rw [Gateway.execute_bind, Gateway.execute_ofMisuse]
        show _ = match Failure.ofMisuse (do (← rowsOf e data).elements) with
          | .error f => _
          | .ok batch => _
        cases Failure.ofMisuse (do (← rowsOf e data).elements) with
        | error f => rfl
        | ok batch =>
          dsimp only
          by_cases hshort : batch.length < size
          · rw [if_pos hshort, if_pos (Int.ofNat_lt.mpr hshort)]
            rfl
          · rw [if_neg hshort, if_neg (fun h => hshort (Int.ofNat_lt.mp h)), Gateway.execute_bind,
              Int.natCast_add]
            rcases (fetchPages server access sandbox e items size budget (offset + size)).execute _
              with ⟨_ | more, after⟩ <;> rfl

/-- **Fetching page by page** takes its course, however the server pages. -/
theorem course_fetchPages {server : Server σ} {e : Entity} (hanswers : AnswersQueries server e)
    {items : List Value} {q : Query} {size : Nat}
    (hcompile : ∀ offset : Nat, Query.compile e (.entries (pageEntries items size offset)) =
      (q.window size offset).text)
    (access : Access) (sandbox : Option Bool) (budget offset : Nat) (s : Session σ) :
    ∃ requests outcome after,
      (fetchPages server access sandbox e items size budget offset).execute s = (outcome, after) ∧
      after.sent = s.sent ++ requests ∧
      Course server e size
        (fun k => windowRequest s.settings access sandbox q size (offset + k * size)) budget
        s.server requests outcome := by
  -- on the budget: a page that is not the last one leaves a shorter search from the next window
  induction budget generalizing offset s with
  | zero => exact ⟨[], _, s, rfl, (List.append_nil _).symm, .none_allowed⟩
  | succ budget ih =>
    have hstep := execute_fetchPages_succ server access sandbox (hcompile offset) budget s
    cases hpage : windowRequest s.settings access sandbox q size offset with
    | error f =>
      rw [hpage] at hstep
      refine ⟨[], _, s, hstep, (List.append_nil _).symm, .unmade ?_ budget⟩
      rw [Nat.zero_mul, Nat.add_zero]
      exact hpage
    | ok request =>
      rw [hpage] at hstep
      have hfirst : windowRequest s.settings access sandbox q size (offset + 0 * size) =
          .ok request := by
        rw [Nat.zero_mul, Nat.add_zero]
        exact hpage
      rcases hanswers request s.server _ (query_of_windowRequest hpage) with
        ⟨rows, hrows⟩ | ⟨f, hfailure⟩
      · dsimp only at hstep
        rw [batchOf_page hrows] at hstep
        dsimp only at hstep
        by_cases hshort : rows.length < size
        · rw [if_pos hshort] at hstep
          exact ⟨[request], _, _, hstep, rfl, .short hfirst budget hrows hshort⟩
        · rw [if_neg hshort] at hstep
          obtain ⟨requests, outcome, after, hmore, hsent, hcourse⟩ := ih (offset + size)
            { s with
              server := (server.handle request s.server).2
              sent := s.sent ++ [request] }
          rw [hmore] at hstep
          refine ⟨request :: requests, _, after, hstep, ?_,
            .cons hfirst hrows (Nat.not_lt.mp hshort) ?_⟩
          · rw [hsent, List.append_assoc]
            rfl
          · have hwindows : (fun k => windowRequest s.settings access sandbox q size
                (offset + (k + 1) * size)) =
                fun k => windowRequest s.settings access sandbox q size
                  (offset + size + k * size) := by
              funext k
              rw [Nat.succ_mul, Nat.add_assoc, Nat.add_comm size]
            rw [hwindows]
            exact hcourse
      · dsimp only at hstep
        rw [batchOf_failure hfailure] at hstep
        exact ⟨[request], _, _, hstep, rfl, .broken hfirst budget hfailure⟩

/-! ## 2. Searches for all pages -/

theorem isSound_of_accept {e : Entity} {raw : Value} {criteria : Criteria}
    (haccept : Query.accept e raw = .ok criteria) {q : Query}
    (hquery : Query.ofCriteria e.name criteria = .ok q) (hrows : q.countOnly = false) :
    q.IsSound e := by
  have hprepare := Query.prepare_of_accept haccept
  obtain ⟨hvalid, _⟩ := Query.prepare_spec hprepare
  obtain ⟨_, hq⟩ := Query.extended_of_prepare hprepare hquery hrows
  rw [hq]
  exact Query.isSound_extended (Query.wellFormed_of_mappings hvalid)

/-- **When the request for a page can be made**: there is access, the time to wait can be read, and
    whatever is written is short enough, which is whole numbers in the company and in the
    conditions, and the position that is asked for. -/
theorem pageRequest_isOk {s : Session σ} {realm : Value} {sandbox : Option Bool} {q : Query}
    {e : Entity} (hsound : q.IsSound e) (hrows : q.countOnly = false) (k : Nat) :
    (∃ request, pageRequest s realm sandbox q k = .ok request) ↔
      (∃ access, Access.resolve s.settings s.credentials realm = .ok access ∧
        access.realm.HasShortWholes) ∧
      (∃ seconds, s.settings.timeout = .ok seconds) ∧
      (∀ c ∈ q.conditions, c.HasShortWholes) ∧
      skipped q + k * pageRows q + 1 < Numeral.writeLimit := by
  have htext := Query.text_window hsound hrows (pageRows_bounds hsound).2
    (skipped q + k * pageRows q)
  unfold pageRequest windowRequest
  rw [htext]
  cases Access.resolve s.settings s.credentials realm with
  | error f => simp [bind, Except.bind]
  | ok access =>
    by_cases hshort : (∀ c ∈ q.conditions, c.HasShortWholes) ∧
        skipped q + k * pageRows q + 1 < Numeral.writeLimit
    · rw [if_pos hshort, and_iff_left hshort]
      simp [bind, Except.bind, queryRequest_isOk]
    · rw [if_neg hshort, iff_false_right fun h => hshort h.2.2]
      simp [bind, Except.bind]

/-- The request for a page cannot be made when something in the text of its query is too long. -/
theorem pageRequest_tooLong {s : Session σ} {realm : Value} {access : Access}
    (haccess : Access.resolve s.settings s.credentials realm = .ok access) (sandbox : Option Bool)
    {q : Query} {e : Entity} (hsound : q.IsSound e) (hrows : q.countOnly = false) {k : Nat}
    (hlong : ¬ ((∀ c ∈ q.conditions, c.HasShortWholes) ∧
      skipped q + k * pageRows q + 1 < Numeral.writeLimit)) :
    pageRequest s realm sandbox q k = .error .unwritableWhole := by
  rw [pageRequest, haccess]
  show windowRequest _ _ _ _ _ _ = _
  rw [windowRequest, Query.text_window hsound hrows (pageRows_bounds hsound).2, if_neg hlong]
  rfl

/-- What a search for all pages ends with, after some were fetched. -/
def pagesOutcome (s : Session σ) (realm : Value) (e : Entity) (fetched : Except Failure Pages) :
    Except Failure Value := do
  let pages ← fetched
  let access ← Access.resolve s.settings s.credentials realm
  Failure.ofMisuse (pagesResult access e pages)

/-- **A search for all pages takes its course.** -/
theorem exists_course_of_queries {server : Server σ} {e : Entity}
    (hanswers : AnswersQueries server e)
    {entity : Value} (hentity : Entity.get entity = .ok e) {raw : Value} {criteria : Criteria}
    (haccept : Query.accept e raw = .ok criteria) {q : Query}
    (hquery : Query.ofCriteria e.name criteria = .ok q) (hrows : q.countOnly = false)
    (hall : (lastOf .fetchAll criteria.asEntries).isTruthy = true) {s : Session σ} {cap : Nat}
    (hcap : s.settings.pageCap = .ok cap) (hpositive : 1 ≤ cap) (realm : Value)
    (sandbox : Option Bool) :
    ∃ requests fetched after,
      (run server sandbox realm entity raw).execute s = (pagesOutcome s realm e fetched, after) ∧
      after.sent = s.sent ++ requests ∧
      Course server e (pageRows q) (pageRequest s realm sandbox q) cap s.server requests
        fetched := by
  have hprepare := Query.prepare_of_accept haccept
  obtain ⟨hvalid, _⟩ := Query.prepare_spec hprepare
  obtain ⟨hcount, hq⟩ := Query.extended_of_prepare hprepare hquery hrows
  have hsound := isSound_of_accept haccept hquery hrows
  have hsize := pageRows_bounds hsound
  have htext := Query.text_of_rows hsound hrows (rfl : _ = skipped q)
  have hcompile : ∀ offset : Nat,
      Query.compile e (.entries (pageEntries criteria.asEntries (pageRows q) offset)) =
        (q.window (pageRows q) offset).text := by
    intro offset
    rw [compile_pageEntries hvalid hcount hsize.2, ← hq]
  obtain ⟨allowed, rfl⟩ := Nat.exists_eq_add_of_le' hpositive
  unfold run
  simp only [Gateway.execute_bind, Gateway.execute_ofExcept, Gateway.execute_access, hentity,
    haccept, hquery]
  cases haccess : Access.resolve s.settings s.credentials realm with
  | error f =>
    refine ⟨[], .error f, s, rfl, (List.append_nil _).symm, .unmade ?_ allowed⟩
    rw [pageRequest, haccess]
    rfl
  | ok access =>
    have hpage : pageRequest s realm sandbox q =
        fun k => windowRequest s.settings access sandbox q (pageRows q)
          (skipped q + k * pageRows q) := by
      funext k
      rw [pageRequest, haccess]
      rfl
    dsimp only
    by_cases hshort : (∀ c ∈ q.conditions, c.HasShortWholes) ∧ skipped q + 1 < Numeral.writeLimit
    · obtain ⟨requests, fetched, after, hfetch, hsent, hcourse⟩ :=
        course_fetchPages hanswers hcompile access sandbox (allowed + 1) (skipped q) s
      refine ⟨requests, fetched, after, ?_, hsent, hpage ▸ hcourse⟩
      have hfetchAll : (fetchAll server access sandbox e criteria.asEntries).execute s =
          (fetched, after) := by
        rw [execute_fetchAll hcap, pageSize_eq_pageRows hvalid hq hsound,
          startOffset_eq_skipped hvalid hq hsound, Int.toNat_natCast]
        exact hfetch
      rw [htext, if_pos hshort]
      simp only [hrows, hall, Bool.false_eq_true, if_false, if_true, Gateway.execute_bind, hfetchAll,
        pagesOutcome, haccess]
      cases fetched <;> rfl
    · have hfirst : pageRequest s realm sandbox q 0 = .error .unwritableWhole := by
        refine pageRequest_tooLong haccess sandbox hsound hrows ?_
        rw [Nat.zero_mul, Nat.add_zero]
        exact hshort
      refine ⟨[], .error .unwritableWhole, s, ?_, (List.append_nil _).symm, .unmade hfirst _⟩
      rw [htext, if_neg hshort]
      rfl

theorem exists_course {server : Server σ} {e : Entity} (hanswers : AnswersByPages server e)
    {entity : Value} (hentity : Entity.get entity = .ok e) {raw : Value} {criteria : Criteria}
    (haccept : Query.accept e raw = .ok criteria) {q : Query}
    (hquery : Query.ofCriteria e.name criteria = .ok q) (hrows : q.countOnly = false)
    (hall : (lastOf .fetchAll criteria.asEntries).isTruthy = true) {s : Session σ} {cap : Nat}
    (hcap : s.settings.pageCap = .ok cap) (hpositive : 1 ≤ cap) (realm : Value)
    (sandbox : Option Bool) :
    ∃ requests fetched after,
      (run server sandbox realm entity raw).execute s = (pagesOutcome s realm e fetched, after) ∧
      after.sent = s.sent ++ requests ∧
      Course server e (pageRows q) (pageRequest s realm sandbox q) cap s.server requests
        fetched :=
  exists_course_of_queries hanswers.queries hentity haccept hquery hrows hall hcap hpositive realm
    sandbox

/-- **A search for all pages sends its query with one window after another.** When criteria are
    accepted, make a query for rows, and ask for all pages, then under a server that answers by
    pages of any length and by failures the search takes its course: the request for the page `k`
    is that of the query with the window after `k` pages, and it is sent iff the page before it is
    full, a page is still allowed, and the request can be made. It can be made whenever there is
    access and the time to wait can be read, unless a whole number that is written is too long for
    that: one in the company or in the conditions, or the position that is asked for. -/
theorem run_fetchAll_windows {server : Server σ} {e : Entity} (hanswers : AnswersByPages server e)
    {entity : Value} (hentity : Entity.get entity = .ok e) {raw : Value} {criteria : Criteria}
    (haccept : Query.accept e raw = .ok criteria) {q : Query}
    (hquery : Query.ofCriteria e.name criteria = .ok q) (hrows : q.countOnly = false)
    (hall : (lastOf .fetchAll criteria.asEntries).isTruthy = true) {s : Session σ} {cap : Nat}
    (hcap : s.settings.pageCap = .ok cap) (hpositive : 1 ≤ cap) (realm : Value)
    (sandbox : Option Bool) :
    (∃ requests fetched after,
      (run server sandbox realm entity raw).execute s = (pagesOutcome s realm e fetched, after) ∧
      after.sent = s.sent ++ requests ∧
      Course server e (pageRows q) (pageRequest s realm sandbox q) cap s.server requests
        fetched) ∧
      ∀ k, (∃ request, pageRequest s realm sandbox q k = .ok request) ↔
        (∃ access, Access.resolve s.settings s.credentials realm = .ok access ∧
          access.realm.HasShortWholes) ∧
        (∃ seconds, s.settings.timeout = .ok seconds) ∧
        (∀ c ∈ q.conditions, c.HasShortWholes) ∧
        skipped q + k * pageRows q + 1 < Numeral.writeLimit := by
  have hsound := isSound_of_accept haccept hquery hrows
  exact ⟨exists_course hanswers hentity haccept hquery hrows hall hcap hpositive realm sandbox,
    fun k => pageRequest_isOk hsound hrows k⟩

/-- A server that answers by one customer, and breaks down after that. -/
def breakingServer : Server Nat where
  handle _
    | 0 => (.answered (rowsReply oneRow), 1)
    | answered + 1 => (.failed "ConnectError" "down", answered + 2)

theorem isPage_oneRow : IsPage Entity.all[3] (.answered (rowsReply oneRow)) oneRow :=
  ⟨_, result_rowsReply (Or.inr rfl), _, _, rfl, rfl, Or.inl rfl⟩

theorem answersByPages_breakingServer : AnswersByPages breakingServer Entity.all[3] := by
  intro request answered
  cases answered with
  | zero => exact Or.inl ⟨oneRow, isPage_oneRow⟩
  | succ answered => exact Or.inr ⟨.network "ConnectError" "down", rfl⟩

/-- A session of a caller with a token and a company, with a server in some state. -/
def deskWith {τ : Type} (state : τ) : Session τ where
  credentials := some { token := some "token", realm := some "9130" }
  server := state

/-- Entries that ask for all pages, with two bounds, of which the last one counts. -/
def oneByOne : List Value :=
  [Entry.bare "limit" (.int 5), Entry.bare "fetchAll" (.bool true), Entry.bare "limit" (.int 1)]

theorem run_fetchAll_windows_breaking :
    ∃ after,
      (run breakingServer none .null (.str "customer") (.list oneByOne)).execute (deskWith 0) =
        (.error (.network "ConnectError" "down"), after) ∧
      after.sent.map Request.queryText =
        ["SELECT * FROM Customer MAXRESULTS 1",
          "SELECT * FROM Customer MAXRESULTS 1 STARTPOSITION 2"] := by
  have haccept : Query.accept Entity.all[3] (.list oneByOne) = .ok (.entries oneByOne) := rfl
  have hquery : Query.ofCriteria "Customer" (.entries oneByOne) =
      .ok { entity := "Customer", limit := some 1 } := rfl
  have hentity : Entity.get (.str "customer") = .ok Entity.all[3] := rfl
  have hcap : (deskWith 0).settings.pageCap = .ok ((100 : Nat) : Int) := rfl
  obtain ⟨⟨requests, fetched, after, hrun, hsent, hcourse⟩, hmade⟩ :=
    run_fetchAll_windows answersByPages_breakingServer hentity haccept hquery rfl rfl hcap
      (by decide) .null none
  have hmakes : ∀ k, k < 2 → ∃ request, pageRequest (deskWith 0) .null none
      { entity := "Customer", limit := some 1 } k = .ok request := by
    intro k hk
    refine (hmade k).mpr ⟨⟨_, rfl, Value.hasShortWholes_str _⟩, ⟨_, rfl⟩, nofun,
      Numeral.lt_writeLimit ?_⟩
    show 0 + k * 1 + 1 ≤ 1000
    omega
  have hfirst : 0 < requests.length := hcourse.first.mpr ⟨by decide, hmakes 0 (by decide)⟩
  match requests, hfirst with
  | request :: rest, _ =>
    have hsecond : 0 + 1 < (request :: rest).length :=
      (hcourse.next 0).mpr ⟨⟨_, oneRow, rfl, isPage_oneRow, by decide⟩, by decide,
        hmakes 1 (by decide)⟩
    match rest, hsecond with
    | other :: more, _ =>
      have hend : ¬ 1 + 1 < (request :: other :: more).length := by
        intro h
        obtain ⟨⟨_, _, hdelivery, ⟨_, hdata, _⟩, _⟩, _⟩ := (hcourse.next 1).mp h
        cases hdelivery
        cases hdata
      obtain rfl : more = [] := by
        cases more with
        | nil => rfl
        | cons => exact absurd (by simp) hend
      have hfailed : fetched = .error (.network "ConnectError" "down") :=
        hcourse.failed _ (List.mem_cons_of_mem _ List.mem_cons_self) _ rfl
      refine ⟨after, by rw [hrun, hfailed]; rfl, ?_⟩
      have h0 := queryText_of_pageRequest (hcourse.request 0 _ rfl)
      have h1 := queryText_of_pageRequest (hcourse.request 1 _ rfl)
      rw [hsent]
      show [request.queryText, other.queryText] = _
      rw [h0, h1]
      rfl

/-- A server that always answers by one customer. -/
def fullServer : Server Unit where
  handle _ _ := (.answered (rowsReply oneRow), ())

theorem answersByPages_fullServer : AnswersByPages fullServer Entity.all[3] :=
  fun _ _ => Or.inl ⟨oneRow, isPage_oneRow⟩

/-- Entries that ask for all pages, with one row on each, from an offset on. -/
def oneByOneFrom (offset : Nat) : List Value :=
  [Entry.bare "limit" (.int 1), Entry.bare "offset" (.int offset),
    Entry.bare "fetchAll" (.bool true)]

theorem accept_oneByOneFrom (e : Entity) (offset : Nat) :
    Query.accept e (.list (oneByOneFrom offset)) = .ok (.entries (oneByOneFrom offset)) := by
  refine Query.accept_eq_ok_iff.mpr ⟨nofun, ?_⟩
  refine prepare_eq_ok.mpr ⟨rfl, fun v hv => ?_⟩
  rcases List.mem_cons.mp hv with rfl | hv
  · exact .directive (d := .limit) rfl (.limit (by decide) (by decide))
  rcases List.mem_cons.mp hv with rfl | hv
  · exact .directive (d := .offset) rfl (.offset (Int.natCast_nonneg _))
  · obtain rfl := List.mem_singleton.mp hv
    exact .directive (d := .fetchAll) rfl (.fetchAll _)

/-- The query of these entries. -/
def oneByOneQuery (offset : Nat) : Query :=
  { entity := "Customer", limit := some 1, offset := some (offset : Int) }

theorem position_oneByOneQuery (offset k : Nat) :
    skipped (oneByOneQuery offset) + k * pageRows (oneByOneQuery offset) + 1 = offset + k + 1 :=
  congrArg (offset + · + 1) (Nat.mul_one k)

/-- A full page is not followed by another one, though more are allowed, when the position of the
    next page is too long to be written. -/
theorem run_fetchAll_windows_tooLong :
    ∃ q requests after,
      Query.accept Entity.all[3] (.list (oneByOneFrom (Numeral.writeLimit - 2))) =
        .ok (.entries (oneByOneFrom (Numeral.writeLimit - 2))) ∧
      Query.ofCriteria Entity.all[3].name (.entries (oneByOneFrom (Numeral.writeLimit - 2))) =
        .ok q ∧
      q.countOnly = false ∧
      (lastOf .fetchAll (oneByOneFrom (Numeral.writeLimit - 2))).isTruthy = true ∧
      (deskWith ()).settings.pageCap = .ok 100 ∧
      AnswersByPages fullServer Entity.all[3] ∧
      (run fullServer none .null (.str "Customer")
        (.list (oneByOneFrom (Numeral.writeLimit - 2)))).execute (deskWith ()) =
          (.error .unwritableWhole, after) ∧
      after.sent = requests ∧
      IsFullPage Entity.all[3] (pageRows q) (fullServer.deliveries requests ())[0]? ∧
      ¬ 0 + 1 < requests.length := by
  have haccept := accept_oneByOneFrom Entity.all[3] (Numeral.writeLimit - 2)
  have hquery : Query.ofCriteria Entity.all[3].name
      (.entries (oneByOneFrom (Numeral.writeLimit - 2))) =
        .ok (oneByOneQuery (Numeral.writeLimit - 2)) := rfl
  have hentity : Entity.get (.str "Customer") = .ok Entity.all[3] := rfl
  have hcap : (deskWith ()).settings.pageCap = .ok ((100 : Nat) : Int) := rfl
  have hlimit : 2 < Numeral.writeLimit := Numeral.lt_writeLimit (by decide)
  obtain ⟨requests, fetched, after, hrun, hsent, hcourse⟩ :=
    exists_course answersByPages_fullServer hentity haccept hquery rfl rfl hcap (by decide) .null
      none
  have hsound := isSound_of_accept haccept hquery rfl
  have hfirst : 0 < requests.length := by
    refine hcourse.first.mpr
      ⟨by decide, (pageRequest_isOk hsound rfl 0).mpr
        ⟨⟨_, rfl, Value.hasShortWholes_str _⟩, ⟨_, rfl⟩, nofun, ?_⟩⟩
    rw [position_oneByOneQuery]
    omega
  have hstuck : pageRequest (deskWith ()) .null none (oneByOneQuery (Numeral.writeLimit - 2)) 1 =
      .error .unwritableWhole := by
    refine pageRequest_tooLong rfl none hsound rfl fun hshort => ?_
    have hposition := hshort.2
    rw [position_oneByOneQuery] at hposition
    omega
  have hsecond : ¬ 0 + 1 < requests.length := by
    intro h
    obtain ⟨_, _, request, hrequest⟩ := (hcourse.next 0).mp h
    rw [hstuck] at hrequest
    cases hrequest
  obtain ⟨request, rfl⟩ : ∃ request, requests = [request] :=
    List.length_eq_one_iff.mp (by omega)
  have hfull : IsFullPage Entity.all[3] (pageRows (oneByOneQuery (Numeral.writeLimit - 2)))
      (fullServer.deliveries [request] ())[0]? :=
    ⟨_, oneRow, rfl, isPage_oneRow, Nat.le_refl 1⟩
  have hfetched : fetched = .error .unwritableWhole := by
    refine hcourse.stuck _ (show 1 < 100 by decide) (fun k hk => ?_) hstuck
    obtain rfl : k = 0 := Nat.succ.inj hk
    exact hfull
  exact ⟨_, [request], after, haccept, hquery, rfl, rfl, hcap, answersByPages_fullServer,
    by rw [hrun, hfetched]; rfl, hsent, hfull, hsecond⟩

end BooksGateway.Search
