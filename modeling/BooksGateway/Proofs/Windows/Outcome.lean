import BooksGateway.Proofs.Windows

/-!
# How a search for all pages ends

A server that answers every query by a page lets a search for all pages down in no way. The search
has a result then, unless the setting for the number of pages allows none, the time to wait cannot
be read, or a whole number that is due to be written is too long for that.

* `IsDue`: the pages that a search has to ask for;
* `Course.ended`: a search that is served by pages has all their rows, or stops at a page that is
  due and cannot be asked for;
* `execute_run_without_pages`: what a search does that is allowed no page;
* `run_fetchAll_ending`: how a search for all pages ends, whatever number of pages is allowed.
-/

namespace BooksGateway.Search

variable {σ : Type}

/-! ## 1. Servers that give pages -/

/-- A server that answers every query by a page of any length. -/
def GivesPages (server : Server σ) (e : Entity) : Prop :=
  ∀ (request : Request) (state : σ) (text : String),
    Fields.get? request.params "query" = some (.str text) →
      ∃ rows, IsPage e (server.handle request state).1 rows

theorem GivesPages.answersQueries {server : Server σ} {e : Entity} (h : GivesPages server e) :
    AnswersQueries server e :=
  fun request state text hquery => Or.inl (h request state text hquery)

theorem GivesPages.exists_batches {server : Server σ} {e : Entity} (h : GivesPages server e)
    {requests : List Request}
    (hqueries : ∀ r ∈ requests, ∃ text, Fields.get? r.params "query" = some (.str text))
    (state : σ) :
    ∃ batches, List.Forall₂ (IsPage e) (server.deliveries requests state) batches := by
  induction requests generalizing state with
  | nil => exact ⟨[], .nil⟩
  | cons request rest ih =>
    obtain ⟨text, hquery⟩ := hqueries request List.mem_cons_self
    obtain ⟨rows, hrows⟩ := h request state text hquery
    obtain ⟨batches, hbatches⟩ := ih (fun r hr => hqueries r (List.mem_cons_of_mem _ hr))
      (server.handle request state).2
    exact ⟨rows :: batches, .cons hrows hbatches⟩

theorem length_deliveries (server : Server σ) (requests : List Request) (state : σ) :
    (server.deliveries requests state).length = requests.length := by
  induction requests generalizing state with
  | nil => rfl
  | cons request rest ih => exact congrArg Nat.succ (ih _)

/-! ## 2. Pages that are due -/

/-- A page that a search has to ask for: it is allowed, and it is the first one or the one before it
    is full. -/
def IsDue (e : Entity) (size cap : Nat) (deliveries : List Delivery) (k : Nat) : Prop :=
  k < cap ∧ ∀ j, j + 1 = k → IsFullPage e size deliveries[j]?

/-- A page that is delivered is not full when it has fewer rows. -/
theorem last_lt_of_not_full {e : Entity} {size : Nat} {deliveries : List Delivery}
    {batches : List (List Value)} (hpages : List.Forall₂ (IsPage e) deliveries batches) {j : Nat}
    (hlast : j + 1 = deliveries.length) (hshort : ¬ IsFullPage e size deliveries[j]?) :
    ∃ rows, batches.getLast? = some rows ∧ rows.length < size := by
  have hlength := hpages.length_eq
  have hj : j < deliveries.length := by omega
  have hbatch : j < batches.length := by omega
  have hpage : IsPage e deliveries[j] batches[j] := hpages.get hj hbatch
  refine ⟨batches[j], ?_, ?_⟩
  · rw [List.getLast?_eq_getElem?, ← hlength, ← hlast, Nat.add_sub_cancel,
      List.getElem?_eq_getElem hbatch]
  · by_contra hfull
    exact hshort ⟨_, _, List.getElem?_eq_getElem hj, hpage, Nat.not_lt.mp hfull⟩

namespace Course

variable {server : Server σ} {e : Entity} {size : Nat} {page : Nat → Except Failure Request}
  {cap : Nat} {state : σ} {requests : List Request} {outcome : Except Failure Pages}

/-- The pages that are asked for were due. -/
theorem isDue_of_lt (h : Course server e size page cap state requests outcome) {k : Nat}
    (hk : k < requests.length) : IsDue e size cap (server.deliveries requests state) k := by
  refine ⟨Nat.lt_of_lt_of_le hk h.within, ?_⟩
  rintro j rfl
  exact ((h.next j).mp hk).1

/-- No page is due beyond the next one. -/
theorem le_of_isDue {k : Nat} (hdue : IsDue e size cap (server.deliveries requests state) k) :
    k ≤ requests.length := by
  cases k with
  | zero => exact Nat.zero_le _
  | succ j =>
    obtain ⟨d, _, hd, _⟩ := hdue.2 j rfl
    rw [← length_deliveries server requests state]
    exact (List.getElem?_eq_some_iff.mp hd).1

/-- The next page cannot be asked for when it is due. -/
theorem not_isOk_of_isDue (h : Course server e size page cap state requests outcome)
    (hdue : IsDue e size cap (server.deliveries requests state) requests.length) :
    ¬ ∃ r, page requests.length = .ok r := by
  obtain ⟨hallowed, hfull⟩ := hdue
  intro hmade
  cases hlength : requests.length with
  | zero =>
    rw [hlength] at hallowed hmade
    exact absurd (h.first.mpr ⟨hallowed, hmade⟩) (by omega)
  | succ j =>
    rw [hlength] at hallowed hmade
    exact absurd ((h.next j).mpr ⟨hfull j hlength.symm, hallowed, hmade⟩) (by omega)

/-- **How a search ends that is served by pages**: no more are due and their rows are the outcome,
    or the next one is due, cannot be asked for, and the reason is the outcome. -/
theorem ended (h : Course server e size page cap state requests outcome)
    {batches : List (List Value)}
    (hpages : List.Forall₂ (IsPage e) (server.deliveries requests state) batches) :
    (¬ IsDue e size cap (server.deliveries requests state) requests.length ∧
      outcome = .ok ⟨batches.flatten, requests.map Request.queryText⟩) ∨
    IsDue e size cap (server.deliveries requests state) requests.length ∧
      ∃ f, page requests.length = .error f ∧ outcome = .error f := by
  by_cases hdue : IsDue e size cap (server.deliveries requests state) requests.length
  · refine Or.inr ⟨hdue, ?_⟩
    cases hpage : page requests.length with
    | ok r => exact absurd ⟨r, hpage⟩ (h.not_isOk_of_isDue hdue)
    | error f => exact ⟨f, rfl, h.stuck f hdue.1 hdue.2 hpage⟩
  · refine Or.inl ⟨hdue, h.gathered batches hpages ?_⟩
    by_cases hall : requests.length = cap
    · exact Or.inl hall
    · -- a page is left, so the last one is the reason that no more are due
      have hallowed : requests.length < cap := Nat.lt_of_le_of_ne h.within hall
      obtain ⟨j, hj, hshort⟩ : ∃ j, j + 1 = requests.length ∧
          ¬ IsFullPage e size (server.deliveries requests state)[j]? := by
        simpa [IsDue, hallowed] using hdue
      exact Or.inr (last_lt_of_not_full hpages (hj.trans (length_deliveries _ _ _).symm) hshort)

/-- The pages that are due are those that were asked for, when the next one is not due. -/
theorem isDue_iff (h : Course server e size page cap state requests outcome)
    (hnone : ¬ IsDue e size cap (server.deliveries requests state) requests.length) {k : Nat} :
    IsDue e size cap (server.deliveries requests state) k ↔ k < requests.length := by
  refine ⟨fun hdue => Nat.lt_of_le_of_ne (le_of_isDue hdue) ?_, h.isDue_of_lt⟩
  rintro rfl
  exact hnone hdue

/-- A search that is served by pages has an outcome iff every page that is due can be asked for. -/
theorem isOk_iff (h : Course server e size page cap state requests outcome)
    {batches : List (List Value)}
    (hpages : List.Forall₂ (IsPage e) (server.deliveries requests state) batches) :
    (∃ pages, outcome = .ok pages) ↔
      ∀ k, IsDue e size cap (server.deliveries requests state) k → ∃ r, page k = .ok r := by
  constructor
  · rintro ⟨pages, rfl⟩ k hdue
    rcases h.ended hpages with ⟨hnone, _⟩ | ⟨_, f, _, hf⟩
    · have hk := (h.isDue_iff hnone).mp hdue
      exact ⟨requests[k], h.request k _ (List.getElem?_eq_getElem hk)⟩
    · cases hf
  · intro hmade
    rcases h.ended hpages with ⟨_, hrows⟩ | ⟨hdue, f, hf, _⟩
    · exact ⟨_, hrows⟩
    · obtain ⟨r, hr⟩ := hmade _ hdue
      rw [hf] at hr
      cases hr

end Course

/-! ## 3. Searches -/

section Run

variable {server : Server σ} {e : Entity} {entity : Value} {raw : Value} {criteria : Criteria}
  {q : Query} {s : Session σ} {realm : Value} {access : Access}

/-- A search that is allowed no page sends nothing, and fails where it looks up the query of the
    first page. -/
theorem execute_run_without_pages (server : Server σ) (hentity : Entity.get entity = .ok e)
    (haccept : Query.accept e raw = .ok criteria)
    (hquery : Query.ofCriteria e.name criteria = .ok q) (hrows : q.countOnly = false)
    (hall : (lastOf .fetchAll criteria.asEntries).isTruthy = true)
    (haccess : Access.resolve s.settings s.credentials realm = .ok access) {cap : Int}
    (hcap : s.settings.pageCap = .ok cap) (hnone : cap < 1) (sandbox : Option Bool) :
    (run server sandbox realm entity raw).execute s =
      (q.text.bind fun _ => .error (.misuse .outOfRange), s) := by
  have hbudget : cap.toNat = 0 := by omega
  have hfetchAll : (fetchAll server access sandbox e criteria.asEntries).execute s =
      (.ok ⟨[], []⟩, s) := by
    rw [execute_fetchAll hcap, hbudget]
    rfl
  unfold run
  simp only [Gateway.execute_bind, Gateway.execute_ofExcept, Gateway.execute_access, hentity,
    haccept, hquery, haccess]
  cases q.text with
  | error f => rfl
  | ok text =>
    simp only [hrows, hall, Bool.false_eq_true, if_false, if_true, Gateway.execute_bind, hfetchAll]
    rfl

theorem pagesOutcome_ok (haccess : Access.resolve s.settings s.credentials realm = .ok access)
    (e : Entity) (rows : List Value) (first : Request) (rest : List Request) :
    pagesOutcome s realm e (.ok ⟨rows, (first :: rest).map Request.queryText⟩) =
      .ok (.obj [("realm_id", access.realm), ("entity", .str e.name),
        ("query", .str first.queryText), ("pages", .int (first :: rest).length),
        ("count", .int rows.length), (e.resultKey, .list rows)]) := by
  have hlength : ((first :: rest).map Request.queryText).length = (first :: rest).length :=
    List.length_map _
  unfold pagesOutcome
  rw [haccess, ← hlength]
  rfl

/-- Why the request for a page cannot be made, when there is access. -/
theorem error_of_pageRequest (hsound : q.IsSound e) (hrows : q.countOnly = false)
    (haccess : Access.resolve s.settings s.credentials realm = .ok access) {sandbox : Option Bool}
    {k : Nat} {f : Failure} (h : pageRequest s realm sandbox q k = .error f) :
    f = .unwritableWhole ∨ s.settings.timeout = .error f := by
  unfold pageRequest windowRequest at h
  rw [haccess, Query.text_window hsound hrows (pageRows_bounds hsound).2] at h
  by_cases hshort : (∀ c ∈ q.conditions, c.HasShortWholes) ∧
      skipped q + k * pageRows q + 1 < Numeral.writeLimit
  · rw [if_pos hshort] at h
    exact error_of_queryRequest h
  · rw [if_neg hshort] at h
    cases h
    exact Or.inl rfl

/-- **How a search for all pages ends** that is served by pages: its requests are `requests`, from a
    session on, when the setting for the number of pages is `cap`. -/
structure Ending (server : Server σ) (e : Entity) (q : Query) (s : Session σ) (access : Access)
    (cap : Int) (requests : List Request) (outcome : Except Failure Value) : Prop where
  /-- There are not more requests than pages that are allowed. -/
  within : requests.length ≤ cap.toNat
  /-- There is a result iff a page is allowed, the time to wait can be read, and whole numbers in
      the company and in the conditions, and the position of every page that is due, can be
      written. -/
  isOk : (∃ v, outcome = .ok v) ↔
    1 ≤ cap ∧ (∃ seconds, s.settings.timeout = .ok seconds) ∧
      access.realm.HasShortWholes ∧ (∀ c ∈ q.conditions, c.HasShortWholes) ∧
      ∀ k, IsDue e (pageRows q) cap.toNat (server.deliveries requests s.server) k →
        skipped q + k * pageRows q + 1 < Numeral.writeLimit
  /-- The result shows the query of the first request, the number of requests, and the rows of all
      pages with their number. -/
  result : ∀ v, outcome = .ok v → ∃ first rest batches, requests = first :: rest ∧
    List.Forall₂ (IsPage e) (server.deliveries requests s.server) batches ∧
      v = .obj [("realm_id", access.realm), ("entity", .str e.name),
        ("query", .str first.queryText), ("pages", .int requests.length),
        ("count", .int batches.flatten.length), (e.resultKey, .list batches.flatten)]
  /-- Where there is a result every page that was due, and no other, was asked for. -/
  asked : ∀ v, outcome = .ok v → ∀ k,
    IsDue e (pageRows q) cap.toNat (server.deliveries requests s.server) k ↔ k < requests.length
  /-- When no page is allowed the query of the first one is looked up in vain, unless the query of
      the search could not be written before. -/
  without : cap < 1 → (∀ c ∈ q.conditions, c.HasShortWholes) →
    skipped q + 1 < Numeral.writeLimit → outcome = .error (.misuse .outOfRange)
  /-- There are no other failures. -/
  failed : ∀ f, outcome = .error f →
    f = .unwritableWhole ∨ s.settings.timeout = .error f ∨ cap < 1 ∧ f = .misuse .outOfRange

/-- A search that is allowed no page ends so. -/
theorem ending_without_pages (server : Server σ) (hsound : q.IsSound e)
    (hrows : q.countOnly = false) (s : Session σ) (access : Access) {cap : Int} (hnone : cap < 1) :
    Ending server e q s access cap [] (q.text.bind fun _ => .error (.misuse .outOfRange)) := by
  have htext := Query.text_of_rows hsound hrows (rfl : _ = skipped q)
  by_cases hshort : (∀ c ∈ q.conditions, c.HasShortWholes) ∧ skipped q + 1 < Numeral.writeLimit
  · rw [htext, if_pos hshort]
    exact
      { within := Nat.zero_le _
        isOk := ⟨nofun, fun ⟨hallowed, _⟩ => absurd hallowed (Int.not_le.mpr hnone)⟩
        result := nofun
        asked := nofun
        without := fun _ _ _ => rfl
        failed := fun f hf => Or.inr (Or.inr ⟨hnone, (Except.error.inj hf).symm⟩) }
  · rw [htext, if_neg hshort]
    exact
      { within := Nat.zero_le _
        isOk := ⟨nofun, fun ⟨hallowed, _⟩ => absurd hallowed (Int.not_le.mpr hnone)⟩
        result := nofun
        asked := nofun
        without := fun _ hconditions hfirst => absurd ⟨hconditions, hfirst⟩ hshort
        failed := fun f hf => Or.inl (Except.error.inj hf).symm }

/-- When pages are fetched to the end: one is allowed, and all that are due can be asked for. -/
theorem isOk_fetched (hsound : q.IsSound e) (hrows : q.countOnly = false)
    (haccess : Access.resolve s.settings s.credentials realm = .ok access) {sandbox : Option Bool}
    {cap : Nat} (hpositive : 1 ≤ cap) {requests : List Request} {fetched : Except Failure Pages}
    (hcourse : Course server e (pageRows q) (pageRequest s realm sandbox q) cap s.server requests
      fetched) {batches : List (List Value)}
    (hpages : List.Forall₂ (IsPage e) (server.deliveries requests s.server) batches) :
    (∃ pages, fetched = .ok pages) ↔
      1 ≤ (cap : Int) ∧ (∃ seconds, s.settings.timeout = .ok seconds) ∧
        access.realm.HasShortWholes ∧ (∀ c ∈ q.conditions, c.HasShortWholes) ∧
        ∀ k, IsDue e (pageRows q) cap (server.deliveries requests s.server) k →
          skipped q + k * pageRows q + 1 < Numeral.writeLimit := by
  rw [hcourse.isOk_iff hpages]
  constructor
  · intro hdue
    obtain ⟨⟨found, hfound, hcompany⟩, htimeout, hconditions, _⟩ :=
      (pageRequest_isOk hsound hrows 0).mp (hdue 0 ⟨hpositive, nofun⟩)
    obtain rfl : found = access := Except.ok.inj (hfound.symm.trans haccess)
    refine ⟨Int.ofNat_le.mpr hpositive, htimeout, hcompany, hconditions, fun k hk => ?_⟩
    exact ((pageRequest_isOk hsound hrows k).mp (hdue k hk)).2.2.2
  · rintro ⟨_, htimeout, hcompany, hconditions, hpositions⟩ k hk
    exact (pageRequest_isOk hsound hrows k).mpr
      ⟨⟨access, haccess, hcompany⟩, htimeout, hconditions, hpositions k hk⟩

/-- A search that takes its course, and is served by pages, ends so. -/
theorem ending_of_course (hsound : q.IsSound e) (hrows : q.countOnly = false)
    (haccess : Access.resolve s.settings s.credentials realm = .ok access) {sandbox : Option Bool}
    {cap : Nat} (hpositive : 1 ≤ cap) {requests : List Request} {fetched : Except Failure Pages}
    (hcourse : Course server e (pageRows q) (pageRequest s realm sandbox q) cap s.server requests
      fetched) {batches : List (List Value)}
    (hpages : List.Forall₂ (IsPage e) (server.deliveries requests s.server) batches) :
    Ending server e q s access cap requests (pagesOutcome s realm e fetched) := by
  have hmade := isOk_fetched hsound hrows haccess hpositive hcourse hpages
  rcases hcourse.ended hpages with ⟨hnone, rfl⟩ | ⟨_, f, hpage, rfl⟩
  · cases requests with
    | nil => exact absurd ⟨hpositive, nofun⟩ hnone
    | cons first rest =>
      have hresult := pagesOutcome_ok haccess e batches.flatten first rest
      exact
        { within := hcourse.within
          isOk := by
            rw [hresult]
            exact ⟨fun _ => hmade.mp ⟨_, rfl⟩, fun _ => ⟨_, rfl⟩⟩
          result := fun v hv =>
            ⟨first, rest, batches, rfl, hpages, Except.ok.inj (hv.symm.trans hresult)⟩
          asked := fun _ _ _ => hcourse.isDue_iff hnone
          without := fun hless => absurd hless (by omega)
          failed := fun f hf => by
            rw [hresult] at hf
            cases hf }
  · exact
      { within := hcourse.within
        isOk := by
          refine ⟨nofun, fun hall => ?_⟩
          obtain ⟨pages, hpages⟩ := hmade.mpr hall
          cases hpages
        result := nofun
        asked := nofun
        without := fun hless => absurd hless (by omega)
        failed := fun g hg => by
          obtain rfl : f = g := Except.error.inj hg
          rcases error_of_pageRequest hsound hrows haccess hpage with hf | hf
          · exact Or.inl hf
          · exact Or.inr (Or.inl hf) }

/-- **How a search for all pages ends, whatever number of pages is allowed.** When criteria are
    accepted, make a query for rows, and ask for all pages, then under a server that answers every
    query by a page there is a result whenever a page is allowed, the time to wait can be read, and
    the whole numbers that are due to be written are short enough for that. Where no page is allowed
    there is none: the query of the first page is looked up among none. -/
theorem run_fetchAll_ending (hgives : GivesPages server e) (hentity : Entity.get entity = .ok e)
    (haccept : Query.accept e raw = .ok criteria)
    (hquery : Query.ofCriteria e.name criteria = .ok q) (hrows : q.countOnly = false)
    (hall : (lastOf .fetchAll criteria.asEntries).isTruthy = true)
    (haccess : Access.resolve s.settings s.credentials realm = .ok access) {cap : Int}
    (hcap : s.settings.pageCap = .ok cap) (sandbox : Option Bool) :
    ∃ requests outcome after,
      (run server sandbox realm entity raw).execute s = (outcome, after) ∧
      after.sent = s.sent ++ requests ∧
      Ending server e q s access cap requests outcome := by
  have hsound := isSound_of_accept haccept hquery hrows
  by_cases hnone : cap < 1
  · exact ⟨[], _, s, execute_run_without_pages server hentity haccept hquery hrows hall haccess
      hcap hnone sandbox, (List.append_nil _).symm,
      ending_without_pages server hsound hrows s access hnone⟩
  · obtain ⟨allowed, rfl⟩ := Int.eq_ofNat_of_zero_le (show 0 ≤ cap by omega)
    have hpositive : 1 ≤ allowed := by omega
    obtain ⟨requests, fetched, after, hrun, hsent, hcourse⟩ :=
      exists_course_of_queries hgives.answersQueries hentity haccept hquery hrows hall hcap
        hpositive realm sandbox
    have hqueries : ∀ r ∈ requests, ∃ text, Fields.get? r.params "query" = some (.str text) := by
      intro r hr
      obtain ⟨k, hk⟩ := List.getElem?_of_mem hr
      exact ⟨_, query_of_pageRequest (hcourse.request k r hk)⟩
    obtain ⟨batches, hpages⟩ := hgives.exists_batches hqueries s.server
    exact ⟨requests, _, after, hrun, hsent,
      ending_of_course hsound hrows haccess hpositive hcourse hpages⟩

end Run

theorem givesPages_fullServer : GivesPages fullServer Entity.all[3] :=
  fun _ _ _ _ => ⟨oneRow, isPage_oneRow⟩

/-- A session with a text as the setting for the number of pages. -/
def allowing (pages : String) : Session Unit :=
  { deskWith () with settings := ⟨[("QBO_FETCH_ALL_MAX_PAGES", pages)]⟩ }

/-- Without pages there is no result, with two of them there is. -/
theorem run_fetchAll_ending_allowing :
    (∃ after,
      (run fullServer none .null (.str "customer") (.list oneByOne)).execute (allowing "0") =
        (.error (.misuse .outOfRange), after) ∧ after.sent = []) ∧
    ∃ v after,
      (run fullServer none .null (.str "customer") (.list oneByOne)).execute (allowing "2") =
        (.ok v, after) := by
  have haccept : Query.accept Entity.all[3] (.list oneByOne) = .ok (.entries oneByOne) := rfl
  have hquery : Query.ofCriteria "Customer" (.entries oneByOne) =
      .ok { entity := "Customer", limit := some 1 } := rfl
  have hentity : Entity.get (.str "customer") = .ok Entity.all[3] := rfl
  have haccess : ∀ pages, Access.resolve (allowing pages).settings (allowing pages).credentials
      .null = .ok ⟨"token", .str "9130"⟩ := fun _ => rfl
  have hnone : (allowing "0").settings.pageCap = .ok 0 := rfl
  have htwo : (allowing "2").settings.pageCap = .ok 2 := rfl
  constructor
  · obtain ⟨requests, outcome, after, hrun, hsent, hending⟩ := run_fetchAll_ending
      givesPages_fullServer hentity haccept hquery rfl rfl (haccess "0") hnone none
    have hempty : requests = [] := List.length_eq_zero_iff.mp (Nat.le_zero.mp hending.within)
    have houtcome := hending.without (by decide) nofun (Numeral.lt_writeLimit (by decide))
    exact ⟨after, by rw [hrun, houtcome], by rw [hsent, hempty]; rfl⟩
  · obtain ⟨requests, outcome, after, hrun, _, hending⟩ := run_fetchAll_ending
      givesPages_fullServer hentity haccept hquery rfl rfl (haccess "2") htwo none
    obtain ⟨v, rfl⟩ : ∃ v, outcome = .ok v := by
      refine hending.isOk.mpr ⟨by decide, ⟨_, rfl⟩, Value.hasShortWholes_str _, nofun,
        fun k hk => Numeral.lt_writeLimit ?_⟩
      have hallowed : k < 2 := hk.1
      show 0 + k * 1 + 1 ≤ 1000
      omega
    exact ⟨v, after, hrun⟩

end BooksGateway.Search
