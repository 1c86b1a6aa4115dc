import BooksGateway.Json.Writer
import BooksGateway.Proofs.Page
import BooksGateway.Proofs.Reading.Unambiguous

/-!
# All pages hold all rows

A search for all pages asks for one window after another. From a server that holds a list of rows it
gets them from the offset on, each once and in order, until a page is short or the cap on pages is
reached.

* `Serves`: what a server does that holds a list of rows;
* `pageCount_short`, `pageCount_full`: the number of pages from one page to the next;
* `execute_fetchPages`: what fetching page by page gives;
* `run_fetchAll`: the result of a search for all pages.
-/

namespace BooksGateway.Search

open Validation

variable {σ : Type}

/-! ## 1. Servers that hold rows -/

/-- Texts that begin with `head` and ask for a window: at most `size` rows, from the row at position
    `first` on, which is counted from one. -/
inductive Asks (head : String) : (text : String) → (size first : Nat) → Prop where
  /-- The rows from the very first one on. -/
  | start {size : Nat} (hsize : 0 < size) :
      Asks head (head ++ " MAXRESULTS " ++ toString size) size 1
  /-- The rows from a later one on. -/
  | later {size first : Nat} (hsize : 0 < size) (hfirst : 1 < first) :
      Asks head (head ++ " MAXRESULTS " ++ toString size ++ " STARTPOSITION " ++ toString first)
        size first

/-- An answer that holds rows of an entity: they stand under its name, which may be missing when
    there are none. -/
def Holds (e : Entity) (data : Value) (rows : List Value) : Prop :=
  ∃ fields response, data = .obj fields ∧
    Fields.get? fields "QueryResponse" = some (.obj response) ∧
    (Fields.get? response e.name = some (.list rows) ∨
      rows = [] ∧ Fields.get? response e.name = none)

/-- **A server that holds one fixed list of rows** for the queries that begin with `head`: in every
    state it answers such a query by the rows in the window that is asked for. -/
def Serves (server : Server σ) (e : Entity) (head : String) (rows : List Value) : Prop :=
  ∀ (request : Request) (state : σ) (text : String) (size first : Nat),
    Fields.get? request.params "query" = some (.str text) → Asks head text size first →
      ∃ data, (server.handle request state).1.result = .ok data ∧
        Holds e data ((rows.drop (first - 1)).take size)

theorem asks_window (head : String) {size : Nat} (hsize : 0 < size) (offset : Nat) :
    Asks head (head ++ Query.windowText size offset) size (offset + 1) := by
  unfold Query.windowText
  by_cases h : offset = 0
  · subst h
    rw [if_pos rfl, String.append_empty, ← String.append_assoc]
    exact .start hsize
  · rw [if_neg h, ← String.append_assoc, ← String.append_assoc, ← String.append_assoc]
    exact .later hsize (by omega)

theorem render_of_asks {q : Query} (hrows : q.countOnly = false) {text : String} {size first : Nat}
    (h : Asks q.windowless text size first) :
    0 < size ∧ ∃ offset, first = offset + 1 ∧ text = (q.window size offset).render := by
  cases h with
  | start hsize =>
    refine ⟨hsize, 0, rfl, ?_⟩
    rw [Query.render_window hrows hsize, Query.windowText, if_pos rfl, String.append_empty,
      String.append_assoc]
  | later hsize hfirst =>
    refine ⟨hsize, first - 1, by omega, ?_⟩
    rw [Query.render_window hrows hsize, Query.windowText, if_neg (by omega),
      Nat.sub_add_cancel (by omega), String.append_assoc, String.append_assoc, String.append_assoc,
      String.append_assoc]

theorem batch_of_holds {e : Entity} {data : Value} {rows : List Value} (h : Holds e data rows) :
    (do (← rowsOf e data).elements) = .ok rows := by
  obtain ⟨fields, response, rfl, hresponse, hrows⟩ := h
  have hpart : responseOf (.obj fields) = .ok (.obj response) := by
    simp only [responseOf, Value.member, Fields.getD, hresponse, Option.getD_some]
    cases response <;> rfl
  have hlist : rowsOf e (.obj fields) = .ok (.list rows) := by
    unfold rowsOf
    rw [hpart]
    simp only [bind, Except.bind, Value.member, Fields.getD]
    rcases hrows with hrows | ⟨rfl, hrows⟩
    · rw [hrows]
      cases rows <;> rfl
    · rw [hrows]
      rfl
  rw [hlist]
  rfl

/-- The request for a query carries its text. -/
theorem exists_request {settings : Settings} {seconds : Binary64}
    (htimeout : settings.timeout = .ok seconds) {access : Access}
    (hcompany : access.realm.HasShortWholes) (sandbox : Option Bool) (text : String) :
    ∃ request, Inquiry.request settings access sandbox
        { method := "GET", path := "/query", params := [("query", .str text)] } = .ok request ∧
      Fields.get? request.params "query" = some (.str text) := by
  unfold Inquiry.request
  rw [Value.shown_of_short hcompany, htimeout]
  exact ⟨_, rfl, rfl⟩

/-- Asking for a window gives an answer that holds the rows in it, and keeps the settings. -/
theorem execute_ask {server : Server σ} {e : Entity} {head : String} {rows : List Value}
    (hserves : Serves server e head rows) {text : String} {size first : Nat}
    (hasks : Asks head text size first) {access : Access} (hcompany : access.realm.HasShortWholes)
    (sandbox : Option Bool) {s : Session σ} {seconds : Binary64}
    (htimeout : s.settings.timeout = .ok seconds) :
    ∃ data after, (Gateway.ask server access sandbox (.str text)).execute s = (.ok data, after) ∧
      after.settings = s.settings ∧ Holds e data ((rows.drop (first - 1)).take size) := by
  obtain ⟨request, hrequest, hquery⟩ := exists_request htimeout hcompany sandbox text
  obtain ⟨data, hresult, hholds⟩ := hserves request s.server text size first hquery hasks
  unfold Gateway.ask
  rw [Gateway.execute_inquire, hrequest]
  exact ⟨data, _, Prod.ext hresult rfl, rfl, hholds⟩

/-! ## 2. Numbers of pages -/

/-- The number of pages on which `total` rows are fetched, at most `cap`: a page that is not full
    is the last one, so there is one more than there are full pages. -/
def pageCount (total size cap : Nat) : Nat := min cap (total / size + 1)

theorem pageCount_zero (total size : Nat) : pageCount total size 0 = 0 := Nat.zero_min _

theorem pageCount_pos (total size : Nat) {cap : Nat} (h : 0 < cap) : 0 < pageCount total size cap :=
  Nat.lt_min.mpr ⟨h, Nat.succ_pos _⟩

/-- A page that is not full is the only one. -/
theorem pageCount_short {total size : Nat} (h : total < size) (cap : Nat) :
    pageCount total size (cap + 1) = 1 := by
  unfold pageCount
  rw [Nat.div_eq_of_lt h]
  omega

/-- After a full page there are as many as for the rows after it. -/
theorem pageCount_full {total size : Nat} (hsize : 0 < size) (h : size ≤ total) (cap : Nat) :
    pageCount total size (cap + 1) = pageCount (total - size) size cap + 1 := by
  unfold pageCount
  rw [Nat.div_eq_sub_div hsize h]
  omega

/-- The texts of the queries for some pages, one after another. -/
def pageTexts (head : String) (size : Nat) : (count offset : Nat) → List String
  | 0, _ => []
  | count + 1, offset =>
    (head ++ Query.windowText size offset) :: pageTexts head size count (offset + size)

theorem length_pageTexts (head : String) (size count offset : Nat) :
    (pageTexts head size count offset).length = count := by
  induction count generalizing offset with
  | zero => rfl
  | succ count ih => rw [pageTexts, List.length_cons, ih]

/-! ## 3. Page by page -/

/-- A full window, and what stands after it. -/
theorem take_window (rows : List Value) (offset size count : Nat) :
    (rows.drop offset).take ((count + 1) * size) =
      (rows.drop offset).take size ++ (rows.drop (offset + size)).take (count * size) := by
  rw [Nat.succ_mul, Nat.add_comm, List.take_add, List.drop_drop]

/-- **Fetching page by page** gives the rows from the offset on, each once and in order, up to as
    many as the allowed pages hold. -/
theorem execute_fetchPages {server : Server σ} {e : Entity} {head : String} {rows : List Value}
    (hserves : Serves server e head rows) {items : List Value} {size : Nat} (hsize : 0 < size)
    (hcompile : ∀ offset, offset + 1 < Numeral.writeLimit →
      Query.compile e (.entries (pageEntries items size offset)) =
        .ok (head ++ Query.windowText size offset))
    {access : Access} (hcompany : access.realm.HasShortWholes) (sandbox : Option Bool)
    (budget offset : Nat) {s : Session σ} {seconds : Binary64}
    (htimeout : s.settings.timeout = .ok seconds)
    (hwritable : ∀ i < pageCount (rows.length - offset) size budget,
      offset + i * size + 1 < Numeral.writeLimit) :
    ∃ after, (fetchPages server access sandbox e items size budget offset).execute s =
      (.ok ⟨(rows.drop offset).take (budget * size),
        pageTexts head size (pageCount (rows.length - offset) size budget) offset⟩, after) := by
  induction budget generalizing offset s with
  | zero =>
    refine ⟨s, ?_⟩
    rw [fetchPages, pageCount_zero, Nat.zero_mul, List.take_zero]
    rfl
  | succ budget ih =>
    have hpositive := pageCount_pos (rows.length - offset) size (Nat.succ_pos budget)
    have hfirst : offset + 1 < Numeral.writeLimit := by
      have := hwritable 0 hpositive
      omega
    obtain ⟨data, next, hask, hsettings, hholds⟩ :=
      execute_ask hserves (asks_window head hsize offset) hcompany sandbox htimeout
    have hbatch := batch_of_holds hholds
    rw [Nat.add_sub_cancel] at hbatch
    have hlength : ((rows.drop offset).take size).length = min size (rows.length - offset) := by
      rw [List.length_take, List.length_drop]
    rw [fetchPages, Gateway.execute_bind, Gateway.execute_ofExcept, hcompile offset hfirst]
    dsimp only
    rw [Gateway.execute_bind, hask]
    dsimp only
    rw [Gateway.execute_bind, Gateway.execute_ofMisuse, hbatch]
    dsimp only [Failure.ofMisuse]
    by_cases hshort : rows.length - offset < size
    · have hless : (((rows.drop offset).take size).length : Int) < size := by omega
      rw [if_pos hless, Gateway.execute_pure, pageCount_short hshort]
      have hall : ∀ n, size ≤ n → (rows.drop offset).take n = rows.drop offset := fun n hn =>
        List.take_of_length_le (by rw [List.length_drop]; omega)
      rw [hall _ (Nat.le_refl _), hall _ (Nat.le_mul_of_pos_left _ (Nat.succ_pos _))]
      exact ⟨next, rfl⟩
    · have hfull : ¬ (((rows.drop offset).take size).length : Int) < size := by omega
      have hcount := pageCount_full hsize (Nat.not_lt.mp hshort) budget
      rw [Nat.sub_sub] at hcount
      rw [← hsettings] at htimeout
      obtain ⟨after, hmore⟩ := ih (offset + size) htimeout (by
        intro i hi
        have := hwritable (i + 1) (by omega)
        rw [Nat.succ_mul] at this
        omega)
      rw [if_neg hfull, Gateway.execute_bind, ← Int.natCast_add, hmore, hcount, take_window]
      exact ⟨after, rfl⟩

/-! ## 4. Searches for all pages -/

/-- The number of rows on a page of a search: the bound of its query, or the greatest that there is
    when it has none or zero. -/
def pageRows (q : Query) : Nat := (q.shownLimit.getD maxPageSize).toNat

/-- The number of rows that a search leaves out. -/
def skipped (q : Query) : Nat := (q.offset.getD 0).toNat

/-- The rows that a search gets from a server on at most `cap` pages. -/
def fetchedRows (q : Query) (rows : List Value) (cap : Nat) : List Value :=
  (rows.drop (skipped q)).take (cap * pageRows q)

/-- The number of pages on which it gets them. -/
def fetchedPages (q : Query) (rows : List Value) (cap : Nat) : Nat :=
  pageCount (rows.length - skipped q) (pageRows q) cap

theorem pageRows_bounds {e : Entity} {q : Query} (h : q.IsSound e) :
    0 < pageRows q ∧ pageRows q ≤ 1000 := by
  unfold pageRows
  cases hlimit : q.limit with
  | none =>
    unfold Query.shownLimit
    rw [hlimit]
    decide
  | some n =>
    obtain ⟨h0, h1⟩ := h.limit n hlimit
    unfold maxPageSize at h1
    rw [Query.shownLimit_of_limit hlimit]
    by_cases hn : n = 0
    · rw [if_pos hn]
      decide
    · rw [if_neg hn, Option.getD_some]
      omega

theorem pageSize_eq_pageRows {e : Entity} {items : List Value} (h : ∀ v ∈ items, WellFormed e v)
    {q : Query} (hq : q = Query.extended { entity := e.name } (Query.mappings items))
    (hsound : q.IsSound e) : pageSize items = pageRows q := by
  have hpositive := (pageRows_bounds hsound).1
  unfold pageRows at hpositive ⊢
  rw [pageSize_eq h hq]
  omega

theorem startOffset_eq_skipped {e : Entity} {items : List Value} (h : ∀ v ∈ items, WellFormed e v)
    {q : Query} (hq : q = Query.extended { entity := e.name } (Query.mappings items))
    (hsound : q.IsSound e) : startOffset items = skipped q := by
  unfold skipped
  rw [startOffset_eq h hq]
  cases hoffset : q.offset with
  | none => rfl
  | some n =>
    have := hsound.offset n hoffset
    rw [Option.getD_some]
    omega

theorem execute_fetchAll {server : Server σ} {access : Access} {sandbox : Option Bool} {e : Entity}
    {items : List Value} {s : Session σ} {cap : Int} (hcap : s.settings.pageCap = .ok cap) :
    (fetchAll server access sandbox e items).execute s =
      (fetchPages server access sandbox e items (pageSize items) cap.toNat
        (startOffset items)).execute s := by
  unfold fetchAll
  rw [Gateway.execute_bind, Gateway.execute_session]
  dsimp only
  rw [Gateway.execute_bind, Gateway.execute_ofExcept, hcap]

theorem pagesResult_pageTexts (access : Access) (e : Entity) (rows : List Value) (head : String)
    (size offset : Nat) {count : Nat} (hcount : 0 < count) :
    pagesResult access e ⟨rows, pageTexts head size count offset⟩ =
      .ok (.obj [("realm_id", access.realm), ("entity", .str e.name),
        ("query", .str (head ++ Query.windowText size offset)), ("pages", .int count),
        ("count", .int rows.length), (e.resultKey, .list rows)]) := by
  have hlength := length_pageTexts head size count offset
  cases count with
  | zero => exact absurd hcount (Nat.lt_irrefl 0)
  | succ count =>
    rw [pageTexts] at hlength ⊢
    unfold pagesResult
    dsimp only
    rw [hlength]

/-- **A search for all pages gets all rows.** When criteria are accepted, make a query for rows, and
    ask for all pages, then from a server that holds a list of rows the search gets the rows from
    the offset on, each once and in order, up to as many as the allowed pages hold; and it tells
    their number and the number of pages. Whole numbers in the conditions and in the company, and the
    last position that is asked for, have to be short enough to be written. -/
theorem run_fetchAll {server : Server σ} {entity : Value} {e : Entity}
    (hentity : Entity.get entity = .ok e) {raw : Value} {criteria : Criteria}
    (haccept : Query.accept e raw = .ok criteria) {q : Query}
    (hquery : Query.ofCriteria e.name criteria = .ok q) (hrows : q.countOnly = false)
    (hall : (lastOf .fetchAll criteria.asEntries).isTruthy = true)
    (hconditions : ∀ c ∈ q.conditions, c.HasShortWholes) {realm : Value}
    {s : Session σ} {access : Access}
    (haccess : Access.resolve s.settings s.credentials realm = .ok access)
    (hcompany : access.realm.HasShortWholes) {seconds : Binary64}
    (htimeout : s.settings.timeout = .ok seconds) {cap : Nat} (hcap : s.settings.pageCap = .ok cap)
    (hpositive : 1 ≤ cap) {rows : List Value} (hserves : Serves server e q.windowless rows)
    (hwritable : skipped q + (fetchedPages q rows cap - 1) * pageRows q + 1 < Numeral.writeLimit)
    (sandbox : Option Bool) :
    (∃ after, (run server sandbox realm entity raw).execute s =
      (.ok (.obj [("realm_id", access.realm), ("entity", .str e.name),
        ("query", .str (q.windowless ++ Query.windowText (pageRows q) (skipped q))),
        ("pages", .int (fetchedPages q rows cap)),
        ("count", .int (fetchedRows q rows cap).length),
        (e.resultKey, .list (fetchedRows q rows cap))]), after)) ∧
      (rows.length - skipped q ≤ cap * pageRows q →
        fetchedRows q rows cap = rows.drop (skipped q)) := by
  have hprepare := Query.prepare_of_accept haccept
  obtain ⟨hvalid, _⟩ := Query.prepare_spec hprepare
  obtain ⟨hcount, hq⟩ := Query.extended_of_prepare hprepare hquery hrows
  have hsound : q.IsSound e := by
    rw [hq]
    exact Query.isSound_extended (Query.wellFormed_of_mappings hvalid)
  have hsize := pageRows_bounds hsound
  have hpages : 0 < fetchedPages q rows cap := pageCount_pos _ _ hpositive
  have hcompile : ∀ offset, offset + 1 < Numeral.writeLimit →
      Query.compile e (.entries (pageEntries criteria.asEntries (pageRows q) offset)) =
        .ok (q.windowless ++ Query.windowText (pageRows q) offset) := by
    intro offset hoffset
    rw [compile_pageEntries hvalid hcount hsize.2, ← hq, Query.text_window hsound hrows hsize.2,
      if_pos ⟨hconditions, hoffset⟩, Query.render_window hrows hsize.1]
  have hpositions : ∀ i < fetchedPages q rows cap,
      skipped q + i * pageRows q + 1 < Numeral.writeLimit := by
    intro i hi
    have := Nat.mul_le_mul_right (pageRows q) (Nat.le_sub_one_of_lt hi)
    omega
  have hfirst : skipped q + 1 < Numeral.writeLimit := by
    have := hpositions 0 hpages
    omega
  obtain ⟨after, hfetch⟩ := execute_fetchPages hserves hsize.1 hcompile hcompany sandbox cap
    (skipped q) htimeout hpositions
  have hfetchAll : (fetchAll server access sandbox e criteria.asEntries).execute s =
      (.ok ⟨fetchedRows q rows cap,
        pageTexts q.windowless (pageRows q) (fetchedPages q rows cap) (skipped q)⟩, after) := by
    rw [execute_fetchAll hcap, pageSize_eq_pageRows hvalid hq hsound,
      startOffset_eq_skipped hvalid hq hsound, Int.toNat_natCast]
    exact hfetch
  have htext : q.text = .ok q.render := by
    rw [Query.text_of_rows hsound hrows rfl, if_pos ⟨hconditions, hfirst⟩]
  have hresult := pagesResult_pageTexts access e (fetchedRows q rows cap) q.windowless (pageRows q)
    (skipped q) hpages
  refine ⟨⟨after, ?_⟩, ?_⟩
  · unfold run
    simp only [Gateway.execute_bind, Gateway.execute_ofExcept, Gateway.execute_access, hentity,
      haccept, haccess, hquery, htext, hrows, hall, Bool.false_eq_true, if_false, if_true,
      hfetchAll, Gateway.execute_ofMisuse, hresult]
    rfl
  · intro hfits
    refine List.take_of_length_le ?_
    rw [List.length_drop]
    exact hfits

/-- The rows of a server with one customer. -/
def oneRow : List Value := [.obj [("Id", .str "1")]]

/-- An answer with rows of customers. -/
def rowsReply (rows : List Value) : Reply where
  status := 200
  contentType := some "application/json"
  body := Json.write .tight (.obj [("QueryResponse", .obj [("Customer", .list rows)])])

/-- The rows in the window that a text asks for. -/
def askedRows (text : String) : List Value :=
  match Reading.read text with
  | some r => (oneRow.drop (r.first.getD 1 - 1)).take (r.limit.getD 0)
  | none => []

/-- A server that holds one customer. -/
def oneRowServer : Server Unit where
  handle request _ :=
    match Fields.get? request.params "query" with
    | some (.str text) => (.answered (rowsReply (askedRows text)), ())
    | _ => (.answered emptyReply, ())

theorem window_oneRow (offset size : Nat) :
    (oneRow.drop offset).take size = [] ∨ (oneRow.drop offset).take size = oneRow := by
  match offset, size with
  | 0, 0 | 0, _ + 1 | _ + 1, _ => simp [oneRow]

/-- The answer with a window of the one row means what it says. -/
theorem result_rowsReply {rows : List Value} (h : rows = [] ∨ rows = oneRow) :
    (Delivery.answered (rowsReply rows)).result =
      .ok (.obj [("QueryResponse", .obj [("Customer", .list rows)])]) := by
  rcases h with rfl | rfl <;> rfl

theorem askedRows_window {size : Nat} (hsize : 0 < size) (offset : Nat) :
    askedRows (Query.window { entity := "Customer" } size offset).render =
      (oneRow.drop offset).take size := by
  have hreadable : Reading.IsReadableQuery (Query.window { entity := "Customer" } size offset) :=
    { entity := show Entity.isWord "Customer" = true by decide
      conditions := fun c hc => absurd hc List.not_mem_nil
      order := fun _ _ h => by cases h
      limit := fun n hn => by cases hn; exact Int.natCast_nonneg _
      offset := fun n hn => by cases hn; exact Int.natCast_nonneg _
      rows := rfl }
  have hread := Reading.read_render hreadable
  obtain ⟨more, rfl⟩ := Nat.exists_eq_add_of_le' hsize
  unfold askedRows
  rw [hread]
  cases offset <;> rfl

theorem serves_oneRowServer :
    Serves oneRowServer Entity.all[3] (Query.windowless { entity := "Customer" }) oneRow := by
  intro request state text size first hquery hasks
  obtain ⟨hsize, offset, rfl, rfl⟩ := render_of_asks rfl hasks
  refine ⟨.obj [("QueryResponse", .obj [("Customer", .list ((oneRow.drop offset).take size))])],
    ?_, _, _, rfl, rfl, Or.inl rfl⟩
  simp only [oneRowServer, hquery]
  rw [askedRows_window hsize]
  exact result_rowsReply (window_oneRow offset size)

/-- A session of a caller with a token and a company. -/
def desk : Session Unit where
  credentials := some { token := some "token", realm := some "9130" }
  server := ()

theorem run_fetchAll_oneRow :
    ∃ after, (run oneRowServer none .null (.str "customer")
      (.obj [("limit", .int 1), ("fetchAll", .bool true)])).execute desk =
        (.ok (.obj [("realm_id", .str "9130"), ("entity", .str "Customer"),
          ("query", .str "SELECT * FROM Customer MAXRESULTS 1"), ("pages", .int 2),
          ("count", .int 1), ("customers", .list oneRow)]), after) := by
  have haccept : Query.accept Entity.all[3]
      (.obj [("limit", .int 1), ("fetchAll", .bool true)]) =
        .ok (.entries [Entry.bare "limit" (.int 1), Entry.bare "fetchAll" (.bool true)]) := rfl
  have hquery : Query.ofCriteria "Customer"
      (.entries [Entry.bare "limit" (.int 1), Entry.bare "fetchAll" (.bool true)]) =
        .ok { entity := "Customer", limit := some 1 } := rfl
  have hentity : Entity.get (.str "customer") = .ok Entity.all[3] := rfl
  have haccess : Access.resolve desk.settings desk.credentials .null =
      .ok ⟨"token", .str "9130"⟩ := rfl
  have hpages := run_fetchAll hentity haccept hquery rfl rfl nofun haccess
    (Value.hasShortWholes_str _) rfl rfl (by decide) serves_oneRowServer
    (Numeral.lt_writeLimit (by decide)) none
  exact hpages.1

/-- A server that holds no rows. -/
def emptyServer : Server Unit where
  handle _ _ := (.answered emptyReply, ())

theorem serves_emptyServer (e : Entity) (head : String) : Serves emptyServer e head [] := by
  intro request state text size first _ _
  refine ⟨.obj [("QueryResponse", .obj [])], rfl, _, _, rfl, rfl, Or.inr ⟨?_, rfl⟩⟩
  rw [List.drop_nil, List.take_nil]

/-- Criteria that ask for all pages from an offset on. -/
def pagesFrom (offset : Nat) : Value := .obj [("fetchAll", .bool true), ("offset", .int offset)]

theorem accept_pagesFrom (e : Entity) (offset : Nat) :
    Query.accept e (pagesFrom offset) =
      .ok (.entries [Entry.bare "offset" (.int offset), Entry.bare "fetchAll" (.bool true)]) := by
  refine Query.accept_eq_ok_iff.mpr ⟨nofun, ?_⟩
  refine prepare_eq_ok.mpr ⟨rfl, fun v hv => ?_⟩
  rcases List.mem_cons.mp hv with rfl | hv
  · exact .directive (d := .offset) rfl (.offset (Int.natCast_nonneg _))
  · obtain rfl := List.mem_singleton.mp hv
    exact .directive (d := .fetchAll) rfl (.fetchAll _)

theorem ofCriteria_pagesFrom (entity : String) (offset : Nat) :
    Query.ofCriteria entity
        (.entries [Entry.bare "offset" (.int offset), Entry.bare "fetchAll" (.bool true)]) =
      .ok { entity, offset := some (offset : Int) } := rfl

/-- An offset after which no position can be written: a search for all pages fails, though the
    server holds no rows that could be missed. -/
theorem run_fetchAll_tooFar :
    ∃ criteria q,
      Query.accept Entity.all[3] (pagesFrom (Numeral.writeLimit - 1)) = .ok criteria ∧
      Query.ofCriteria Entity.all[3].name criteria = .ok q ∧ q.countOnly = false ∧
      (lastOf .fetchAll criteria.asEntries).isTruthy = true ∧ q.conditions = [] ∧
      Access.resolve desk.settings desk.credentials .null = .ok ⟨"token", .str "9130"⟩ ∧
      (∃ seconds, desk.settings.timeout = .ok seconds) ∧ desk.settings.pageCap = .ok 100 ∧
      Serves emptyServer Entity.all[3] q.windowless [] ∧
      (run emptyServer none .null (.str "Customer") (pagesFrom (Numeral.writeLimit - 1))).execute
        desk = (.error .unwritableWhole, desk) := by
  have haccept := accept_pagesFrom Entity.all[3] (Numeral.writeLimit - 1)
  have hquery := ofCriteria_pagesFrom Entity.all[3].name (Numeral.writeLimit - 1)
  refine ⟨_, _, haccept, hquery, rfl, rfl, rfl, rfl, ⟨_, rfl⟩, rfl, serves_emptyServer _ _, ?_⟩
  have hentity : Entity.get (.str "Customer") = .ok Entity.all[3] := rfl
  have haccess : Access.resolve desk.settings desk.credentials .null =
      .ok ⟨"token", .str "9130"⟩ := rfl
  have htext : Query.text
      { entity := Entity.all[3].name, offset := some ((Numeral.writeLimit - 1 : Nat) : Int) } =
        .error .unwritableWhole := if_neg (by decide +kernel)
  unfold run
  simp only [Gateway.execute_bind, Gateway.execute_ofExcept, Gateway.execute_access, hentity,
    haccept, haccess, hquery, htext]

end BooksGateway.Search
