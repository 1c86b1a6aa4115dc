import BooksGateway.Query.Compile
import BooksGateway.Session

/-!
# Searching

A search brings criteria into a query, asks the server, and shapes the answer: the number of rows,
one page of rows, or the rows of all pages, fetched one window after another until a page is short
or the cap on pages is reached.

1. Rows in an answer.
2. The window of a search.
3. All pages.
4. A search.
-/

namespace BooksGateway

/-! ## 1. Rows in an answer -/

namespace Search

/-- The part of an answer that holds the rows. -/
def responseOf (data : Value) : Except Misuse Value := do
  return (← data.member "QueryResponse").orElse (.obj [])

/-- The rows of an entity in an answer. -/
def rowsOf (e : Entity) (data : Value) : Except Misuse Value := do
  return (← (← responseOf data).member e.name).orElse (.list [])

/-- The number of rows in the answer to a counting query. -/
def totalOf (data : Value) : Except Misuse Value := do
  match ← responseOf data with
  | .obj fields => return (Fields.get? fields "totalCount").getD (.int 0)
  | _ => throw .noSuchOperation

/-! ## 2. The window of a search -/

/-- The value of the last entry for a directive, null when there is none. -/
def lastOf (d : Directive) (items : List Value) : Value :=
  let entries := (Query.mappings items).filter fun entry => Query.directiveOf? entry == some d
  match entries.getLast? with
  | some entry => Entry.value entry
  | none => .null

/-- The number of rows on a page: the last limit, or the greatest number there is when no limit is
    set or it is zero. -/
def pageSize (items : List Value) : Int :=
  match lastOf .limit items with
  | .int n => if n = 0 then Validation.maxPageSize else n
  | _ => Validation.maxPageSize

/-- The number of rows that are left out at the start. -/
def startOffset (items : List Value) : Int :=
  match lastOf .offset items with
  | .int n => n
  | _ => 0

/-- Whether an entry has a say in which window is asked for. -/
def isWindowEntry : Value → Bool
  | .obj entry =>
    match Query.directiveOf? entry with
    | some .limit | some .offset | some .fetchAll => true
    | _ => false
  | _ => false

/-- The entries for one page: the filters and the sort order of a search, with a window of
    its own. -/
def pageEntries (items : List Value) (size offset : Int) : List Value :=
  (items.filter fun v => !isWindowEntry v)
    ++ [Entry.bare Directive.limit.key (.int size), Entry.bare Directive.offset.key (.int offset)]

/-! ## 3. All pages -/

/-- What was fetched page by page. -/
structure Pages where
  /-- The rows of all pages. -/
  rows : List Value
  /-- The texts of the queries, one for each page. -/
  queries : List String

variable {σ : Type}

/-- Fetches pages until one is short, at most `budget` of them. -/
def fetchPages (server : Server σ) (access : Access) (sandbox : Option Bool) (e : Entity)
    (items : List Value) (size : Int) : (budget : Nat) → (offset : Int) → Gateway σ Pages
  | 0, _ => return ⟨[], []⟩
  | budget + 1, offset => do
    let text ← Gateway.ofExcept (Query.compile e (.entries (pageEntries items size offset)))
    let data ← Gateway.ask server access sandbox (.str text)
    let batch ← Gateway.ofMisuse (do (← rowsOf e data).elements)
    if (batch.length : Int) < size then return ⟨batch, [text]⟩
    else
      let more ← fetchPages server access sandbox e items size budget (offset + size)
      return ⟨batch ++ more.rows, text :: more.queries⟩

/-- Fetches all pages of a search; the settings say how many at most. -/
def fetchAll (server : Server σ) (access : Access) (sandbox : Option Bool) (e : Entity)
    (items : List Value) : Gateway σ Pages := do
  let cap ← Gateway.ofExcept (← Gateway.session).settings.pageCap
  fetchPages server access sandbox e items (pageSize items) cap.toNat (startOffset items)

/-! ## 4. A search -/

/-- The result of a search that counts rows. -/
def countResult (access : Access) (e : Entity) (query : String) (total : Value) : Value :=
  .obj [("realm_id", access.realm), ("entity", .str e.name), ("query", .str query),
    ("count", total)]

/-- The result of a search for one page. -/
def pageResult (access : Access) (e : Entity) (query : String) (count : Nat) (rows : Value) :
    Value :=
  .obj [("realm_id", access.realm), ("entity", .str e.name), ("query", .str query),
    ("count", .int count), (e.resultKey, rows)]

/-- The result of a search for all pages; it shows the query of the first page. -/
def pagesResult (access : Access) (e : Entity) (pages : Pages) : Except Misuse Value :=
  match pages.queries with
  | [] => .error .outOfRange
  | first :: _ =>
    .ok (.obj [("realm_id", access.realm), ("entity", .str e.name), ("query", .str first),
      ("pages", .int pages.queries.length), ("count", .int pages.rows.length),
      (e.resultKey, .list pages.rows)])

/-- Searches for the rows of an entity. -/
def run (server : Server σ) (sandbox : Option Bool) (realm entity criteria : Value) :
    Gateway σ Value := do
  let e ← Gateway.ofExcept (Entity.get entity)
  let canonical ← Gateway.ofExcept (Query.accept e criteria)
  let access ← Gateway.access realm
  let query ← Gateway.ofExcept (Query.ofCriteria e.name canonical)
  let text ← Gateway.ofExcept query.text
  if query.countOnly then
    let data ← Gateway.ask server access sandbox (.str text)
    let total ← Gateway.ofMisuse (totalOf data)
    return countResult access e text total
  else
    let items := canonical.asEntries
    if (lastOf .fetchAll items).isTruthy then
      let pages ← fetchAll server access sandbox e items
      Gateway.ofMisuse (pagesResult access e pages)
    else
      let data ← Gateway.ask server access sandbox (.str text)
      let rows ← Gateway.ofMisuse (rowsOf e data)
      let parts ← Gateway.ofMisuse rows.elements
      return pageResult access e text parts.length rows

end Search

end BooksGateway
