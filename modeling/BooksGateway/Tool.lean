import BooksGateway.Failure.Report
import BooksGateway.Session.Call

/-!
# Tools

Each thing that the gateway does is offered as a tool with a name, a description and named
arguments. There is one tool for raw queries, one to search each entity, and for each entity tools
to create, read and update an object, and to delete one where that is possible. The tools to search
are listed one by one; those for objects are made from the registry.

1. Tools to search.
2. The tools.
3. Names.
4. Descriptions.
5. Arguments.
6. Using a tool.
-/

namespace BooksGateway

/-! ## 1. Tools to search -/

/-- A tool to search, as it is listed. -/
structure SearchTool where
  /-- The name of the tool. -/
  name : String
  /-- The name of the entity that the description is about. -/
  described : String
  /-- The operation, as it stands in reports of failures. -/
  operation : String
  /-- The name of the entity that is searched. -/
  searched : String
  deriving DecidableEq, Repr

/-- The tools to search, in order. -/
def SearchTool.all : List SearchTool :=
  [ ⟨"quickbooks-search-accounts", "Account", "search accounts", "Account"⟩,
    ⟨"quickbooks-search-bills", "Bill", "search bills", "Bill"⟩,
    ⟨"quickbooks-search-bill-payments", "BillPayment", "search bill payments", "BillPayment"⟩,
    ⟨"quickbooks-search-customers", "Customer", "search customers", "Customer"⟩,
    ⟨"quickbooks-search-employees", "Employee", "search employees", "Employee"⟩,
    ⟨"quickbooks-search-estimates", "Estimate", "search estimates", "Estimate"⟩,
    ⟨"quickbooks-search-invoices", "Invoice", "search invoices", "Invoice"⟩,
    ⟨"quickbooks-search-items", "Item", "search items", "Item"⟩,
    ⟨"quickbooks-search-journal-entries", "JournalEntry", "search journal entries",
      "JournalEntry"⟩,
    ⟨"quickbooks-search-purchases", "Purchase", "search purchases", "Purchase"⟩,
    ⟨"quickbooks-search-vendors", "Vendor", "search vendors", "Vendor"⟩ ]

/-! ## 2. The tools -/

/-- What a tool does to an object of an entity. -/
inductive Verb where
  /-- Create an object. -/
  | create
  /-- Read an object. -/
  | get
  /-- Update an object. -/
  | update
  /-- Delete an object. -/
  | delete
  deriving DecidableEq, Repr

/-- A tool. -/
inductive Tool where
  /-- The tool for raw queries. -/
  | query
  /-- A tool to search, which is listed. -/
  | search (row : SearchTool) (listed : row ∈ SearchTool.all)
  /-- A tool for objects of an entity. -/
  | on (verb : Verb) (e : Entity)
  deriving DecidableEq

namespace Tool

/-- The tools for single objects of an entity. -/
def forObjects (e : Entity) : List Tool :=
  [.on .create e, .on .get e, .on .update e] ++ if e.isDeletable then [.on .delete e] else []

/-- All tools, in order. -/
def all : List Tool :=
  .query :: SearchTool.all.attach.map (fun row => .search row.1 row.2)
    ++ Entity.all.flatMap forObjects

/-! ## 3. Names -/

/-- The word for a verb. -/
def verbWord : Verb → String
  | .create => "create"
  | .get => "get"
  | .update => "update"
  | .delete => "delete"

/-- The name of a tool. -/
def name : Tool → String
  | .query => "quickbooks-search-query"
  | .search row _ => row.name
  | .on verb e => "quickbooks-" ++ verbWord verb ++ "-" ++ Text.replaceChar ' ' '-' e.singular

/-- The tool with a name. -/
def find? (name : String) : Option Tool := all.find? fun tool => tool.name == name

/-- The operation that a tool carries out, as it stands in reports of failures. -/
def operation : Tool → String
  | .query => "run query"
  | .search row _ => row.operation
  | .on verb e => verbWord verb ++ " " ++ e.singular

/-! ## 4. Descriptions -/

/-- Where the entities are documented. -/
def entityDocs : String :=
  "https://developer.intuit.com/app/developer/qbo/docs/api/accounting/all-entities"

/-- Where queries are documented. -/
def queryDocs : String :=
  "https://developer.intuit.com/app/developer/qbo/docs/develop/explore-the-quickbooks-online-api/"
    ++ "data-queries"

/-- A reference to documentation. -/
def reference (address : String) : String := "[See the documentation](" ++ address ++ ")"

/-- The reference to the documentation of an entity. -/
def entityReference (e : Entity) : String := reference (entityDocs ++ "/" ++ Text.lower e.name)

/-- How criteria are written. -/
def criteriaHelp : String :=
  "\n\nCriteria accepts three formats:\n"
    ++ "1. Empty object or pagination only: \x7b\x7d or "
    ++ "\x7b\"limit\": 20, \"desc\": \"MetaData.CreateTime\"\x7d\n"
    ++ "2. Array of filters, operators optional (default \"=\"):\n"
    ++ "   [\x7b\"field\": \"Balance\", \"value\": 0, \"operator\": \">\"\x7d, "
    ++ "\x7b\"field\": \"limit\", \"value\": 10\x7d]\n"
    ++ "3. Advanced options: \x7b\"filters\": [\x7b\"field\": \"Balance\", \"value\": 0, "
    ++ "\"operator\": \">\"\x7d], \"limit\": 10, \"desc\": \"TxnDate\"\x7d\n"
    ++ "A flat object without reserved keys, e.g. \x7b\"DisplayName\": \"Acme\"\x7d, is an "
    ++ "equality search.\n"
    ++ "Operators: =, <, >, <=, >=, LIKE (use % wildcards), IN (value is a list).\n"
    ++ "Reserved keywords (never filter field names): limit, offset, asc, desc, count, fetchAll, "
    ++ "filters.\n"
    ++ "Do not mix reserved keywords with field names in one flat object; use format 2 or 3 "
    ++ "instead.\n"
    ++ "count returns only the number of matches; fetchAll pages through every match."

/-- The description of a tool to search an entity. -/
def searchDescription (e : Entity) : String :=
  "Search " ++ e.plural ++ " in QuickBooks Online that match given criteria." ++ criteriaHelp
    ++ "\nFilterable fields: " ++ Value.joined ", " e.filterable ++ ".\n"
    ++ "Sortable fields: " ++ Value.joined ", " e.sortable ++ ". " ++ entityReference e

/-- The description of a tool. A tool to search is only made when the entity that it describes is in
    the registry. -/
def description : Tool → String
  | .query =>
    "Runs a raw QuickBooks query (SQL-like), e.g. SELECT * FROM Customer WHERE Active = true "
      ++ "MAXRESULTS 10. " ++ reference queryDocs
  | .search row _ =>
    ((Entity.all.find? fun e => e.name == row.described).map searchDescription).getD ""
  | .on .create e => "Creates a " ++ e.singular ++ " in QuickBooks Online. " ++ entityReference e
  | .on .get e => "Returns info about a " ++ e.singular ++ " by its Id. " ++ entityReference e
  | .on .update e =>
    "Updates a " ++ e.singular ++ ". The payload must be the full object including Id and "
      ++ "SyncToken. " ++ entityReference e
  | .on .delete e =>
    "Deletes a " ++ e.singular ++ " (requires Id and SyncToken). " ++ entityReference e

/-- What a client is told about the effects of a tool. -/
inductive Hint where
  /-- Nothing is changed. -/
  | readOnly
  /-- Something may be lost. -/
  | destructive
  deriving DecidableEq, Repr

/-- The hint of a tool, if it has one. -/
def hint? : Tool → Option Hint
  | .query => some .readOnly
  | .search _ _ => some .readOnly
  | .on .get _ => some .readOnly
  | .on .delete _ => some .destructive
  | _ => none

/-! ## 5. Arguments -/

/-- The arguments of a tool that have to be given. -/
def required : Tool → List String
  | .query => ["sql"]
  | .search _ _ => []
  | .on .create _ => ["payload"]
  | .on .get _ => ["entity_id"]
  | .on .update _ => ["payload"]
  | .on .delete _ => ["entity_id", "sync_token"]

/-- The argument that names the company. -/
def realmName : String := "realm_id"

/-- The arguments of a tool that may be left out. -/
def optional : Tool → List String
  | .search _ _ => ["criteria", realmName]
  | _ => [realmName]

/-- All arguments of a tool. -/
def arguments (tool : Tool) : List String := tool.required ++ tool.optional

/-- The arguments of a tool are complete, and there is none that the tool does not have. -/
def accepts (tool : Tool) (args : Fields) : Bool :=
  tool.required.all args.has && args.keys.all tool.arguments.contains

/-- The call that a tool makes for arguments. -/
def call (tool : Tool) (args : Fields) : Call :=
  match tool with
  | .query => .query (args.getD "sql")
  | .search row _ => .search (.str row.searched) (args.getD "criteria")
  | .on .create e => .create (.str e.name) (args.getD "payload")
  | .on .get e => .get (.str e.name) (args.getD "entity_id")
  | .on .update e => .update (.str e.name) (args.getD "payload")
  | .on .delete e => .delete (.str e.name) (args.getD "entity_id") (args.getD "sync_token")

/-! ## 6. Using a tool -/

/-- The failure of a tool whose call failed: the report of what is foreseen, and all else as it is.
    A report that cannot be made is a failure of its own. -/
def wrapped (settings : Settings) (operation : String) (failure : Failure) : Failure :=
  match failure.incident? with
  | some incident =>
    match incident.report settings (some operation) with
    | .ok text => .tool text
    | .error cause => .misuse cause
  | none => failure

variable {σ α : Type}

/-- A computation whose failures are reported to the caller of a tool. -/
def guarded (operation : String) (g : Gateway σ α) : Gateway σ α := do
  let s ← Gateway.session
  tryCatch g fun failure => throw (wrapped s.settings operation failure)

/-- Uses a tool with named arguments. -/
def use (server : Server σ) (tool : Tool) (args : Fields) : Gateway σ Value :=
  if tool.accepts args then
    guarded tool.operation
      ((tool.call args).perform server none (args.getD realmName))
  else throw (.misuse .unsuitable)

end Tool

end BooksGateway
