import BooksGateway.Entity.Field
import BooksGateway.Text.Words

/-!
# Entities

The kinds of objects that the bookkeeping server keeps, with their names, the path under which they
are reached, and their fields. `Entity.all` is the registry.

1. Entities.
2. Notation for fields.
3. The registry.
4. Entities whose objects can be deleted.
-/

namespace BooksGateway

/-! ## 1. Entities -/

/-- A kind of object that the server keeps. -/
structure Entity where
  /-- Its name in queries. -/
  name : String
  /-- What one object is called. -/
  singular : String
  /-- What several objects are called. -/
  plural : String
  /-- The path under which its objects are reached. -/
  endpoint : String
  /-- Its fields. -/
  fields : FieldTable
  deriving DecidableEq, Repr

namespace Entity

/-- The fields that rows can be chosen by. -/
def filterable (e : Entity) : List String := e.fields.filterable

/-- The fields that rows can be sorted by. -/
def sortable (e : Entity) : List String := e.fields.sortable

/-- The key of the rows in the result of a search. -/
def resultKey (e : Entity) : String := Text.replaceChar ' ' '_' e.plural

/-! ## 2. Notation for fields -/

/-- A field that holds a text. -/
def text (name : String) : String × FieldSpec := (name, {})

/-- A field that holds a number. -/
def number (name : String) : String × FieldSpec := (name, { kind := .number })

/-- A field that holds a truth value. -/
def flag (name : String) : String × FieldSpec := (name, { kind := .flag })

/-- A field that holds a date. -/
def date (name : String) : String × FieldSpec := (name, { kind := .date })

/-- A field that is open to filtering only. -/
def filterOnly (field : String × FieldSpec) : String × FieldSpec :=
  (field.1, { field.2 with sortable := false })

/-- A field that is open to sorting only. -/
def sortOnly (field : String × FieldSpec) : String × FieldSpec :=
  (field.1, { field.2 with filterable := false })

/-- The fields that every entity has. -/
def commonFields : FieldTable :=
  [text "Id", date "MetaData.CreateTime", date "MetaData.LastUpdatedTime"]

/-! ## 3. The registry -/

/-- The registry of entities, in order. -/
def all : List Entity :=
  [ { name := "Account", singular := "account", plural := "accounts", endpoint := "/account"
      fields := commonFields ++ [
        text "Name", flag "SubAccount", text "ParentRef", text "Description",
        filterOnly (flag "Active"), filterOnly (text "Classification"),
        filterOnly (text "AccountType"), number "CurrentBalance"] },
    { name := "Bill", singular := "bill", plural := "bills", endpoint := "/bill"
      fields := commonFields ++ [
        text "SyncToken", date "TxnDate", date "DueDate", number "Balance", number "TotalAmt",
        text "VendorRef", text "APAccountRef", text "DocNumber", text "PrivateNote",
        number "ExchangeRate", text "DepartmentRef", text "CurrencyRef"] },
    { name := "BillPayment", singular := "bill payment", plural := "bill payments"
      endpoint := "/billpayment"
      fields := commonFields ++ [
        date "TxnDate", text "DocNumber", text "VendorRef", text "PayType", number "TotalAmt",
        text "PrivateNote", text "DepartmentRef", text "CurrencyRef"] },
    { name := "Customer", singular := "customer", plural := "customers", endpoint := "/customer"
      fields := commonFields ++ [
        text "DisplayName", text "GivenName", text "FamilyName", text "CompanyName",
        text "PrimaryEmailAddr", text "PrimaryPhone", number "Balance", flag "Active"] },
    { name := "Employee", singular := "employee", plural := "employees", endpoint := "/employee"
      fields := commonFields ++ [
        text "DisplayName", text "GivenName", text "FamilyName", text "PrimaryEmailAddr",
        text "PrimaryPhone", text "EmployeeNumber", flag "Active", date "HiredDate",
        date "ReleasedDate"] },
    { name := "Estimate", singular := "estimate", plural := "estimates", endpoint := "/estimate"
      fields := commonFields ++ [
        text "DocNumber", date "TxnDate", text "TxnStatus", text "CustomerRef",
        number "TotalAmt"] },
    { name := "Invoice", singular := "invoice", plural := "invoices", endpoint := "/invoice"
      fields := commonFields ++ [
        text "DocNumber", date "TxnDate", filterOnly (date "DueDate"),
        filterOnly (text "CustomerRef"), filterOnly (text "ClassRef"),
        filterOnly (text "DepartmentRef"), number "Balance", number "TotalAmt"] },
    { name := "Item", singular := "item", plural := "items", endpoint := "/item"
      fields := commonFields ++ [
        text "Name", filterOnly (flag "Active"), text "Type", filterOnly (text "Sku"),
        sortOnly (text "ParentRef"), sortOnly (text "PrefVendorRef"),
        sortOnly (number "UnitPrice"), sortOnly (number "QtyOnHand")] },
    { name := "JournalEntry", singular := "journal entry", plural := "journal entries"
      endpoint := "/journalentry"
      fields := commonFields ++ [
        text "DocNumber", date "TxnDate", text "PrivateNote", flag "Adjustment",
        number "TotalAmt", text "CurrencyRef"] },
    { name := "Purchase", singular := "purchase", plural := "purchases", endpoint := "/purchase"
      fields := commonFields ++ [
        text "DocNumber", date "TxnDate", text "PaymentType", text "AccountRef",
        text "EntityRef", number "TotalAmt", text "PrivateNote", text "DepartmentRef",
        flag "Credit"] },
    { name := "Vendor", singular := "vendor", plural := "vendors", endpoint := "/vendor"
      fields := commonFields ++ [
        text "SyncToken", text "GivenName", text "MiddleName", text "FamilyName",
        text "CompanyName", text "DisplayName", text "PrintOnCheckName", flag "Active",
        text "PrimaryPhone", text "AlternatePhone", text "Mobile", text "Fax",
        text "PrimaryEmailAddr", text "WebAddr", text "Title", number "Balance",
        number "BillRate", text "AcctNum", flag "Vendor1099"] } ]

/-! ## 4. Entities whose objects can be deleted -/

/-- The names of the entities whose objects can be deleted; others can only be made inactive. -/
def deletableNames : List String :=
  ["Bill", "BillPayment", "Customer", "Estimate", "JournalEntry", "Purchase", "Vendor"]

/-- Whether objects of an entity can be deleted. -/
def isDeletable (e : Entity) : Bool := deletableNames.contains e.name

end Entity

end BooksGateway
