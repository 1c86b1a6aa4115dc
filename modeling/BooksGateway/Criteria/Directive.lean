import BooksGateway.Value

/-!
# Directives

A search is steered by six directives: how the rows are sorted, which window of them is wanted,
whether only their number is wanted, and whether all pages are fetched. A directive is written like
a filter, with its key as the field, so its keys never name a field of an entity.

1. The directives and their keys.
2. Reserved keys.
3. Entries.
-/

namespace BooksGateway

/-! ## 1. The directives and their keys -/

/-- What steers a search. -/
inductive Directive where
  /-- Sort by a field, rising. -/
  | ascending
  /-- Sort by a field, falling. -/
  | descending
  /-- At most so many rows. -/
  | limit
  /-- Leave out so many rows at the start. -/
  | offset
  /-- Only the number of rows. -/
  | count
  /-- All pages, one after another. -/
  | fetchAll
  deriving DecidableEq, Repr

namespace Directive

/-- All directives, in the order in which options are taken. -/
def all : List Directive := [.ascending, .descending, .limit, .offset, .count, .fetchAll]

/-- The key of a directive. -/
def key : Directive → String
  | .ascending => "asc"
  | .descending => "desc"
  | .limit => "limit"
  | .offset => "offset"
  | .count => "count"
  | .fetchAll => "fetchAll"

/-- The directive with a key. -/
def ofKey? (key : String) : Option Directive := all.find? fun d => d.key == key

/-- A directive is found under its own key, so no two have the same. -/
theorem ofKey?_key (d : Directive) : ofKey? d.key = some d := by
  cases d <;> rfl

/-- What is found under a key has that key. -/
theorem key_of_ofKey? {key : String} {d : Directive} (h : ofKey? key = some d) : d.key = key := by
  simpa using List.find?_some h

/-- Whether a value is the key of a directive. -/
def isKey : Value → Bool
  | .str s => (ofKey? s).isSome
  | _ => false

/-! ## 2. Reserved keys -/

/-- The key under which a mapping holds a list of filters; it is no directive. -/
def filtersKey : String := "filters"

/-- Whether a key of a mapping never names a field. -/
def isReserved (key : String) : Bool := (ofKey? key).isSome || key == filtersKey

end Directive

/-! ## 3. Entries -/

namespace Entry

/-- The operator of a filter that names none. -/
def defaultOperator : String := "="

/-- The field of an entry. -/
def field (entry : Fields) : Value := entry.getD "field"

/-- The value of an entry. -/
def value (entry : Fields) : Value := entry.getD "value"

/-- The operator of an entry: equality when there is none or it does not count as given. -/
def operator (entry : Fields) : Value := (entry.getD "operator").orElse (.str defaultOperator)

/-- An entry without an operator. -/
def bare (key : String) (v : Value) : Value := .obj [("field", .str key), ("value", v)]

/-- An entry that asks for equality. -/
def equality (key : String) (v : Value) : Value :=
  .obj [("field", .str key), ("value", v), ("operator", .str defaultOperator)]

/-- Whether an entry is a directive. -/
def isDirective (entry : Fields) : Bool := Directive.isKey (field entry)

end Entry

/-- The entry for a directive given as an option. Sorting, counting and fetching all pages
    need a value that counts as given, and the window needs a number; otherwise the option
    has no effect. -/
def Directive.entry? (d : Directive) (v : Value) : Option Value :=
  match d with
  | .ascending | .descending => if v.isTruthy then some (Entry.bare d.key v) else none
  | .limit | .offset => if v.isNumber then some (Entry.bare d.key v) else none
  | .count | .fetchAll => if v.isTruthy then some (Entry.bare d.key (.bool true)) else none

end BooksGateway
