import BooksGateway.Text.Words
import BooksGateway.Value

/-!
# Fields of an entity

A field has a kind of value and may be open to filtering, to sorting, or to both. A table of fields
can be written compactly, a token `name:kind:flags` for each field.

1. Kinds and specifications.
2. Tables.
3. Compact notation.
-/

namespace BooksGateway

/-! ## 1. Kinds and specifications -/

/-- The kinds of values that fields hold. -/
inductive FieldKind where
  /-- A text. -/
  | text
  /-- A number. -/
  | number
  /-- A truth value. -/
  | flag
  /-- A date, which is kept as a text. -/
  | date
  deriving DecidableEq, Repr

namespace FieldKind

/-- The name of a kind. -/
def name : FieldKind → String
  | .text => "string"
  | .number => "number"
  | .flag => "boolean"
  | .date => "date"

/-- The kind with a name. -/
def ofName? (name : String) : Option FieldKind :=
  [.text, .number, .flag, .date].find? fun (kind : FieldKind) => kind.name == name

/-- The kind with a letter; no letter means a text. -/
def ofLetter? : List Char → Option FieldKind
  | [] => some .text
  | ['s'] => some .text
  | ['n'] => some .number
  | ['b'] => some .flag
  | ['d'] => some .date
  | _ => none

end FieldKind

/-- What is known of a field. -/
structure FieldSpec where
  /-- The kind of its values. -/
  kind : FieldKind := .text
  /-- Whether rows can be chosen by it. -/
  filterable : Bool := true
  /-- Whether rows can be sorted by it. -/
  sortable : Bool := true
  deriving DecidableEq, Repr

/-! ## 2. Tables -/

/-- Fields by name, in order. -/
abbrev FieldTable := List (String × FieldSpec)

namespace FieldTable

/-- The field with a name. -/
def find? (table : FieldTable) (name : String) : Option FieldSpec := table.lookup name

/-- Stores a field: in its place when the name is there, at the end otherwise. -/
def put : FieldTable → String → FieldSpec → FieldTable
  | [], name, spec => [(name, spec)]
  | (other, known) :: rest, name, spec =>
    if other = name then (other, spec) :: rest else (other, known) :: put rest name spec

/-- The names of the fields that rows can be chosen by. -/
def filterable (table : FieldTable) : List String :=
  (table.filter fun (_, spec) => spec.filterable).map (·.1)

/-- The names of the fields that rows can be sorted by. -/
def sortable (table : FieldTable) : List String :=
  (table.filter fun (_, spec) => spec.sortable).map (·.1)

/-! ## 3. Compact notation -/

/-- Reads one token: a name, a letter for the kind, and flags, set apart by colons. The flag `o`
    closes the field to filtering, the flag `f` to sorting. -/
def readToken (token : List Char) : Except Misuse (String × FieldSpec) :=
  let (name, afterName) := Text.cut ':' token
  let (letter, flags) := Text.cut ':' afterName
  match FieldKind.ofLetter? letter with
  | some kind => .ok (String.ofList name, ⟨kind, !flags.contains 'o', !flags.contains 'f'⟩)
  | none => .error .missingKey

/-- Stores the fields of some tokens, one after another. -/
def putTokens : FieldTable → List (List Char) → Except Misuse FieldTable
  | table, [] => .ok table
  | table, token :: rest => do
    let (name, spec) ← readToken token
    putTokens (table.put name spec) rest

/-- Reads a table in compact notation. A name that comes again keeps its place and takes the later
    specification. -/
def ofText (text : String) : Except Misuse FieldTable := putTokens [] (Text.words text.toList)

end FieldTable

end BooksGateway
