import BooksGateway.Criteria
import BooksGateway.Entity.Lookup
import BooksGateway.Number.Numeral
import BooksGateway.Value.Display

/-!
# Coercion of values to the kind of their field

A value given for a field is turned into the kind that the field holds where that is possible:
numbers written as text become numbers, numbers become text, and everything becomes a truth value.
What cannot be turned stays as it is, for validation to turn down. A list is turned item by item,
one level deep.

A whole number becomes a text by being written, and a list or a mapping is never written. Numbers
are taken to be short enough here; `Criteria.written` lists those that have to be.

1. One value.
2. Filters and criteria.
3. Criteria that were not brought into normal form.
4. Whole numbers that are written.
-/

namespace BooksGateway

/-! ## 1. One value -/

namespace FieldKind

/-- A text read as a number: as a whole number if it is written as one, else as a finite decimal
    number, which counts as whole when its value is. -/
def numberOfText (s : String) : Value :=
  match Numeral.readWhole (Text.strip s.toList) with
  | .ok n => .int n
  | .error _ =>
    match Numeral.readFloat? (Text.strip s.toList) with
    | some x =>
      if x.isFinite then
        match x.toInt? with
        | some n => .int n
        | none => .float x
      else .str s
    | none => .str s

/-- A value as a number. -/
def toNumber : Value → Value
  | .bool b => .int (if b then 1 else 0)
  | .str s => numberOfText s
  | v => v

/-- A value as a truth value: a number is true when it is one, a text when it says so. -/
def toFlag : Value → Value
  | .bool b => .bool b
  | .int n => .bool (n == 1)
  | .float x => .bool x.isOne
  | .str s => .bool (s == "true" || s == "1")
  | _ => .bool false

/-- A value as a text. -/
def toText : Value → Value
  | .bool b => .str (if b then "true" else "false")
  | .int n => .str (toString n)
  | .float x => .str (Value.floatText x)
  | v => v

/-- A single value turned into a kind; dates are kept as texts. -/
def coerceOne : FieldKind → Value → Value
  | .text => toText
  | .number => toNumber
  | .flag => toFlag
  | .date => toText

/-- A value, or each item of a list, turned into a kind. -/
def coerce (kind : FieldKind) : Value → Value
  | .list items => .list (items.map kind.coerceOne)
  | v => kind.coerceOne v

end FieldKind

/-- A value turned into the kind of its field; without a field it stays as it is. -/
def coerceFor (spec : Option FieldSpec) (v : Value) : Value :=
  match spec with
  | some spec => spec.kind.coerce v
  | none => v

/-! ## 2. Filters and criteria -/

namespace FieldTable

/-- The field that a value names. -/
def named? (table : FieldTable) : Value → Option FieldSpec
  | .str name => table.find? name
  | _ => none

/-- A filter with its value turned into the kind of its field. -/
def coerceFilter (table : FieldTable) (entry : Fields) : Fields :=
  entry.put "value" (coerceFor (table.named? (Entry.field entry)) (Entry.value entry))

/-- An entry with its value turned; directives, and what is not a mapping, stay as they are. -/
def coerceEntry (table : FieldTable) : Value → Value
  | .obj entry =>
    if Entry.isDirective entry then .obj entry else .obj (table.coerceFilter entry)
  | v => v

end FieldTable

namespace Criteria

/-- Criteria with every value turned into the kind of its field. -/
def coerce (e : Entity) : Criteria → Criteria
  | .entries items => .entries (items.map e.fields.coerceEntry)
  | .equalities fields =>
    .equalities (fields.map fun (key, v) => (key, coerceFor (e.fields.find? key) v))

/-! ## 3. Criteria that were not brought into normal form -/

/-- A value taken as criteria for the entity that another value names, and turned. Criteria for an
    unknown entity stay as they are. -/
def coerceValue (entity canonical : Value) : Except Misuse Value := do
  match ← Entity.find? entity with
  | none => return canonical
  | some e => return ((← ofValue canonical).coerce e).toValue

end Criteria

/-! ## 4. Whole numbers that are written -/

namespace FieldKind

/-- The whole numbers that are written when a single value is turned into a kind. -/
def writtenOne : FieldKind → Value → List Int
  | .text, .int n | .date, .int n => [n]
  | _, _ => []

/-- The whole numbers that are written when a value, or each item of a list, is turned. -/
def written (kind : FieldKind) : Value → List Int
  | .list items => items.flatMap kind.writtenOne
  | v => kind.writtenOne v

end FieldKind

/-- The whole numbers that are written when a value is turned into the kind of its field. -/
def writtenFor (spec : Option FieldSpec) (v : Value) : List Int :=
  match spec with
  | some spec => spec.kind.written v
  | none => []

/-- The whole numbers that are written when an entry is turned. -/
def FieldTable.writtenIn (table : FieldTable) : Value → List Int
  | .obj entry =>
    if Entry.isDirective entry then []
    else writtenFor (table.named? (Entry.field entry)) (Entry.value entry)
  | _ => []

namespace Criteria

/-- The whole numbers that are written when criteria are turned. -/
def written (e : Entity) : Criteria → List Int
  | .entries items => items.flatMap e.fields.writtenIn
  | .equalities fields => fields.flatMap fun (key, v) => writtenFor (e.fields.find? key) v

/-- The whole numbers that are written when a value is taken as criteria, and turned. -/
def writtenValue (entity canonical : Value) : List Int :=
  match Entity.find? entity, ofValue canonical with
  | .ok (some e), .ok criteria => criteria.written e
  | _, _ => []

end Criteria

end BooksGateway
