import BooksGateway.Criteria.Directive

/-!
# Search criteria

Criteria come in several shapes: nothing, a list of entries, a mapping with a list of filters beside
directives, a mapping of directives, a flat mapping of fields, or a mapping that mixes both.
`Shape.of` tells them apart, and `Criteria.normalize` brings each to one of two forms: a list of
entries, or a mapping of fields to the values they must equal.

1. Shapes.
2. Normal form.
3. Reading criteria as entries.
-/

namespace BooksGateway

/-! ## 1. Shapes -/

/-- The shapes in which criteria are written. -/
inductive Shape where
  /-- No criteria. -/
  | empty
  /-- A list of entries. -/
  | array (entries : List Value)
  /-- Filters in a list of their own, and directives as options. -/
  | advanced (filters : List Value) (options : List (Directive × Value))
  /-- Fields with the values they must equal. -/
  | simple (fields : Fields)
  /-- Fields and reserved keys side by side. -/
  | mixed (fields : Fields)

namespace Shape

/-- The filters under the key for them. What is not a list is kept as an entry that validation turns
    down. -/
def filterList : Value → List Value
  | .null => []
  | .list items => items
  | v => [Entry.bare Directive.filtersKey v]

/-- The directives among the keys of a mapping, in the order of `Directive.all`. -/
def options (fields : Fields) : List (Directive × Value) :=
  Directive.all.filterMap fun d => (fields.get? d.key).map fun v => (d, v)

/-- The shape of a mapping. -/
def ofFields (fields : Fields) : Shape :=
  match fields.get? Directive.filtersKey with
  | some filters => .advanced (filterList filters) (options fields)
  | none =>
    if fields.isEmpty then .empty
    else if fields.all fun (key, _) => Directive.isReserved key then .advanced [] (options fields)
    else if fields.any fun (key, _) => Directive.isReserved key then .mixed fields
    else .simple fields

/-- The shape of a value. What is neither a list nor a mapping means no criteria. -/
def of : Value → Shape
  | .list items => .array items
  | .obj fields => ofFields fields
  | _ => .empty

end Shape

/-! ## 2. Normal form -/

/-- Criteria in normal form. -/
inductive Criteria where
  /-- Filters and directives in a list. Nothing is known of an entry before validation. -/
  | entries (items : List Value)
  /-- Fields with the values they must equal. -/
  | equalities (fields : Fields)

namespace Criteria

/-- Entries as criteria; none at all is an empty mapping. -/
def ofEntries : List Value → Criteria
  | [] => .equalities []
  | items => .entries items

/-- A filter with its three parts written out; what is not a mapping stays as it is. -/
def fullEntry : Value → Value
  | .obj entry =>
    .obj [("field", Entry.field entry), ("value", Entry.value entry),
      ("operator", Entry.operator entry)]
  | v => v

/-- The entry for one key of a mixed mapping. -/
def mixedEntry (key : String) (v : Value) : Value :=
  if Directive.isReserved key then
    match Directive.ofKey? key with
    | some .count | some .fetchAll => Entry.bare key (.bool true)
    | _ => Entry.bare key v
  else Entry.equality key v

/-- The normal form of a shape. -/
def ofShape : Shape → Criteria
  | .empty => .equalities []
  | .array items => .entries items
  | .advanced filters options =>
    ofEntries (filters.map fullEntry ++ options.filterMap fun (d, v) => d.entry? v)
  | .simple fields => .equalities fields
  | .mixed fields => ofEntries (fields.map fun (key, v) => mixedEntry key v)

/-- The normal form of a value. -/
def normalize (raw : Value) : Criteria := ofShape (.of raw)

/-! ## 3. Reading criteria as entries -/

/-- Criteria as a value. -/
def toValue : Criteria → Value
  | .entries items => .list items
  | .equalities fields => .obj fields

/-- A value read as criteria in normal form: a list, a mapping, or nothing given. -/
def ofValue : Value → Except Misuse Criteria
  | .list items => .ok (.entries items)
  | .obj fields => .ok (.equalities fields)
  | v => if v.isTruthy then .error .noSuchOperation else .ok (.equalities [])

/-- Criteria as a list of entries: a mapping asks for one equality per field. -/
def asEntries : Criteria → List Value
  | .entries items => items
  | .equalities fields => fields.map fun (key, v) => Entry.equality key v

end Criteria

end BooksGateway
