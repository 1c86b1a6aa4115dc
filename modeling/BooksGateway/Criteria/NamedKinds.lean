import BooksGateway.Criteria.Coercion
import BooksGateway.Pairs

/-!
# Coercion to named kinds

Kinds of fields can be given by their names, and a filter as any value. A name is looked at when a
value is turned, so a name that means nothing does no harm to the values of other fields.

1. Kinds by name.
2. Filters given as any value.
-/

namespace BooksGateway

/-! ## 1. Kinds by name -/

/-- The kind that a value names. -/
def FieldKind.ofValue : Value → Except Misuse FieldKind
  | .str name =>
    match ofName? name with
    | some kind => .ok kind
    | none => .error .missingKey
  | v => .error (if v.isScalar then .missingKey else .unsuitable)

/-- A value turned into the kind that another value names. -/
def coerceNamed (kind v : Value) : Except Misuse Value :=
  (FieldKind.ofValue kind).map fun kind => kind.coerce v

/-! ## 2. Filters given as any value -/

namespace Entry

/-- A filter given as any value. Only a mapping has a field and a value; of other values it is first
    seen whether they are pairs. -/
def ofValue : Value → Except Failure Fields
  | .obj entry => .ok entry
  | v => do
    let _ ← Pairs.ofValue v
    throw (.misuse .noSuchOperation)

/-- A filter with its value turned into the kind that is named for its field. -/
def coerceNamed (kinds entry : Fields) : Except Misuse Fields := do
  let v ← match (field entry).str?.bind kinds.get? with
    | some kind => BooksGateway.coerceNamed kind (value entry)
    | none => .ok (value entry)
  return entry.put "value" v

end Entry

end BooksGateway
