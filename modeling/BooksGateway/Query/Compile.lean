import BooksGateway.Criteria.Coercion
import BooksGateway.Criteria.Validation
import BooksGateway.Query

/-!
# From criteria to queries

The entries of criteria are taken one after another: filters become conditions, and of several
directives of one sort the last one counts. A counting directive anywhere makes a counting query.

1. Whole numbers for the window.
2. One entry.
3. All entries.
4. The way from raw criteria to a text.
-/

namespace BooksGateway.Query

/-! ## 1. Whole numbers for the window -/

/-- The whole part of a number for the window; what is no number sets no bound. -/
def wholePart : Value → Except Failure (Option Int)
  | .int n => .ok (some n)
  | .float x =>
    match x.truncate? with
    | some n => .ok (some n)
    | none => if x = .nan then .error .noWholePart else .error (.misuse .tooLarge)
  | _ => .ok none

/-! ## 2. One entry -/

/-- The condition of a filter. -/
def conditionOf (entry : Fields) : Condition :=
  ⟨Entry.field entry, Entry.operator entry, Entry.value entry⟩

/-- The directive that an entry is. -/
def directiveOf? (entry : Fields) : Option Directive :=
  match Entry.field entry with
  | .str key => Directive.ofKey? key
  | _ => none

/-- A query with one more entry taken into account. -/
def take (q : Query) (entry : Fields) : Except Failure Query :=
  let v := Entry.value entry
  match directiveOf? entry with
  | some .ascending => .ok { q with order := some (v, .rising) }
  | some .descending => .ok { q with order := some (v, .falling) }
  | some .limit => do return { q with limit := ← wholePart v }
  | some .offset => do return { q with offset := ← wholePart v }
  | some .count => .ok q
  | some .fetchAll => .ok q
  | none => .ok { q with conditions := q.conditions ++ [conditionOf entry] }

/-! ## 3. All entries -/

/-- The mappings among entries. -/
def mappings : List Value → List Fields
  | [] => []
  | .obj entry :: rest => entry :: mappings rest
  | _ :: rest => mappings rest

/-- Whether an entry asks for the number of rows only. -/
def asksForCount (entry : Fields) : Bool :=
  directiveOf? entry == some .count && (Entry.value entry).isTruthy

/-- The query of a list of entries; what is not a mapping is passed over. -/
def ofEntries (entity : String) (items : List Value) : Except Failure Query :=
  let entries := mappings items
  if entries.any asksForCount then .ok { entity, countOnly := true }
  else entries.foldlM take { entity }

/-- The query of criteria in normal form. -/
def ofCriteria (entity : String) : Criteria → Except Failure Query
  | .entries items => ofEntries entity items
  | .equalities fields =>
    .ok { entity, conditions := fields.map fun (key, v) => ⟨.str key, .str "=", v⟩ }

/-! ## 4. The way from raw criteria to a text -/

/-- The query of any value. A text has characters and no mappings; other scalars have no entries. -/
def ofValue (entity : String) : Value → Except Failure Query
  | .list items => ofCriteria entity (.entries items)
  | .obj fields => ofCriteria entity (.equalities fields)
  | .null => ofCriteria entity (.equalities [])
  | .str _ => ofCriteria entity (.entries [])
  | _ => .error (.misuse .unsuitable)

/-- Fails when a whole number that is to be written has too many digits. -/
def checkWritable (wholes : List Int) : Except Failure Unit :=
  if wholes.all Numeral.isWritable then .ok () else .error .unwritableWhole

/-- The text of the query of any value, its values turned into the kinds of the fields first. -/
def compileValue (entity canonical : Value) : Except Failure String := do
  let coerced ← Failure.ofMisuse (Criteria.coerceValue entity canonical)
  checkWritable (Criteria.writtenValue entity canonical)
  (← ofValue entity.display coerced).text

/-- The text of the query of criteria for an entity, its values turned into the kinds of the fields
    first. -/
def compile (e : Entity) (criteria : Criteria) : Except Failure String := do
  checkWritable (criteria.written e)
  (← ofCriteria e.name (criteria.coerce e)).text

/-- Brings criteria into normal form, turns their values, and checks them. Whole numbers are taken
    to be short enough to be written on the way, where `accept` does not take that for granted. -/
def prepare (e : Entity) (raw : Value) : Except Failure Criteria := do
  let criteria := (Criteria.normalize raw).coerce e
  Validation.check e criteria
  return criteria

/-- The whole numbers that are written while criteria are prepared: those that become texts, and
    those in the message for an operator that there is not. -/
def written (e : Entity) (raw : Value) : List Int :=
  let criteria := Criteria.normalize raw
  criteria.written e ++ Validation.written e (criteria.coerce e)

/-- Prepares criteria, unless a whole number that is written on the way has too many digits. -/
def accept (e : Entity) (raw : Value) : Except Failure Criteria := do
  checkWritable (written e raw)
  prepare e raw

end BooksGateway.Query
