import BooksGateway.Criteria
import BooksGateway.Entity.Lookup
import BooksGateway.Value.Display

/-!
# Validation of criteria

Every entry of criteria is checked by itself, and each one that is not well formed gets one message.
The messages of all entries are collected in order.

A message names an operator that there is not, and so writes the whole numbers in it. They are taken
to be short enough here; `Validation.written` lists them.

1. Operators and limits.
2. Filters.
3. Directives.
4. Entries and criteria.
5. Whole numbers that are written.
-/

namespace BooksGateway.Validation

/-! ## 1. Operators and limits -/

/-- The operators of filters. -/
def operators : List String := ["=", "<", ">", "<=", ">=", "LIKE", "IN"]

/-- The operator that compares with a list. -/
def listOperator : String := "IN"

/-- The greatest number of rows that the server returns at once. -/
def maxPageSize : Int := 1000

/-- Whether a value is the name of an operator. -/
def isOperator : Value → Bool
  | .str s => operators.contains s
  | _ => false

/-- Whether a value is of a kind. -/
def hasKind : FieldKind → Value → Bool
  | .text, .str _ => true
  | .date, .str _ => true
  | .number, .int _ => true
  | .number, .float _ => true
  | .flag, .bool _ => true
  | _, _ => false

/-! ## 2. Filters -/

/-- A list of names as it stands in a message. -/
def nameList (names : List String) : String := Value.joined ", " names

/-- The message for a field that rows cannot be chosen by. -/
def fieldMessage (e : Entity) : String := "Field must be one of: " ++ nameList e.filterable

/-- The message for a value of the wrong kind. -/
def kindMessage (name : String) : String :=
  "Value type does not match expected type for field " ++ name

/-- What is wrong with the value of a filter. -/
def checkValue (name : String) (spec : FieldSpec) (operator : String) (v : Value) : Option String :=
  if operator = listOperator then
    match v with
    | .list (item :: items) =>
      if (item :: items).all (hasKind spec.kind) then none else some (kindMessage name)
    | _ => some ("Operator IN requires a non-empty list of values for field " ++ name)
  else
    match v with
    | .list _ => some ("Operator " ++ operator ++ " requires a single value for field " ++ name)
    | v => if hasKind spec.kind v then none else some (kindMessage name)

/-- What is wrong with the operator or the value of a filter on a known field. -/
def checkOperator (name : String) (spec : FieldSpec) (operator v : Value) : Option String :=
  match operator with
  | .str operator =>
    if operators.contains operator then checkValue name spec operator v
    else some (message (.str operator))
  | operator => some (message operator)
where
  /-- The message for an operator that there is not. -/
  message (operator : Value) : String :=
    "Invalid operator '" ++ operator.display ++ "' for field " ++ name ++ ". Must be one of: "
      ++ nameList operators

/-- What is wrong with a filter. -/
def checkFilter (e : Entity) (entry : Fields) : Option String :=
  match Entry.field entry with
  | .str name =>
    match e.fields.find? name with
    | some spec =>
      if spec.filterable then checkOperator name spec (Entry.operator entry) (Entry.value entry)
      else some (fieldMessage e)
    | none => some (fieldMessage e)
  | _ => some (fieldMessage e)

/-! ## 3. Directives -/

/-- Whether a value is the name of a field that rows can be sorted by. -/
def isSortable (e : Entity) : Value → Bool
  | .str s => e.sortable.contains s
  | _ => false

/-- What is wrong with a directive. -/
def checkDirective (e : Entity) (d : Directive) (v : Value) : Option String :=
  match d with
  | .ascending | .descending =>
    if isSortable e v then none else some ("Sort field must be one of: " ++ nameList e.sortable)
  | .limit =>
    match v with
    | .int n =>
      if n < 0 then some (rangeMessage d)
      else if maxPageSize < n then some ("limit must not exceed " ++ toString maxPageSize)
      else none
    | _ => some (rangeMessage d)
  | .offset =>
    match v with
    | .int n => if n < 0 then some (rangeMessage d) else none
    | _ => some (rangeMessage d)
  | .count | .fetchAll => none
where
  /-- The message for a bound of the window that is no natural number. -/
  rangeMessage (d : Directive) : String := d.key ++ " must be a non-negative integer"

/-! ## 4. Entries and criteria -/

/-- What is wrong with an entry. -/
def checkEntry (e : Entity) : Value → Option String
  | .obj entry =>
    match Entry.field entry with
    | .str name =>
      if name = Directive.filtersKey then some "filters must be a list of filter objects"
      else
        match Directive.ofKey? name with
        | some d => checkDirective e d (Entry.value entry)
        | none => checkFilter e entry
    | _ => checkFilter e entry
  | v => some ("Criteria entries must be objects, got " ++ v.kindName)

/-- Everything that is wrong with criteria, in the order of the entries. -/
def reasons (e : Entity) (criteria : Criteria) : List String :=
  criteria.asEntries.filterMap (checkEntry e)

/-- Turns down criteria with which something is wrong. -/
def check (e : Entity) (criteria : Criteria) : Except Failure Unit :=
  match reasons e criteria with
  | [] => .ok ()
  | found => .error (.rejected found)

/-! ## 5. Whole numbers that are written -/

/-- The whole numbers in the message for an entry: those of the operator of a filter on a known
    field, when there is no such operator. -/
def writtenIn (e : Entity) : Value → List Int
  | .obj entry =>
    match Entry.field entry with
    | .str name =>
      if Directive.isReserved name then []
      else
        match e.fields.find? name with
        | some spec =>
          if spec.filterable && !isOperator (Entry.operator entry) then
            (Entry.operator entry).wholes
          else []
        | none => []
    | _ => []
  | _ => []

/-- The whole numbers in everything that is wrong with criteria. -/
def written (e : Entity) (criteria : Criteria) : List Int := criteria.asEntries.flatMap (writtenIn e)

end BooksGateway.Validation
