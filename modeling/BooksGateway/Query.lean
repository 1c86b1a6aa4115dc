import BooksGateway.Failure

/-!
# Queries

A query names an entity, conditions that rows meet, a sort order and a window of rows; or it asks
for the number of rows only. Its text is an instruction of the server's query language, whose
clauses stand in a fixed order.

1. Literals.
2. Conditions.
3. The clauses of an instruction.
4. Queries.
-/

namespace BooksGateway

/-! ## 1. Literals -/

namespace Literal

/-- One character inside a quoted literal: a single quote is escaped, every other stands
    for itself. -/
def quotedChar (c : Char) : List Char := if c = '\'' then ['\\', '\''] else [c]

/-- A text as a literal. -/
def quote (s : String) : String :=
  String.ofList ('\'' :: s.toList.flatMap quotedChar ++ ['\''])

mutual

/-- A value as a literal. -/
def render : Value → String
  | .str s => quote s
  | .bool b => if b then "true" else "false"
  | .list items => "(" ++ Value.joined ", " (renderAll items) ++ ")"
  | .null => "null"
  | .int n => toString n
  | .float x => Value.floatText x
  | .obj fields => (Value.obj fields).display

/-- Values as literals. -/
def renderAll : List Value → List String
  | [] => []
  | v :: rest => render v :: renderAll rest

end

end Literal

/-! ## 2. Conditions -/

/-- A condition on rows. -/
structure Condition where
  /-- The field that is compared. -/
  field : Value
  /-- How it is compared. -/
  operator : Value
  /-- What it is compared with. -/
  value : Value

/-- The text of a condition. -/
def Condition.render (c : Condition) : String :=
  c.field.display ++ " " ++ c.operator.display ++ " " ++ Literal.render c.value

/-- The whole numbers in a condition, all of which are written with it. -/
def Condition.wholes (c : Condition) : List Int :=
  c.field.wholes ++ c.operator.wholes ++ c.value.wholes

/-- Whether the whole numbers in a condition are short enough to be written. -/
def Condition.isWritable (c : Condition) : Bool := c.wholes.all Numeral.isWritable

/-! ## 3. The clauses of an instruction -/

/-- The clauses of an instruction. -/
structure Statement where
  /-- The entity whose rows are asked for. -/
  entity : String
  /-- The texts of the conditions. -/
  conditions : List String := []
  /-- The field and the direction of the sort order. -/
  order : Option (String × String) := none
  /-- At most so many rows. -/
  limit : Option String := none
  /-- The first row, which is counted from one. -/
  first : Option String := none
  /-- Whether only the number of rows is asked for. -/
  countOnly : Bool := false

namespace Statement

/-- The clause with the conditions; without any there is none. -/
def whereClause : List String → String
  | [] => ""
  | conditions => " WHERE " ++ Value.joined " AND " conditions

/-- The clause with the sort order. -/
def orderClause : Option (String × String) → String
  | some (field, direction) => " ORDER BY " ++ field ++ " " ++ direction
  | none => ""

/-- The clause with the greatest number of rows. -/
def limitClause : Option String → String
  | some number => " MAXRESULTS " ++ number
  | none => ""

/-- The clause with the first row. -/
def firstClause : Option String → String
  | some number => " STARTPOSITION " ++ number
  | none => ""

/-- The text of an instruction. -/
def render (s : Statement) : String :=
  if s.countOnly then "SELECT COUNT(*) FROM " ++ s.entity
  else
    "SELECT * FROM " ++ s.entity ++ whereClause s.conditions ++ orderClause s.order
      ++ limitClause s.limit ++ firstClause s.first

end Statement

/-! ## 4. Queries -/

/-- The direction of a sort order. -/
inductive Direction where
  /-- From small to large. -/
  | rising
  /-- From large to small. -/
  | falling
  deriving DecidableEq, Repr

/-- The word for a direction. -/
def Direction.word : Direction → String
  | .rising => "ASC"
  | .falling => "DESC"

/-- A query. -/
structure Query where
  /-- The entity whose rows are asked for. -/
  entity : String
  /-- The conditions that the rows meet. -/
  conditions : List Condition := []
  /-- The field that the rows are sorted by, and the direction. -/
  order : Option (Value × Direction) := none
  /-- At most so many rows. -/
  limit : Option Int := none
  /-- Leave out so many rows at the start. -/
  offset : Option Int := none
  /-- Whether only the number of rows is asked for. -/
  countOnly : Bool := false

namespace Query

/-- The number in the clause with the greatest number of rows; zero sets no bound. -/
def shownLimit (q : Query) : Option Int := q.limit.filter (· != 0)

/-- The number in the clause with the first row, which is counted from one; when no row is left out
    there is no such clause. -/
def shownFirst (q : Query) : Option Int := (q.offset.filter (· != 0)).map (· + 1)

/-- The clauses of a query. -/
def statement (q : Query) : Statement where
  entity := q.entity
  conditions := q.conditions.map Condition.render
  order := q.order.map fun (field, direction) => (field.display, direction.word)
  limit := q.shownLimit.map toString
  first := q.shownFirst.map toString
  countOnly := q.countOnly

/-- The text of a query. -/
def render (q : Query) : String := q.statement.render

/-- Whether the whole numbers in a query for rows are short enough to be written: those in its
    conditions and its sort order, and those of its window. -/
def isWritable (q : Query) : Bool :=
  q.countOnly ||
    (q.conditions.all Condition.isWritable && q.order.all (fun sort => sort.1.isWritable) &&
      q.shownLimit.all Numeral.isWritable && q.shownFirst.all Numeral.isWritable)

/-- The text of a query whose whole numbers can be written. -/
def text (q : Query) : Except Failure String :=
  if q.isWritable then .ok q.render else .error .unwritableWhole

end Query

end BooksGateway
