import BooksGateway.Query

/-!
# Instructions by hand

The clauses of an instruction can be given as any values, without a query that they come from. A
clause whose value does not count as given is left out; in the others every value is shown as it
reads, as far as its kind allows what the clause asks for and its whole numbers can be written.

1. One clause.
2. The instruction.
-/

namespace BooksGateway.Statement

/-! ## 1. One clause -/

/-- The texts of conditions: the parts of a value, which have to be texts. -/
def conditionsOf (v : Value) : Except Failure (List String) :=
  if v.isTruthy then Failure.ofMisuse (do Value.allTexts (← v.elements)) else .ok []

/-- The sort order: the first two parts of a value. -/
def orderOf (v : Value) : Except Failure (Option (String × String)) :=
  if v.isTruthy then
    do
      let field ← (← Failure.ofMisuse (v.part 0)).shown
      let direction ← (← Failure.ofMisuse (v.part 1)).shown
      return some (field, direction)
  else .ok none

/-- The greatest number of rows, which is shown as it is. -/
def limitOf (v : Value) : Except Failure (Option String) :=
  if v.isTruthy then v.shown.map some else .ok none

/-- The number of the row after as many rows as a value says; only what counts has one. -/
def rowAfter : Value → Except Failure String
  | .bool b => .ok (toString (if b then 2 else 1))
  | .int n =>
    if Numeral.isWritable (n + 1) then .ok (toString (n + 1)) else .error .unwritableWhole
  | .float x => .ok (Value.floatText x.addOne)
  | _ => .error (.misuse .unsuitable)

/-- The first row, when a value says how many are left out. -/
def firstOf (v : Value) : Except Failure (Option String) :=
  if v.isTruthy then (rowAfter v).map some else .ok none

/-! ## 2. The instruction -/

/-- The instruction with clauses given as values. Whether only the number of rows is asked for is
    looked at before all clauses, and the clauses in the order in which they stand. -/
def ofValues (entity conditions order limit offset countOnly : Value) :
    Except Failure Statement := do
  let entity ← entity.shown
  if countOnly.isTruthy then return { entity, countOnly := true }
  else
    let conditions ← conditionsOf conditions
    let order ← orderOf order
    let limit ← limitOf limit
    let first ← firstOf offset
    return { entity, conditions, order, limit, first }

end BooksGateway.Statement
