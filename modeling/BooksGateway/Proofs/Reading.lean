import BooksGateway.Query

/-!
# Reading the text of a query

A reader for the language that queries are written in:

    SELECT * FROM entity [WHERE condition [AND condition ...]] [ORDER BY field ASC|DESC]
        [MAXRESULTS number] [STARTPOSITION number]

A condition is a field, an operator and a literal with spaces between. A quoted literal begins with
a single quote, in which a backslash with a quote after it stands for a quote and every other
character for itself, and ends at the first quote that no backslash stands before. A bare literal
goes on up to a space, a comma or a closing parenthesis. A list is literals in parentheses with a
comma and a space between.

The reader knows nothing of how queries are rendered; `Reading.Unambiguous` brings both together.

1. What is read.
2. Literals.
3. Conditions and clauses.
4. The whole text.
-/

namespace BooksGateway

/-! ## 1. What is read -/

/-- A literal. -/
inductive ReadLiteral where
  /-- The text that a quoted literal stands for. -/
  | quoted (s : String)
  /-- A bare literal as it is written. -/
  | bare (s : String)
  /-- The items of a list. -/
  | list (items : List ReadLiteral)

/-- A condition. -/
structure ReadCondition where
  /-- The field. -/
  field : String
  /-- The operator. -/
  operator : String
  /-- The literal. -/
  literal : ReadLiteral

/-- Everything that the text of a query says. -/
structure Reading where
  /-- The entity. -/
  entity : String
  /-- The conditions, in order. -/
  conditions : List ReadCondition
  /-- The field and the direction of the sort order. -/
  order : Option (String × Direction)
  /-- At most so many rows. -/
  limit : Option Nat
  /-- The first row, counted from one. -/
  first : Option Nat

namespace Reading

/-! ## 2. Literals -/

/-- What stands after `mark` at the start of a text. -/
def after? (mark : String) (cs : List Char) : Option (List Char) :=
  if mark.toList.isPrefixOf cs then some (cs.drop mark.toList.length) else none

/-- The longest start of a text with characters satisfying `p`, at least one, and the rest. -/
def readWhile (p : Char → Bool) (cs : List Char) : Option (List Char × List Char) :=
  if (cs.takeWhile p).isEmpty then none else some (cs.takeWhile p, cs.dropWhile p)

/-- Whether a bare literal goes on with a character. -/
def isBare (c : Char) : Bool := c != ' ' && c != ',' && c != ')'

/-- Reads a quoted literal after its first quote. -/
def readQuoted : List Char → Option (List Char × List Char)
  | [] => none
  | '\'' :: rest => some ([], rest)
  | '\\' :: '\'' :: rest => (readQuoted rest).map fun (s, tail) => ('\'' :: s, tail)
  | c :: rest => (readQuoted rest).map fun (s, tail) => (c :: s, tail)

mutual

/-- Reads a literal with at most `room` lists and items in it. -/
def readLiteral : (room : Nat) → List Char → Option (ReadLiteral × List Char)
  | 0, _ => none
  | _ + 1, '\'' :: cs => (readQuoted cs).map fun (s, rest) => (.quoted (String.ofList s), rest)
  | room + 1, '(' :: cs => (readItems room cs).map fun (items, rest) => (.list items, rest)
  | _ + 1, cs => (readWhile isBare cs).map fun (s, rest) => (.bare (String.ofList s), rest)

/-- Reads the items of a list up to its closing parenthesis. -/
def readItems : (room : Nat) → List Char → Option (List ReadLiteral × List Char)
  | 0, _ => none
  | room + 1, cs =>
    match readLiteral room cs with
    | some (item, ')' :: rest) => some ([item], rest)
    | some (item, ',' :: ' ' :: rest) =>
      (readItems room rest).map fun (items, tail) => (item :: items, tail)
    | _ => none

end

/-! ## 3. Conditions and clauses -/

/-- Reads a word: everything up to a space. -/
def readWord (cs : List Char) : Option (String × List Char) :=
  (readWhile (· != ' ') cs).map fun (s, rest) => (String.ofList s, rest)

/-- Reads a condition. -/
def readCondition (cs : List Char) : Option (ReadCondition × List Char) := do
  let (field, rest) ← readWord cs
  let rest ← after? " " rest
  let (operator, rest) ← readWord rest
  let rest ← after? " " rest
  let (literal, rest) ← readLiteral (rest.length + 1) rest
  return (⟨field, operator, literal⟩, rest)

/-- Reads conditions, at most `room` of them, as long as one follows another. -/
def readConditions : (room : Nat) → List Char → Option (List ReadCondition × List Char)
  | 0, _ => none
  | room + 1, cs => do
    let (condition, rest) ← readCondition cs
    match after? " AND " rest with
    | some rest =>
      let (conditions, rest) ← readConditions room rest
      return (condition :: conditions, rest)
    | none => return ([condition], rest)

/-- Reads the clause with the conditions, if it is there. -/
def readWhere (cs : List Char) : Option (List ReadCondition × List Char) :=
  match after? " WHERE " cs with
  | some rest => readConditions (rest.length + 1) rest
  | none => some ([], cs)

/-- Reads a direction. -/
def readDirection (cs : List Char) : Option (Direction × List Char) :=
  match after? "ASC" cs, after? "DESC" cs with
  | some rest, _ => some (.rising, rest)
  | none, some rest => some (.falling, rest)
  | none, none => none

/-- Reads the clause with the sort order, if it is there. -/
def readOrder (cs : List Char) : Option (Option (String × Direction) × List Char) :=
  match after? " ORDER BY " cs with
  | some rest => do
    let (field, rest) ← readWord rest
    let rest ← after? " " rest
    let (direction, rest) ← readDirection rest
    return (some (field, direction), rest)
  | none => some (none, cs)

/-- Reads a natural number. -/
def readNumber (cs : List Char) : Option (Nat × List Char) :=
  (readWhile Char.isDigit cs).map fun (ds, rest) => (Nat.ofDigitChars 10 ds 0, rest)

/-- Reads the clause that a keyword opens and a number closes, if it is there. -/
def readBound (keyword : String) (cs : List Char) : Option (Option Nat × List Char) :=
  match after? keyword cs with
  | some rest => (readNumber rest).map fun (n, rest) => (some n, rest)
  | none => some (none, cs)

/-! ## 4. The whole text -/

/-- Reads the text of a query for rows; nothing may be left over. -/
def read (text : String) : Option Reading := do
  let rest ← after? "SELECT * FROM " text.toList
  let (entity, rest) ← readWord rest
  let (conditions, rest) ← readWhere rest
  let (order, rest) ← readOrder rest
  let (limit, rest) ← readBound " MAXRESULTS " rest
  let (first, rest) ← readBound " STARTPOSITION " rest
  if rest.isEmpty then return ⟨entity, conditions, order, limit, first⟩ else none

end Reading

end BooksGateway
