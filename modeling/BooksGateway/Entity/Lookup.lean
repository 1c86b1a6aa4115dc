import BooksGateway.Entity
import BooksGateway.Failure
import BooksGateway.Text.Case

/-!
# Finding an entity by name

A name is looked up as it is, and then without regard to letter case. Only a text names an entity;
what does not count as given names none, and other values cannot be looked up.
-/

namespace BooksGateway.Entity

/-- The entity whose name is a text, letter by letter. -/
def named? (name : String) : Option Entity := all.find? fun e => e.name == name

/-- The entity whose name is a text in lower case. -/
def namedInLower? (lowered : String) : Option Entity :=
  all.find? fun e => Text.lower e.name == lowered

/-- The entity that a text names in any letter case. -/
def ofName? (name : String) : Option Entity :=
  match named? name with
  | some e => some e
  | none => namedInLower? (Text.lower name)

/-- The entity that a value names. -/
def find? : Value → Except Misuse (Option Entity)
  | .str name => .ok (ofName? name)
  | .list _ => .error .unsuitable
  | .obj _ => .error .unsuitable
  | v => if v.isTruthy then .error .noSuchOperation else .ok (ofName? "")

/-- The message for a name that no entity has. -/
def unknownText (name : Value) : String :=
  "Unknown entity '" ++ name.display ++ "'. Must be one of: "
    ++ Value.joined ", " (all.map (·.name))

/-- The entity that a value names; the failure lists all entities. -/
def get (name : Value) : Except Failure Entity := do
  match ← Failure.ofMisuse (find? name) with
  | some e => return e
  | none => throw (.rejected [unknownText name])

end BooksGateway.Entity
