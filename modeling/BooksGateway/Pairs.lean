import BooksGateway.Failure

/-!
# Mappings written as pairs

Where a mapping is wanted, a list of pairs will do: each part of the list is itself a list, or a
text, of exactly two. Keys are scalars, and numbers are the same key when they are equal, whatever
their sort; truth values count as zero and one.

1. Keys.
2. Pairs.
3. Reading a value as pairs.
-/

namespace BooksGateway

/-! ## 1. Keys -/

namespace Value

/-- Whether a value can be a key: it holds no other values. -/
def isScalar : Value → Bool
  | .list _ => false
  | .obj _ => false
  | _ => true

/-- The whole number that a value is as a key. -/
def wholeKey? : Value → Option Int
  | .bool b => some (if b then 1 else 0)
  | .int n => some n
  | .float x => x.toInt?
  | _ => none

/-- Whether two scalars that are no whole numbers are the same key; what is not a number is the same
    as nothing, not even as itself. -/
def sameScalar : Value → Value → Bool
  | .null, .null => true
  | .str s, .str t => s == t
  | .float x, .float y => x == y && x != .nan
  | _, _ => false

/-- Whether two scalars are the same key. -/
def sameKey (a b : Value) : Bool :=
  match a.wholeKey?, b.wholeKey? with
  | some m, some n => m == n
  | none, none => sameScalar a b
  | _, _ => false

end Value

/-! ## 2. Pairs -/

/-- A mapping whose keys are scalars, in the order of its keys. -/
abbrev Pairs := List (Value × Value)

namespace Pairs

/-- Stores a value under a key: in its place when the key is there, which then stays as it was
    written first; at the end otherwise. -/
def put : Pairs → Value → Value → Pairs
  | [], key, value => [(key, value)]
  | (k, v) :: rest, key, value =>
    if k.sameKey key then (k, value) :: rest else (k, v) :: put rest key value

/-- The mapping with every key as the text that it reads as. -/
def shown (pairs : Pairs) : Fields :=
  Fields.ofPairs (pairs.map fun (key, value) => (key.display, value))

/-! ## 3. Reading a value as pairs -/

/-- Stores the pair that the part at a position is. -/
def add (pairs : Pairs) (position : Nat) (part : Value) : Except Failure Pairs := do
  match ← Failure.ofMisuse part.elements with
  | [key, value] =>
    if key.isScalar then return pairs.put key value else throw (.misuse .unsuitable)
  | others => throw (.notPair position others.length)

/-- Stores the pairs that some parts are, of which the first one stands at a position. -/
def addAll (pairs : Pairs) : (position : Nat) → List Value → Except Failure Pairs
  | _, [] => .ok pairs
  | position, part :: rest => do addAll (← pairs.add position part) (position + 1) rest

/-- A value read as pairs. -/
def ofValue : Value → Except Failure Pairs
  | .obj fields => .ok (fields.map fun (key, value) => (.str key, value))
  | v => do addAll [] 0 (← Failure.ofMisuse v.elements)

end Pairs

end BooksGateway
