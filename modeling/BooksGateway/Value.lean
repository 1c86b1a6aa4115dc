import BooksGateway.Number.Binary64

/-!
# Data values

Criteria, payloads and answers are values of one kind of tree: scalars, lists, and mappings from
texts to values that keep the order of their keys. Whole numbers are exact and distinct from
floating-point numbers.

1. Values and mappings.
2. Looking up and storing in a mapping.
3. What a value counts as.
4. Using a value in a way that not every value allows.
-/

namespace BooksGateway

/-! ## 1. Values and mappings -/

/-- A data value. -/
inductive Value where
  /-- No value. -/
  | null
  /-- A truth value. -/
  | bool (b : Bool)
  /-- A whole number. -/
  | int (n : Int)
  /-- A floating-point number. -/
  | float (x : Binary64)
  /-- A text. -/
  | str (s : String)
  /-- A list of values. -/
  | list (items : List Value)
  /-- A mapping, in the order of its keys. -/
  | obj (fields : List (String × Value))
  deriving Repr, Inhabited

/-- The contents of a mapping: keys with their values, in order. -/
abbrev Fields := List (String × Value)

namespace Fields

/-! ## 2. Looking up and storing in a mapping -/

/-- The value under a key. -/
def get? : Fields → String → Option Value
  | [], _ => none
  | (k, v) :: rest, key => if k = key then some v else get? rest key

/-- The value under a key, null when there is none. -/
def getD (fields : Fields) (key : String) : Value := (fields.get? key).getD .null

/-- Whether there is a value under a key. -/
def has (fields : Fields) (key : String) : Bool := (fields.get? key).isSome

/-- Stores a value under a key: in its place when the key is there, at the end otherwise. -/
def put : Fields → String → Value → Fields
  | [], key, value => [(key, value)]
  | (k, v) :: rest, key, value =>
    if k = key then (k, value) :: rest else (k, v) :: put rest key value

/-- Stores a value under a key that is not there yet; a value that is there stays. -/
def putNew (fields : Fields) (key : String) (value : Value) : Fields :=
  if fields.has key then fields else fields.put key value

/-- The keys, in order. -/
def keys (fields : Fields) : List String := fields.map (·.1)

/-- The mapping that a list of pairs builds: a key that comes again keeps its place and takes the
    later value. -/
def ofPairs (pairs : List (String × Value)) : Fields :=
  pairs.foldl (fun fields (key, value) => fields.put key value) []

/-- A key under which something was stored gives that, every other key what it gave before. -/
theorem get?_put (fields : Fields) (key other : String) (value : Value) :
    (fields.put key value).get? other = if key = other then some value else fields.get? other := by
  induction fields with
  | nil => rfl
  | cons field rest ih =>
    obtain ⟨k, v⟩ := field
    by_cases hk : k = key
    · subst hk
      by_cases ho : k = other <;> simp [put, get?, ho]
    · by_cases ho : k = other
      · subst ho
        simp [put, get?, hk, Ne.symm hk]
      · simp [put, get?, hk, ho, ih]

theorem mem_of_get? {fields : Fields} {key : String} {v : Value} (h : fields.get? key = some v) :
    (key, v) ∈ fields := by
  induction fields with
  | nil => cases h
  | cons field rest ih =>
    obtain ⟨k, w⟩ := field
    by_cases hk : k = key
    · rw [get?, if_pos hk, Option.some.injEq] at h
      rw [hk, h]
      exact List.mem_cons_self
    · rw [get?, if_neg hk] at h
      exact List.mem_cons_of_mem _ (ih h)

/-- A key that is there is a key of the mapping. -/
theorem has_eq_contains (fields : Fields) (key : String) :
    fields.has key = fields.keys.contains key := by
  induction fields with
  | nil => rfl
  | cons field rest ih =>
    obtain ⟨k, v⟩ := field
    rw [has] at ih ⊢
    by_cases hk : k = key
    · simp [get?, keys, hk]
    · simp [get?, keys, hk, ih, Ne.symm hk]

end Fields

namespace Value

/-! ## 3. What a value counts as -/

/-- Whether a value counts as given: null, false, zero, and what is empty do not. -/
def isTruthy : Value → Bool
  | .null => false
  | .bool b => b
  | .int n => n != 0
  | .float x => x.isNonzero
  | .str s => s != ""
  | .list items => !items.isEmpty
  | .obj fields => !fields.isEmpty

/-- The value itself when it counts as given, else another. -/
def orElse (v other : Value) : Value := if v.isTruthy then v else other

/-- Whether a value is a number of either sort; truth values are not. -/
def isNumber : Value → Bool
  | .int _ => true
  | .float _ => true
  | _ => false

/-- The text of a value that is one. -/
def str? : Value → Option String
  | .str s => some s
  | _ => none

/-- The name of a value's kind in messages. -/
def kindName : Value → String
  | .null => "NoneType"
  | .bool _ => "bool"
  | .int _ => "int"
  | .float _ => "float"
  | .str _ => "str"
  | .list _ => "list"
  | .obj _ => "dict"

end Value

/-! ## 4. Using a value in a way that not every value allows -/

/-- Why a value could not be used as it was. -/
inductive Misuse where
  /-- Its kind does not have the operation, such as looking up a key in a number. -/
  | noSuchOperation
  /-- Its kind does not fit, such as a number where texts are joined. -/
  | unsuitable
  /-- A mapping lacks a key that has to be there. -/
  | missingKey
  /-- A list is too short. -/
  | outOfRange
  /-- An infinity has no whole part. -/
  | tooLarge
  deriving DecidableEq, Repr

namespace Value

/-- The value under a key of a mapping, null when there is none; other values have no keys. -/
def member : Value → String → Except Misuse Value
  | .obj fields, key => .ok (Fields.getD fields key)
  | _, _ => .error .noSuchOperation

/-- What a value is made of: the items of a list, the characters of a text, the keys of a
    mapping. -/
def elements : Value → Except Misuse (List Value)
  | .list items => .ok items
  | .str s => .ok (s.toList.map fun c => .str (String.ofList [c]))
  | .obj fields => .ok (fields.map fun (key, _) => .str key)
  | _ => .error .unsuitable

/-- The part of a value at a position: an item of a list, or a character of a text. A mapping has no
    positions, and its keys are texts. -/
def part : Value → Nat → Except Misuse Value
  | .list items, position =>
    match items[position]? with
    | some v => .ok v
    | none => .error .outOfRange
  | .str s, position =>
    match s.toList[position]? with
    | some c => .ok (.str (String.ofList [c]))
    | none => .error .outOfRange
  | .obj _, _ => .error .missingKey
  | _, _ => .error .unsuitable

/-- The text of a value where nothing else will do. -/
def asText : Value → Except Misuse String
  | .str s => .ok s
  | _ => .error .noSuchOperation

/-- Values that are to be joined to one text: each has to be a text. -/
def allTexts : List Value → Except Misuse (List String)
  | [] => .ok []
  | .str s :: rest => (allTexts rest).map (s :: ·)
  | _ :: _ => .error .unsuitable

end Value

end BooksGateway
