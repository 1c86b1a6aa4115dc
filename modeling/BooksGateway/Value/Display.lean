import BooksGateway.Number.Shortest
import BooksGateway.Platform.Limits
import BooksGateway.Text.Quoted
import BooksGateway.Value

/-!
# Values as text

How a value reads inside a message or a query: a text stands for itself, and inside a list or a
mapping it is quoted; numbers are in shortest form; truth values and null have capitalised names.

A whole number with too many digits is not written, and neither is a value that holds one. The
functions that write values take the numbers to be short enough; `Value.isWritable` tells whether
they are, and what is done for a caller asks it first.

1. Values as they read.
2. Whole numbers in values.
-/

namespace BooksGateway.Value

/-! ## 1. Values as they read -/

/-- The text of a floating-point number. -/
def floatText (x : Binary64) : String := x.render .plain

/-- Parts with a separator between them. -/
def joined (separator : String) : List String → String
  | [] => ""
  | [part] => part
  | part :: rest => part ++ separator ++ joined separator rest

mutual

/-- A value as it reads inside another. -/
def inner : Value → String
  | .null => "None"
  | .bool b => if b then "True" else "False"
  | .int n => toString n
  | .float x => floatText x
  | .str s => Text.quoted s
  | .list items => "[" ++ joined ", " (innerItems items) ++ "]"
  | .obj fields => "\x7b" ++ joined ", " (innerFields fields) ++ "\x7d"

/-- The items of a list as they read. -/
def innerItems : List Value → List String
  | [] => []
  | v :: rest => inner v :: innerItems rest

/-- The entries of a mapping as they read. -/
def innerFields : List (String × Value) → List String
  | [] => []
  | (key, v) :: rest => (Text.quoted key ++ ": " ++ inner v) :: innerFields rest

end

/-- A value as it reads by itself. -/
def display : Value → String
  | .str s => s
  | v => v.inner

/-! ## 2. Whole numbers in values -/

mutual

/-- The whole numbers in a value, at any depth; all of them are written with it. -/
def wholes : Value → List Int
  | .null => []
  | .bool _ => []
  | .int n => [n]
  | .float _ => []
  | .str _ => []
  | .list items => wholesOfItems items
  | .obj fields => wholesOfFields fields

/-- The whole numbers in the items of a list. -/
def wholesOfItems : List Value → List Int
  | [] => []
  | v :: rest => wholes v ++ wholesOfItems rest

/-- The whole numbers in the entries of a mapping. -/
def wholesOfFields : List (String × Value) → List Int
  | [] => []
  | (_, v) :: rest => wholes v ++ wholesOfFields rest

end

/-- Whether every whole number in a value has few enough digits to be written. -/
def isWritable (v : Value) : Bool := v.wholes.all Numeral.isWritable

end BooksGateway.Value
