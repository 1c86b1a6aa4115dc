import BooksGateway.Number.Shortest
import BooksGateway.Text.Quoted
import BooksGateway.Value.Display

/-!
# JSON text of a value

The text holds ASCII only: every other character is escaped, those beyond the basic plane as a pair
of surrogates. A `Layout` says how items are set apart: in one line, or one to a line with
indentation.

1. Texts.
2. Layouts.
3. Values.
-/

namespace BooksGateway.Json

open BooksGateway.Text

/-! ## 1. Texts -/

/-- The escape of one 16-bit unit. -/
def unitEscape (unit : Nat) : List Char := '\\' :: 'u' :: hexDigits 4 unit

/-- One character inside a JSON text. -/
def escapedChar (c : Char) : List Char :=
  if c = '"' ∨ c = '\\' then ['\\', c]
  else if c = '\n' then ['\\', 'n']
  else if c = '\r' then ['\\', 'r']
  else if c = '\t' then ['\\', 't']
  else if c = Char.ofNat 8 then ['\\', 'b']
  else if c = Char.ofNat 12 then ['\\', 'f']
  else if 0x20 ≤ c.toNat ∧ c.toNat < 0x7F then [c]
  else if c.toNat < 0x10000 then unitEscape c.toNat
  else
    unitEscape (0xD800 + (c.toNat - 0x10000) / 0x400)
      ++ unitEscape (0xDC00 + (c.toNat - 0x10000) % 0x400)

/-- A text between double quotes. -/
def stringText (s : String) : String :=
  String.ofList ('"' :: s.toList.flatMap escapedChar ++ ['"'])

/-- The layout of numbers: the words for infinity and for what is not a number are capitalised. -/
def floatStyle : FloatStyle := ⟨"NaN", "Infinity", -4, 16⟩

/-! ## 2. Layouts -/

/-- How the parts of a list or a mapping are set apart. -/
inductive Layout where
  /-- In one line, with these marks after an item and after a key. -/
  | inline (comma colon : String)
  /-- One item to a line, each level indented by two blanks. -/
  | indented
  deriving DecidableEq, Repr

namespace Layout

/-- One line with a blank after each mark. -/
def spaced : Layout := .inline ", " ": "

/-- One line without blanks. -/
def tight : Layout := .inline "," ":"

/-- What follows an opening bracket, and precedes the closing one, at a depth. -/
def lineBreak : Layout → (depth : Nat) → String
  | .inline _ _, _ => ""
  | .indented, depth => String.ofList ('\n' :: List.replicate (2 * depth) ' ')

/-- What stands between two items at a depth. -/
def comma : Layout → (depth : Nat) → String
  | .inline comma _, _ => comma
  | .indented, depth => "," ++ Layout.indented.lineBreak depth

/-- What stands between a key and its value. -/
def colon : Layout → String
  | .inline _ colon => colon
  | .indented => ": "

/-- Items between brackets; nothing stands between the brackets of an empty list. -/
def bracketed (layout : Layout) (depth : Nat) (opening closing : String) (items : List String) :
    String :=
  if items.isEmpty then opening ++ closing
  else
    opening ++ layout.lineBreak (depth + 1) ++ Value.joined (layout.comma (depth + 1)) items
      ++ layout.lineBreak depth ++ closing

end Layout

/-! ## 3. Values -/

mutual

/-- The JSON text of a value at a depth. -/
def writeAt (layout : Layout) (depth : Nat) : Value → String
  | .null => "null"
  | .bool b => if b then "true" else "false"
  | .int n => toString n
  | .float x => x.render floatStyle
  | .str s => stringText s
  | .list items => layout.bracketed depth "[" "]" (writeItems layout (depth + 1) items)
  | .obj fields => layout.bracketed depth "\x7b" "\x7d" (writeFields layout (depth + 1) fields)

/-- The JSON texts of the items of a list. -/
def writeItems (layout : Layout) (depth : Nat) : List Value → List String
  | [] => []
  | v :: rest => writeAt layout depth v :: writeItems layout depth rest

/-- The JSON texts of the entries of a mapping. -/
def writeFields (layout : Layout) (depth : Nat) : List (String × Value) → List String
  | [] => []
  | (key, v) :: rest =>
    (stringText key ++ layout.colon ++ writeAt layout depth v) :: writeFields layout depth rest

end

/-- The JSON text of a value. -/
def write (layout : Layout) (v : Value) : String := writeAt layout 0 v

end BooksGateway.Json
