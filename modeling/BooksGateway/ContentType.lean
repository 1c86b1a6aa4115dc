import BooksGateway.Charset
import BooksGateway.Json.Reader
import BooksGateway.Text.Case

/-!
# Content types

The kind of a body is told by a text with parameters set apart by semicolons, of which one names the
charset. A parameter may be quoted; it may come in numbered parts, and its parts may be written with
percent signs, after the name of a charset and of a language.

1. Pieces.
2. Quoting.
3. Parameters in parts.
4. Parameters.
5. The charset.
6. The text of a body.
-/

namespace BooksGateway.ContentType

open BooksGateway.Text

/-! ## 1. Pieces -/

/-- The pieces between the semicolons that stand outside of quotes. `inQuotes` tells whether the
    place is within quotes, `escaped` whether a backslash stands before it, and `piece` holds the
    piece so far, the last character first. -/
def piecesFrom : (inQuotes escaped : Bool) → (piece : List Char) → List Char → List (List Char)
  | _, _, piece, [] => [piece.reverse]
  | inQuotes, escaped, piece, c :: rest =>
    if c = ';' && !inQuotes then piece.reverse :: piecesFrom false false [] rest
    else piecesFrom (inQuotes != (c == '"' && !escaped)) (c == '\\') (c :: piece) rest

/-- The name and the text of a piece. -/
def parameter (piece : List Char) : String × List Char :=
  if piece.contains '=' then
    let (name, text) := cut '=' piece
    (String.ofList ((strip name).map Char.toLower), strip text)
  else (String.ofList (strip piece), [])

/-- The names and texts of all pieces. -/
def parameters (kind : String) : List (String × List Char) :=
  (piecesFrom false false [] kind.toList).map parameter

/-! ## 2. Quoting -/

/-- A text without the quotes, or the angle brackets, around it. -/
def unquoted (text : List Char) : List Char :=
  match text with
  | '"' :: rest =>
    if rest.getLast? = some '"' then
      replacePair '\\' '"' '"' (replacePair '\\' '\\' '\\' rest.dropLast)
    else text
  | '<' :: rest => if rest.getLast? = some '>' then rest.dropLast else text
  | _ => text

/-- A text with a backslash before each quote and each backslash. -/
def escaped (text : List Char) : List Char :=
  text.flatMap fun c => if c = '"' ∨ c = '\\' then ['\\', c] else [c]

/-- A text in quotes. -/
def quoted (text : List Char) : List Char := '"' :: text ++ ['"']

/-- A text with every percent sign before two hexadecimal digits replaced, together with them, by
    the character that they number. -/
def unpercented : List Char → List Char
  | '%' :: a :: b :: rest =>
    match Json.hexValue? a, Json.hexValue? b with
    | some high, some low => Char.ofNat (16 * high + low) :: unpercented rest
    | _, _ => '%' :: unpercented (a :: b :: rest)
  | c :: rest => c :: unpercented rest
  | [] => []

/-! ## 3. Parameters in parts -/

/-- A part of a parameter. -/
structure Part where
  /-- Its number, if it has one. -/
  number : Option Nat
  /-- Its text. -/
  text : List Char
  /-- Whether it is written with percent signs. -/
  isPercented : Bool

/-- Whether a character can stand in the name of a parameter in parts. -/
def isNameChar (c : Char) : Bool := c.isAlphanum || c == '_'

/-- The name that a parameter has parts of, and the number of the part: after the name stands an
    asterisk, maybe a number, and maybe another asterisk after the number. -/
def partName? (name : String) : Option (String × Option Nat) :=
  let (word, mark) := (name.toList.takeWhile isNameChar, name.toList.dropWhile isNameChar)
  match word, mark with
  | [], _ => none
  | _, '*' :: rest =>
    let digits := rest.takeWhile Char.isDigit
    let after := rest.drop digits.length
    if digits.isEmpty then if rest.isEmpty then some (String.ofList word, none) else none
    else if after = [] ∨ after = ['*'] then
      some (String.ofList word, some (Json.numberOf digits))
    else none
  | _, _ => none

/-- Adds a part to the parameter with a name. -/
def addPart : List (String × List Part) → String → Part → List (String × List Part)
  | [], name, part => [(name, [part])]
  | (other, parts) :: rest, name, part =>
    if other = name then (other, parts ++ [part]) :: rest
    else (other, parts) :: addPart rest name part

/-- Whether a part comes before another: by number, then by text. -/
def Part.before (a b : Part) : Bool :=
  match compare (a.number.getD 0) (b.number.getD 0) with
  | .lt => true
  | .gt => false
  | .eq =>
    match compare (String.ofList a.text) (String.ofList b.text) with
    | .lt => true
    | .gt => false
    | .eq => !a.isPercented || b.isPercented

/-! ## 4. Parameters -/

/-- The text of a parameter. -/
inductive Setting where
  /-- A text, maybe in quotes. -/
  | plain (text : List Char)
  /-- A text in a charset and a language, maybe in quotes. -/
  | extended (charset : List Char) (text : List Char)

/-- The charset, the language and the text of a parameter that is written with percent signs;
    without both ticks there is only a text. -/
def ofExtended (text : List Char) : Setting :=
  let (charset, rest) := cut '\'' text
  if rest.contains '\'' then .extended charset (quoted (cut '\'' rest).2)
  else .extended [] (quoted text)

/-- The text of a parameter in parts. -/
def joinParts (parts : List Part) : Except CharsetFault Setting :=
  if parts.any (·.number.isNone) && parts.any (·.number.isSome) then .error .partlyNumbered
  else
    let sorted := parts.mergeSort Part.before
    let text := escaped (sorted.flatMap fun part =>
      if part.isPercented then unpercented part.text else part.text)
    .ok (if sorted.any (·.isPercented) then ofExtended text else .plain (quoted text))

/-- The parameters that come whole, and those in parts. -/
def sortOut : List (String × List Char) → List (String × Setting) × List (String × List Part)
  | params =>
    params.foldl (fun (whole, inParts) (name, text) =>
      match partName? name with
      | some (word, number) =>
        (whole, addPart inParts word ⟨number, unquoted text, name.toList.getLast? == some '*'⟩)
      | none => (whole ++ [(name, .plain (quoted (escaped (unquoted text))))], inParts)) ([], [])

/-- The texts of all parameters. The first piece is taken as it is; parameters in parts come
    last. -/
def settings (kind : String) : Except CharsetFault (List (String × Setting)) :=
  match parameters kind with
  | [] => .ok []
  | (name, text) :: rest => do
    let (whole, inParts) := sortOut rest
    let joined ← inParts.mapM fun (name, parts) => do return (name, ← joinParts parts)
    return (name, .plain text) :: whole ++ joined

/-! ## 5. The charset -/

/-- The name of the parameter for the charset. -/
def charsetName : String := "charset"

/-- A text whose octets are characters of another charset. It stays as it is when that charset is
    not known or has no such text. -/
def recoded (charset text : List Char) : Except CharsetFault (List Char) :=
  let name := if charset.isEmpty then "us-ascii" else String.ofList charset
  if name.toList.contains '\x00' then .error .nullInName
  else
    match Charset.ofName? name with
    | some found =>
      match found.read (text.map Char.toNat) with
      | .ok read => .ok (if read.toList.contains Octets.mark then text else read.toList)
      | .error _ => .ok text
    | none => .ok text

/-- The text of a parameter, without quotes. -/
def Setting.text : Setting → Except CharsetFault (List Char)
  | .plain text => .ok (unquoted text)
  | .extended charset text => recoded charset (unquoted text)

/-- The name of the charset in a content type. Only ASCII characters name one. -/
def charset? (kind : String) : Except CharsetFault (Option String) := do
  match (← settings kind).find? fun (name, _) => Text.lower name == charsetName with
  | some (_, setting) =>
    let name ← setting.text
    return if name.all (·.toNat < 0x80) then some (String.ofList (name.map Char.toLower)) else none
  | none => return none

/-! ## 6. The text of a body -/

/-- The text of a body of a kind. Bodies are given as the text that their octets are in UTF-8, which
    is also what they mean when no charset is named that is known. -/
def textOf (kind body : String) : Except CharsetFault String := do
  match ← charset? kind with
  | some name =>
    if name.toList.contains '\x00' then throw .nullInName
    else
      match Charset.ofName? name with
      | some charset => charset.read (Octets.ofText body)
      | none => return body
  | none => return body

end BooksGateway.ContentType
