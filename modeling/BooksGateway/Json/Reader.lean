import BooksGateway.Number.Numeral
import BooksGateway.Value

/-!
# Reading JSON text

`Json.read` reads a whole text as one value. A failure says what was expected and at which
character, and is reported with line and column. Besides the standard notation the reader takes the
words `NaN`, `Infinity` and `-Infinity`; a key that comes again keeps its place and takes the later
value.

1. Failures.
2. Places in a text.
3. Texts.
4. Numbers.
5. Values.
-/

namespace BooksGateway.Json

open BooksGateway.Text

/-! ## 1. Failures -/

/-- What is wrong at a place of a text. -/
inductive Complaint where
  /-- No value begins here. -/
  | expectedValue
  /-- No key begins here. -/
  | expectedKey
  /-- A key is not followed by a colon. -/
  | expectedColon
  /-- An item is not followed by a comma or the closing bracket. -/
  | expectedComma
  /-- The text goes on after the value. -/
  | extraData
  /-- A text that begins here does not end. -/
  | unterminated
  /-- A control character stands in a text. -/
  | controlCharacter
  /-- A backslash is followed by none of the known letters. -/
  | badEscape
  /-- A numbered escape does not have its four digits. -/
  | badNumberedEscape
  deriving DecidableEq, Repr

/-- The words for what is wrong. -/
def Complaint.message : Complaint → String
  | .expectedValue => "Expecting value"
  | .expectedKey => "Expecting property name enclosed in double quotes"
  | .expectedColon => "Expecting ':' delimiter"
  | .expectedComma => "Expecting ',' delimiter"
  | .extraData => "Extra data"
  | .unterminated => "Unterminated string starting at"
  | .controlCharacter => "Invalid control character at"
  | .badEscape => "Invalid \\escape"
  | .badNumberedEscape => "Invalid \\uXXXX escape"

/-- Why a text was not read. -/
inductive ReadFault where
  /-- Something is wrong at a character, counted from zero. -/
  | malformed (what : Complaint) (position : Nat)
  /-- A whole number has more digits than are converted. -/
  | tooLong (digits : Nat)
  /-- Lists and mappings are nested deeper than they are read. -/
  | tooDeep
  deriving DecidableEq, Repr

/-- The line and column of a character, both counted from one. -/
def lineAndColumn (cs : List Char) (position : Nat) : Nat × Nat :=
  let before := cs.take position
  ((before.filter (· == '\n')).length + 1, (before.reverse.takeWhile (· != '\n')).length + 1)

/-! ## 2. Places in a text -/

/-- A place in a text: its number, and what follows. -/
structure Place where
  /-- How many characters stand before it. -/
  position : Nat
  /-- The characters that follow. -/
  rest : List Char

namespace Place

/-- The place some characters further on. -/
def skip (p : Place) (count : Nat) : Place := ⟨p.position + count, p.rest.drop count⟩

/-- Whether a character is white space between the parts of a JSON text. -/
def isGap (c : Char) : Bool := c == ' ' || c == '\t' || c == '\n' || c == '\r'

/-- The place after white space. -/
def skipGaps (p : Place) : Place := p.skip (p.rest.takeWhile isGap).length

/-- A complaint about a place. -/
def reject {α : Type} (p : Place) (what : Complaint) : Except ReadFault α :=
  .error (.malformed what p.position)

end Place

/-! ## 3. Texts -/

/-- The value of a hexadecimal digit. -/
def hexValue? (c : Char) : Option Nat :=
  if '0' ≤ c ∧ c ≤ '9' then some (c.toNat - '0'.toNat)
  else if 'a' ≤ c ∧ c ≤ 'f' then some (c.toNat - 'a'.toNat + 10)
  else if 'A' ≤ c ∧ c ≤ 'F' then some (c.toNat - 'A'.toNat + 10)
  else none

/-- The number written by the first four characters, all hexadecimal digits. -/
def hexNumber? : List Char → Option Nat
  | a :: b :: c :: d :: _ => do
    let a ← hexValue? a
    let b ← hexValue? b
    let c ← hexValue? c
    let d ← hexValue? d
    some (((a * 16 + b) * 16 + c) * 16 + d)
  | _ => none

/-- The character that a letter stands for after a backslash. -/
def shortEscape? : Char → Option Char
  | '"' => some '"'
  | '\\' => some '\\'
  | '/' => some '/'
  | 'b' => some (Char.ofNat 8)
  | 'f' => some (Char.ofNat 12)
  | 'n' => some '\n'
  | 'r' => some '\r'
  | 't' => some '\t'
  | _ => none

/-- The character of a code unit; half of a pair that stands alone becomes the replacement mark. -/
def charOfUnit (unit : Nat) : Char :=
  if 0xD800 ≤ unit ∧ unit ≤ 0xDFFF then Char.ofNat 0xFFFD else Char.ofNat unit

/-- Reads a numbered escape at its backslash: the character, and how many characters it takes. The
    four digits must be followed by something, and so must those of the second half of a pair. -/
def readNumberedEscape (p : Place) : Except ReadFault (Char × Nat) :=
  let digits := p.rest.drop 2
  if (digits.drop 4).isEmpty then (p.skip 1).reject .badNumberedEscape
  else
    match hexNumber? digits with
    | none => (p.skip 1).reject .badNumberedEscape
    | some high =>
      let next := digits.drop 4
      if 0xD800 ≤ high ∧ high ≤ 0xDBFF ∧ next.drop 6 ≠ [] ∧ next.take 2 = ['\\', 'u'] then
        match hexNumber? (next.drop 2) with
        | none => (p.skip 7).reject .badNumberedEscape
        | some low =>
          if 0xDC00 ≤ low ∧ low ≤ 0xDFFF then
            .ok (Char.ofNat (0x10000 + (high - 0xD800) * 0x400 + (low - 0xDC00)), 12)
          else .ok (charOfUnit high, 6)
      else .ok (charOfUnit high, 6)

/-- Reads the rest of a text up to its closing quote. `start` is the place of the opening quote, and
    `read` holds the characters read so far, the last one first. -/
def readString (start : Place) : (fuel : Nat) → (read : List Char) → Place →
    Except ReadFault (String × Place)
  | 0, _, _ => start.reject .unterminated
  | fuel + 1, read, p =>
    match p.rest with
    | [] => start.reject .unterminated
    | '"' :: _ => .ok (String.ofList read.reverse, p.skip 1)
    | ['\\'] => start.reject .unterminated
    | '\\' :: 'u' :: _ =>
      match readNumberedEscape p with
      | .error fault => .error fault
      | .ok (c, count) => readString start fuel (c :: read) (p.skip count)
    | '\\' :: letter :: _ =>
      match shortEscape? letter with
      | some c => readString start fuel (c :: read) (p.skip 2)
      | none => p.reject .badEscape
    | c :: _ =>
      if c.toNat ≤ 0x1F then p.reject .controlCharacter
      else readString start fuel (c :: read) (p.skip 1)

/-! ## 4. Numbers -/

/-- Whether a character is an ASCII digit. -/
def isDigit (c : Char) : Bool := '0' ≤ c && c ≤ '9'

/-- The digits of a whole number: a zero, or digits of which the first is not zero. -/
def wholeDigits : List Char → List Char
  | '0' :: _ => ['0']
  | cs => cs.takeWhile isDigit

/-- The number that ASCII digits stand for. -/
def numberOf (ds : List Char) : Nat := Numeral.ofDigits (ds.map fun c => c.toNat - '0'.toNat)

/-- The digits after a point; a point without digits is no part of a number. -/
def fractionDigits : List Char → List Char
  | '.' :: cs => cs.takeWhile isDigit
  | _ => []

/-- An exponent: its value and how many characters it takes; one without digits is no part of a
    number. -/
def exponentPart (cs : List Char) : Option (Int × Nat) :=
  match cs with
  | c :: rest =>
    if c = 'e' ∨ c = 'E' then
      let (negative, body) := Numeral.readSign rest
      let ds := body.takeWhile isDigit
      if ds.isEmpty then none
      else some (Numeral.signed negative (numberOf ds), 1 + (rest.length - body.length) + ds.length)
    else none
  | [] => none

/-- Reads a number: a whole number unless it has a fraction or an exponent. -/
def readNumber (p : Place) : Except ReadFault (Value × Place) :=
  let negative := p.rest.head? == some '-'
  let unsigned := if negative then p.skip 1 else p
  let whole := wholeDigits unsigned.rest
  if whole.isEmpty then p.reject .expectedValue
  else
    let afterWhole := unsigned.skip whole.length
    let fraction := fractionDigits afterWhole.rest
    let afterFraction :=
      if fraction.isEmpty then afterWhole else afterWhole.skip (1 + fraction.length)
    match exponentPart afterFraction.rest with
    | some (exponent, count) =>
      .ok (.float (.ofDecimal negative (numberOf (whole ++ fraction)) (exponent - fraction.length)),
        afterFraction.skip count)
    | none =>
      if fraction.isEmpty then
        if Numeral.digitLimit < whole.length then .error (.tooLong whole.length)
        else .ok (.int (Numeral.signed negative (numberOf whole)), afterFraction)
      else
        .ok (.float (.ofDecimal negative (numberOf (whole ++ fraction)) (-(fraction.length : Int))),
          afterFraction)

/-! ## 5. Values -/

/-- The words that stand for a value. -/
def wordValues : List (String × Value) :=
  [("null", .null), ("true", .bool true), ("false", .bool false), ("NaN", .float .nan),
    ("Infinity", .float (.infinite false)), ("-Infinity", .float (.infinite true))]

/-- The word that a text begins with, if it is one that stands for a value. -/
def readWord? (cs : List Char) : Option (String × Value) :=
  wordValues.find? fun (word, _) => word.toList.isPrefixOf cs

mutual

/-- Reads a value; `room` is how deep lists and mappings can still be nested. -/
def readValue : (fuel room : Nat) → Place → Except ReadFault (Value × Place)
  | 0, _, p => p.reject .expectedValue
  | fuel + 1, room, p =>
    match p.rest with
    | '"' :: _ => do
      let (s, after) ← readString p fuel [] (p.skip 1)
      return (.str s, after)
    | '[' :: _ =>
      match room with
      | 0 => .error .tooDeep
      | room + 1 =>
        let first := (p.skip 1).skipGaps
        if first.rest.head? = some ']' then .ok (.list [], first.skip 1)
        else do
          let (items, after) ← readItems fuel room first
          return (.list items, after)
    | '\x7b' :: _ =>
      match room with
      | 0 => .error .tooDeep
      | room + 1 =>
        let first := (p.skip 1).skipGaps
        if first.rest.head? = some '\x7d' then .ok (.obj [], first.skip 1)
        else do
          let (pairs, after) ← readEntries fuel room first
          return (.obj (Fields.ofPairs pairs), after)
    | cs =>
      match readWord? cs with
      | some (word, v) => .ok (v, p.skip word.length)
      | none => readNumber p

/-- Reads the items of a list up to its closing bracket; at least one item has to come. -/
def readItems : (fuel room : Nat) → Place → Except ReadFault (List Value × Place)
  | 0, _, p => p.reject .expectedValue
  | fuel + 1, room, p => do
    let (v, after) ← readValue fuel room p
    let next := after.skipGaps
    match next.rest with
    | ']' :: _ => return ([v], next.skip 1)
    | ',' :: _ =>
      let (items, last) ← readItems fuel room (next.skip 1).skipGaps
      return (v :: items, last)
    | _ => next.reject .expectedComma

/-- Reads the entries of a mapping up to its closing brace; at least one entry has to come. -/
def readEntries : (fuel room : Nat) → Place → Except ReadFault (List (String × Value) × Place)
  | 0, _, p => p.reject .expectedKey
  | fuel + 1, room, p =>
    if p.rest.head? ≠ some '"' then p.reject .expectedKey
    else do
      let (key, afterKey) ← readString p fuel [] (p.skip 1)
      let colon := afterKey.skipGaps
      if colon.rest.head? ≠ some ':' then colon.reject .expectedColon
      else
        let (v, after) ← readValue fuel room (colon.skip 1).skipGaps
        let next := after.skipGaps
        match next.rest with
        | '\x7d' :: _ => return ([(key, v)], next.skip 1)
        | ',' :: _ =>
          let (entries, last) ← readEntries fuel room (next.skip 1).skipGaps
          return ((key, v) :: entries, last)
        | _ => next.reject .expectedComma

end

/-- Reads a text as one value, with nothing but white space around it. Every three steps of the
    reader take at least one character, which bounds the steps. -/
def read (s : String) : Except ReadFault Value := do
  let start : Place := ⟨0, s.toList⟩
  let (v, after) ← readValue (3 * s.length + 3) depthLimit start.skipGaps
  let last := after.skipGaps
  if last.rest.isEmpty then return v else last.reject .extraData

/-- The words for a whole number with more digits than are converted. -/
def tooLongText (digits : Nat) : String :=
  "Exceeds the limit (" ++ toString Numeral.digitLimit
    ++ " digits) for integer string conversion: value has " ++ toString digits
    ++ " digits; use sys.set_int_max_str_digits() to increase the limit"

/-- The message of a failure to read a text. -/
def ReadFault.message (s : String) : ReadFault → String
  | .malformed what position =>
    let (line, column) := lineAndColumn s.toList position
    what.message ++ ": line " ++ toString line ++ " column " ++ toString column
      ++ " (char " ++ toString position ++ ")"
  | .tooLong digits => tooLongText digits
  | .tooDeep => ""

end BooksGateway.Json
