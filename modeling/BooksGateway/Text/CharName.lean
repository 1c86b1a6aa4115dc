import BooksGateway.Text.CharName.Aliases
import BooksGateway.Text.CharName.Alphabets
import BooksGateway.Text.CharName.Antiquity
import BooksGateway.Text.CharName.EastAsia
import BooksGateway.Text.CharName.Hieroglyphs
import BooksGateway.Text.CharName.Pictures
import BooksGateway.Text.CharName.Scripts
import BooksGateway.Text.CharName.Signs
import BooksGateway.Text.CharName.Symbols
import BooksGateway.Text.Words

/-!
# Names of characters

Every character but private and unassigned ones has a name: words in capital letters. Most names
stand in tables, in which a name is written by how it differs from the one before it. Others end in
a number that follows from the character, and the names of ideographs and of Korean syllables
are made by rules. `charOf?` finds the character with a name.

1. Names written by their differences.
2. All rows of names.
3. Names with numbers.
4. Ideographs.
5. Korean syllables.
6. Finding a character.
-/

namespace BooksGateway.Text.CharName

/-! ## 1. Names written by their differences -/

/-- A name that is written by how it differs from the one before it. -/
structure Step where
  /-- How many words at the start are those of the name before. -/
  kept : Nat
  /-- The words that come next. -/
  own : List String
  /-- How many words at the end are those of the name before. -/
  keptLast : Nat
  deriving DecidableEq, Repr

/-- The words of a name, when those of the name before it are known. -/
def Step.words (step : Step) (before : List String) : List String :=
  before.take step.kept ++ step.own ++ before.drop (before.length - step.keptLast)

/-- How many words at the start are kept, by the small letter before what a step writes: none for
    `a`, one for `b`, and so on. Every step begins with such a letter. -/
def kept? (c : Char) : Option Nat :=
  if 'a' ≤ c && c ≤ 'm' then some (c.toNat - 'a'.toNat) else none

/-- How many words at the end are kept, by the small letter after what a step writes: one for `n`,
    two for `o`, and so on. Without such a letter there are none. -/
def keptLast? (c : Char) : Option Nat :=
  if 'n' ≤ c && c ≤ 'z' then some (c.toNat - 'n'.toNat + 1) else none

/-- The words of a text with single blanks between them. -/
def wordsOf (cs : List Char) : List String :=
  ((pieces (· == ' ') cs).filter (!·.isEmpty)).map String.ofList

/-- What is known of a row that is read from its end: the steps, and what stands before the first
    one, which is the end of a step that is not yet read. -/
structure Row where
  /-- The characters of the words that come next. -/
  own : List Char := []
  /-- How many words are kept after them. -/
  keptLast : Nat := 0
  /-- The steps. -/
  steps : List Step := []

/-- A row with one more character before it. -/
def Row.push (c : Char) (row : Row) : Row :=
  match kept? c, keptLast? c with
  | some kept, _ => { steps := ⟨kept, wordsOf row.own, row.keptLast⟩ :: row.steps }
  | none, some keptLast => { row with keptLast }
  | none, none => { row with own := c :: row.own }

/-- The steps that a row is made of. -/
def stepsOf (row : String) : List Step := (row.toList.foldr Row.push {}).steps

/-- A name, with the character that has it. -/
structure Entry where
  /-- The name. -/
  name : String
  /-- The character, as a number. -/
  code : Nat
  deriving DecidableEq, Repr

/-- What is known while names are read: the last name, and all of them, the last one first. -/
structure Progress where
  /-- The words of the last name. -/
  last : List String := []
  /-- The names so far. -/
  entries : List Entry := []

/-- The progress after one more step. -/
def Progress.add (progress : Progress) (code : Nat) (step : Step) : Progress :=
  let words := step.words progress.last
  { last := words, entries := ⟨String.intercalate " " words, code⟩ :: progress.entries }

/-- The progress after the steps of a row, which name one character after another. -/
def Progress.addRow : Progress → (code : Nat) → List Step → Progress
  | progress, _, [] => progress
  | progress, code, step :: rest => (progress.add code step).addRow (code + 1) rest

/-- The names in rows. -/
def entriesOf (rows : List (Nat × String)) : List Entry :=
  let add := fun (progress : Progress) (code, row) => progress.addRow code (stepsOf row)
  (rows.foldl add {}).entries.reverse

/-! ## 2. All rows of names -/

/-- All names that stand in tables. -/
def entries : List Entry :=
  [alphabets, scripts, signs, eastAsia, antiquity, hieroglyphs, symbols, pictures].flatMap entriesOf
    ++ otherNames.map fun (code, name) => ⟨name, code⟩

/-- The character with a name that stands in a table. -/
def listed? (name : String) : Option Nat := (entries.find? (·.name == name)).map Entry.code

/-! ## 3. Names with numbers -/

/-- Characters one after another whose names differ in the number at their end. -/
structure Numbered where
  /-- What stands before the number. -/
  stem : String
  /-- The first character. -/
  first : Nat
  /-- The last character. -/
  last : Nat
  /-- The number of a character, as it is written. -/
  number : Nat → String

/-- A number in base 16, with capital letters. -/
def hexText (n : Nat) : String := String.ofList ((Nat.toDigits 16 n).map Char.toUpper)

/-- A number with at least three figures. -/
def threeFigures (n : Nat) : String :=
  (if n < 10 then "00" else if n < 100 then "0" else "") ++ toString n

/-- The dots of a pattern in two columns: each of the last eight bits of its number is a dot. -/
def dotText (code : Nat) : String :=
  String.join (((List.range 8).filter code.testBit).map fun bit => toString (bit + 1))

/-- All characters whose names differ in the number at their end. -/
def numbered : List Numbered := [
  ⟨"CJK COMPATIBILITY IDEOGRAPH-", 0xF900, 0xFA6D, hexText⟩,
  ⟨"CJK COMPATIBILITY IDEOGRAPH-", 0xFA70, 0xFAD9, hexText⟩,
  ⟨"CJK COMPATIBILITY IDEOGRAPH-", 0x2F800, 0x2FA1D, hexText⟩,
  ⟨"KHITAN SMALL SCRIPT CHARACTER-", 0x18B00, 0x18CD5, hexText⟩,
  ⟨"NUSHU CHARACTER-", 0x1B170, 0x1B2FB, hexText⟩,
  ⟨"TANGUT COMPONENT-", 0x18800, 0x18AFF, fun code => threeFigures (code - 0x18800 + 1)⟩,
  ⟨"BRAILLE PATTERN DOTS-", 0x2801, 0x28FF, dotText⟩,
  ⟨"VARIATION SELECTOR-", 0xFE00, 0xFE0F, fun code => toString (code - 0xFE00 + 1)⟩,
  ⟨"VARIATION SELECTOR-", 0xE0100, 0xE01EF, fun code => toString (code - 0xE0100 + 17)⟩,
  ⟨"VS", 0xFE00, 0xFE0F, fun code => toString (code - 0xFE00 + 1)⟩,
  ⟨"VS", 0xE0100, 0xE01EF, fun code => toString (code - 0xE0100 + 17)⟩]

/-- The character with a name, if it is one of those that differ in their numbers. -/
def Numbered.charOf? (family : Numbered) (name : String) : Option Nat :=
  if begins family.stem name then
    (List.range' family.first (family.last + 1 - family.first)).find? fun code =>
      family.stem ++ family.number code == name
  else none

/-! ## 4. Ideographs -/

/-- What stands before the number in the name of an ideograph. -/
def ideographStem : String := "CJK UNIFIED IDEOGRAPH-"

/-- The closed ranges of ideographs. -/
def ideographRanges : List (Nat × Nat) := [
  (0x3400, 0x4DBF), (0x4E00, 0x9FFF), (0x20000, 0x2A6DF), (0x2A700, 0x2B738), (0x2B740, 0x2B81D),
  (0x2B820, 0x2CEA1), (0x2CEB0, 0x2EBE0), (0x30000, 0x3134A)]

/-- The value of a digit in base 16, with capital letters. -/
def capitalDigit? (c : Char) : Option Nat :=
  if '0' ≤ c && c ≤ '9' then some (c.toNat - '0'.toNat)
  else if 'A' ≤ c && c ≤ 'F' then some (c.toNat - 'A'.toNat + 10)
  else none

/-- The ideograph with a number, which is written with four or five digits. -/
def ideograph? (digits : List Char) : Option Nat := do
  let values ← digits.mapM capitalDigit?
  let code := values.foldl (fun n digit => 16 * n + digit) 0
  let isWritten := digits.length = 4 || digits.length = 5
  if isWritten && ideographRanges.any fun (first, last) => first ≤ code && code ≤ last
  then some code else none

/-! ## 5. Korean syllables -/

/-- What stands before the parts in the name of a syllable. -/
def syllableStem : String := "HANGUL SYLLABLE "

/-- The names of the consonants that begin a syllable, in order. -/
def initialNames : List String :=
  ["G", "GG", "N", "D", "DD", "R", "M", "B", "BB", "S", "SS", "", "J", "JJ", "C", "K", "T", "P",
    "H"]

/-- The names of the vowels, in order. -/
def vowelNames : List String :=
  ["A", "AE", "YA", "YAE", "EO", "E", "YEO", "YE", "O", "WA", "WAE", "OE", "YO", "U", "WEO", "WE",
    "WI", "YU", "EU", "YI", "I"]

/-- The names of what ends a syllable, in order. -/
def finalNames : List String :=
  ["", "G", "GG", "GS", "N", "NJ", "NH", "D", "L", "LG", "LM", "LB", "LS", "LT", "LP", "LH", "M",
    "B", "BS", "S", "SS", "NG", "J", "C", "K", "T", "P", "H"]

/-- The place of the longest name in a list with which a text begins, and what follows it. -/
def longest? (names : List String) (cs : List Char) : Option (Nat × List Char) :=
  let fits := names.zipIdx.filter fun (name, _) => name.toList.isPrefixOf cs
  let best := fits.foldl (fun (best : Option (String × Nat)) found =>
    match best with
    | some (name, place) => if name.length < found.1.length then some found else some (name, place)
    | none => some found) none
  best.map fun (name, place) => (place, cs.drop name.length)

/-- The syllable with the parts that a text names. -/
def syllable? (cs : List Char) : Option Nat := do
  let (initial, cs) ← longest? initialNames cs
  let (vowel, cs) ← longest? vowelNames cs
  let (final, cs) ← longest? finalNames cs
  let place := (initial * vowelNames.length + vowel) * finalNames.length + final
  if cs.isEmpty then some (0xAC00 + place) else none

/-! ## 6. Finding a character -/

/-- The character with a name, as a number. Small letters count as capital ones, but not in names
    that are made by rules. -/
def charOf? (name : String) : Option Nat :=
  let rest := fun (stem : String) => name.toList.drop stem.length
  if begins syllableStem name then syllable? (rest syllableStem)
  else if begins ideographStem name then ideograph? (rest ideographStem)
  else
    let capital := String.ofList (name.toList.map Char.toUpper)
    numbered.findSome? (·.charOf? capital) <|> listed? capital

end BooksGateway.Text.CharName
