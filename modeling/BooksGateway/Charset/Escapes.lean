import BooksGateway.Charset.Wide
import BooksGateway.Json.Reader
import BooksGateway.Text.CharName

/-!
# Characters spelled by number or name

In these forms an octet stands for the character with its number, but a backslash begins an escape
that spells a character. One form has escapes for numbers only, the other also for names and for the
signs of a quoted text. Two escapes in a row may spell the halves of one character.

1. Numbers.
2. The form with numbers only.
3. The form of quoted texts.
4. Readers.
-/

namespace BooksGateway.Escapes

/-! ## 1. Numbers -/

/-- The octet that begins an escape. -/
def backslash : Nat := '\\'.toNat

/-- The greatest number of a character. -/
def greatest : Nat := 0x10FFFF

/-- The value of a hexadecimal digit. -/
def hexDigit? (octet : Nat) : Option Nat := Json.hexValue? (Char.ofNat octet)

/-- The number that a fixed count of hexadecimal digits spells. If there are fewer, it is told how
    many there are. -/
def hexNumber (count : Nat) (octets : List Nat) : Except Nat Nat :=
  let digits := ((octets.take count).map hexDigit?).takeWhile Option.isSome
  if digits.length < count then .error digits.length
  else .ok (digits.reduceOption.foldl (fun n digit => 16 * n + digit) 0)

/-- The damage that takes some octets. -/
def damaged (size : Nat) : List Nat × Nat := ([Octets.mark.toNat], size)

/-- What an escape with hexadecimal digits spells, and how many octets it takes. Before the digits
    stand two octets. -/
def hexEscape (count : Nat) (digits : List Nat) : List Nat × Nat :=
  match hexNumber count digits with
  | .ok n => if n ≤ greatest then ([n], count + 2) else damaged (count + 2)
  | .error read => damaged (read + 2)

/-- How many digits an escape with a letter has. -/
def hexCount? (letter : Nat) : Option Nat :=
  if letter = 'u'.toNat then some 4 else if letter = 'U'.toNat then some 8 else none

/-! ## 2. The form with numbers only -/

/-- The numbers of the characters at the start of octets, and how many octets they take. -/
def numbered : List Nat → List Nat × Nat
  | [] => ([], 0)
  | [octet] => ([octet], 1)
  | octet :: letter :: rest =>
    if octet = backslash then
      match hexCount? letter with
      | some count => hexEscape count rest
      | none => ([octet, letter], 2)
    else ([octet], 1)

/-! ## 3. The form of quoted texts -/

/-- The value of an octal digit. -/
def octalDigit? (octet : Nat) : Option Nat :=
  if '0'.toNat ≤ octet && octet ≤ '7'.toNat then some (octet - '0'.toNat) else none

/-- What an escape with up to three octal digits spells. -/
def octalEscape (digits : List Nat) : List Nat × Nat :=
  let digits := (((digits.take 3).map octalDigit?).takeWhile Option.isSome).reduceOption
  ([digits.foldl (fun n digit => 8 * n + digit) 0], digits.length + 1)

/-- What the escapes with one sign spell. -/
def signs : List (Char × List Char) := [
  ('\n', []), ('\\', ['\\']), ('\'', ['\'']), ('"', ['"']), ('a', ['\x07']), ('b', ['\x08']),
  ('f', ['\x0c']), ('n', ['\n']), ('r', ['\r']), ('t', ['\t']), ('v', ['\x0b'])]

/-- What an escape with a name in braces spells. It is damage if there is no character with that
    name, and the closing brace belongs to the damage unless there is no name at all. -/
def namedEscape : List Nat → List Nat × Nat
  | [] => damaged 2
  | brace :: rest =>
    if brace = '\x7b'.toNat then
      let name := (rest.takeWhile (· != '\x7d'.toNat)).map Char.ofNat
      if name.isEmpty then damaged 3
      else if name.length = rest.length then damaged (name.length + 3)
      else
        match Text.CharName.charOf? (String.ofList name) with
        | some code => ([code], name.length + 4)
        | none => damaged (name.length + 4)
    else damaged 2

/-- What an escape spells, after its backslash. -/
def escaped : List Nat → List Nat × Nat
  | [] => damaged 1
  | letter :: rest =>
    if (octalDigit? letter).isSome then octalEscape (letter :: rest)
    else if letter = 'x'.toNat then hexEscape 2 rest
    else if letter = 'N'.toNat then namedEscape rest
    else
      match hexCount? letter, signs.find? (·.1.toNat == letter) with
      | some count, _ => hexEscape count rest
      | none, some (_, chars) => (chars.map Char.toNat, 2)
      | none, none => ([backslash, letter], 2)

/-- The numbers of the characters at the start of octets, and how many octets they take. -/
def quoted : List Nat → List Nat × Nat
  | [] => ([], 0)
  | octet :: rest => if octet = backslash then escaped rest else ([octet], 1)

/-! ## 4. Readers -/

/-- The reader of a form, whose state is a first half that waits for the second one. -/
def reader (next : List Nat → List Nat × Nat) : Octets.Reader (Option Nat) where
  start := none
  next half octets :=
    let (numbers, size) := next octets
    let (chars, half) := Wide.joinAll half numbers
    ⟨chars, size, half⟩
  finish := Wide.atEnd

end BooksGateway.Escapes
