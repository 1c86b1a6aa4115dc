import BooksGateway.Text.CaseTable
import BooksGateway.Text.Ranges

/-!
# Letter case

`lower` and `upper` give the lower and upper case of a text by the full mapping: a character may
become several, and a capital sigma becomes the final sigma where it ends a word. ASCII letters are
decided before the tables are read.

1. One character.
2. Lower case of a text, with the rule for sigma.
3. Upper case of a text.
-/

namespace BooksGateway.Text

/-! ## 1. One character -/

/-- The partner of a code point in the first run that covers it, else the code point itself. -/
def partner (runs : List CaseRun) (code : Nat) : Nat :=
  match runs.find? (·.covers code) with
  | some r => ((code : Int) + r.shift).toNat
  | none => code

/-- The lower case of a character that stands alone. -/
def lowerChar (c : Char) : List Char :=
  if c.toNat < 0x80 then
    [if 'A' ≤ c ∧ c ≤ 'Z' then Char.ofNat (c.toNat + 32) else c]
  else if c.toNat = 0x130 then ['i', Char.ofNat 0x307]
  else [Char.ofNat (partner lowerRuns c.toNat)]

/-- The upper case of a character. -/
def upperChar (c : Char) : List Char :=
  if c.toNat < 0x80 then
    [if 'a' ≤ c ∧ c ≤ 'z' then Char.ofNat (c.toNat - 32) else c]
  else
    match wideUppers.lookup c.toNat with
    | some codes => codes.map Char.ofNat
    | none => [Char.ofNat (partner upperRuns c.toNat)]

/-- Whether a character has a case. -/
def isCased (c : Char) : Bool := inRanges casedRanges c.toNat

/-- Whether a character is passed over when the neighbour of a sigma is sought. -/
def isSkipped (c : Char) : Bool := inRanges skippedRanges c.toNat

/-! ## 2. Lower case -/

/-- Whether the next character that is not passed over has a case. -/
def meetsCased : List Char → Bool
  | [] => false
  | c :: rest => if isSkipped c then meetsCased rest else isCased c

/-- The lower case of the rest of a text; `inWord` tells whether the last character before it that
    is not passed over has a case. -/
def lowerRest : Bool → List Char → List Char
  | _, [] => []
  | inWord, c :: rest =>
    (if c.toNat = 0x3A3 then [Char.ofNat (if inWord && !meetsCased rest then 0x3C2 else 0x3C3)]
      else lowerChar c)
      ++ lowerRest (if isSkipped c then inWord else isCased c) rest

/-- The lower case of a text. -/
def lower (s : String) : String := String.ofList (lowerRest false s.toList)

/-! ## 3. Upper case -/

/-- The upper case of a text. -/
def upper (s : String) : String := String.ofList (s.toList.flatMap upperChar)

end BooksGateway.Text
