import BooksGateway.Text.Quoted

/-!
# Headers of the client library

The library that talks to the server keeps the headers of an answer as ASCII. A header with any
other character cannot be made, and the answer with it never arrives at the gateway.
-/

namespace BooksGateway

/-- Characters in a header that a header cannot hold: only the first 128 ones can stand there. -/
structure HeaderFault where
  /-- How many characters stand before them. -/
  position : Nat
  /-- How many there are. -/
  size : Nat
  /-- The first of them. -/
  first : Char
  deriving DecidableEq, Repr

namespace HeaderFault

/-- Whether a header cannot hold a character. -/
def isForeign (c : Char) : Bool := 0x80 ≤ c.toNat

/-- The first characters of a text that a header cannot hold. -/
def ofText? (text : String) : Option HeaderFault :=
  let (before, rest) := text.toList.span (!isForeign ·)
  rest.head?.map fun first => ⟨before.length, (rest.takeWhile isForeign).length, first⟩

/-- The words for characters that a header cannot hold. -/
def message (fault : HeaderFault) : String :=
  "'ascii' codec can't encode "
    ++ (if fault.size = 1 then
        "character '" ++ String.ofList (Text.hexEscape fault.first) ++ "' in position "
          ++ toString fault.position
      else
        "characters in position " ++ toString fault.position ++ "-"
          ++ toString (fault.position + fault.size - 1))
    ++ ": ordinal not in range(128)"

end HeaderFault

end BooksGateway
