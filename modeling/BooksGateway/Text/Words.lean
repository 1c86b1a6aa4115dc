import BooksGateway.Text.Blank

/-!
# Cutting texts

Trimming, splitting and replacing, on lists of characters. White space is `isBlank`.

1. The ends of a text.
2. Splitting at a mark.
3. Words.
4. Replacing.
5. Searching.
-/

namespace BooksGateway.Text

/-! ## 1. The ends of a text -/

/-- A text without the characters satisfying `p` at its end. -/
def dropEnd (p : Char → Bool) (cs : List Char) : List Char :=
  (cs.reverse.dropWhile p).reverse

/-- A text without white space at its ends. -/
def strip (cs : List Char) : List Char := dropEnd isBlank (cs.dropWhile isBlank)

/-- A string without white space at its ends. -/
def trim (s : String) : String := String.ofList (strip s.toList)

/-! ## 2. Splitting at a mark -/

/-- What stands before the first `mark`, and what stands after it; all and nothing without one. -/
def cut (mark : Char) (cs : List Char) : List Char × List Char :=
  (cs.takeWhile (· != mark), (cs.dropWhile (· != mark)).drop 1)

/-- The pieces of a text between the characters satisfying `p`, empty ones included. -/
def pieces (p : Char → Bool) : List Char → List (List Char)
  | [] => [[]]
  | c :: cs =>
    match p c, pieces p cs with
    | true, found => [] :: found
    | false, [] => [[c]]
    | false, piece :: found => (c :: piece) :: found

/-! ## 3. Words -/

/-- The words of a text: its longest stretches without white space. -/
def words (cs : List Char) : List (List Char) :=
  (pieces isBlank cs).filter fun piece => !piece.isEmpty

/-! ## 4. Replacing -/

/-- A string with every `mark` replaced by `other`. -/
def replaceChar (mark other : Char) (s : String) : String :=
  String.ofList (s.toList.map fun c => if c = mark then other else c)

/-- A text with every `first` that is followed by `second` replaced, together with it, by `other`,
    from the start on. -/
def replacePair (first second other : Char) : List Char → List Char
  | a :: b :: rest =>
    if a = first ∧ b = second then other :: replacePair first second other rest
    else a :: replacePair first second other (b :: rest)
  | rest => rest

/-! ## 5. Searching -/

/-- Whether a text holds `part` somewhere. -/
def hasInside (part : List Char) : List Char → Bool
  | [] => part.isEmpty
  | c :: cs => part.isPrefixOf (c :: cs) || hasInside part cs

/-- Whether a string begins with another. -/
def begins (start s : String) : Bool := start.toList.isPrefixOf s.toList

end BooksGateway.Text
