/-!
# Limits of the platform

Bounds that the language run time sets and not the gateway: how many digits a whole number has when
it is read or written, and how deep JSON is nested. Nothing but these definitions fixes them.

1. Whole numbers.
2. Nesting.
-/

namespace BooksGateway

/-! ## 1. Whole numbers -/

namespace Numeral

/-- The greatest number of digits that is converted, from a text or to one. -/
def digitLimit : Nat := 4300

/-- The first whole number that has more digits than are converted. -/
def writeLimit : Nat := Nat.pow 10 digitLimit

/-- Whether a whole number has few enough digits to be written. -/
def isWritable (n : Int) : Bool := n.natAbs < writeLimit

end Numeral

/-! ## 2. Nesting -/

/-- How deep lists and mappings can be nested in a text that is read. -/
def Json.depthLimit : Nat := 978

end BooksGateway
