/-!
# Faults

What goes wrong when a caller asks for a move or a piece of text that does not exist. A fault is a
mistake of the caller, not of the scanned input.
-/

namespace LexKit

inductive Fault where
  /-- Moving by this many bytes from this offset ends inside a character or behind the input. -/
  | cannotAdvance (length offset : Nat)
  /-- A span was asked for whose end lies before its start. -/
  | reversedSpan
  /-- An offset does not fit into 64 bits. -/
  | offsetOverflow
  /-- A piece of text was asked for that lies outside the text or cuts a character. -/
  | outsideText
deriving Repr, DecidableEq

/-- The wording of a fault, where it has a fixed one. -/
def Fault.message? : Fault → Option String
  | .cannotAdvance length offset => some s!"cannot advance {length} bytes from offset {offset}"
  | .reversedSpan => some "span ends before it starts"
  | .offsetOverflow => some "attempt to add with overflow"
  | .outsideText => none

end LexKit
