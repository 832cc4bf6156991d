import LexKit.ScanError

/-!
# Diagnostics

An error as it is shown to a person: a code, a message, and a label on the place that it is about.
-/

namespace LexKit

structure Label where
  span : Span
  message : String
deriving Repr, DecidableEq

structure Diagnostic where
  code : String
  message : String
  label : Label
deriving Repr, DecidableEq

def ScanError.diagnostic (error : ScanError) (source : List Char) : Diagnostic :=
  ⟨error.code, error.message, ⟨error.span source, error.hint⟩⟩

/-- The diagnostic of an error, unless its span is a fault. -/
def ScanError.diagnostic? (error : ScanError) (source : List Char) : Except Fault Diagnostic := do
  let span ← error.span? source
  .ok ⟨error.code, error.message, ⟨span, error.hint⟩⟩

end LexKit
