import LexKit.Span

/-!
# Scan errors

The two ways in which a scanned input can be malformed. An error keeps the position where it was found;
its span is the one character there.
-/

namespace LexKit

open Text

inductive ScanError where
  /-- A delimited region opened at this position is never closed. -/
  | unterminatedDelimiter (position : Nat)
  /-- The input was expected to end at this position and does not. -/
  | unexpectedTrailingInput (position : Nat)
deriving Repr, DecidableEq

namespace ScanError

def position : ScanError → Nat
  | .unterminatedDelimiter position => position
  | .unexpectedTrailingInput position => position

def withPosition : ScanError → Nat → ScanError
  | .unterminatedDelimiter _, position => .unterminatedDelimiter position
  | .unexpectedTrailingInput _, position => .unexpectedTrailingInput position

def code : ScanError → String
  | .unterminatedDelimiter _ => "E0001"
  | .unexpectedTrailingInput _ => "E0002"

def message : ScanError → String
  | .unterminatedDelimiter _ => "unterminated delimiter"
  | .unexpectedTrailingInput _ => "unexpected trailing input"

def hint : ScanError → String
  | .unterminatedDelimiter _ => "delimiter opened here is never closed"
  | .unexpectedTrailingInput _ => "expected end of input here"

def render : ScanError → String
  | .unterminatedDelimiter position => s!"unterminated delimiter opened at offset {position}"
  | .unexpectedTrailingInput position => s!"unexpected trailing input at offset {position}"

def describe : ScanError → String
  | .unterminatedDelimiter position => "UnterminatedDelimiter(" ++ Position.describe position ++ ")"
  | .unexpectedTrailingInput position => "UnexpectedTrailingInput(" ++ Position.describe position ++ ")"

/-- The character at the position of the error: an empty span if none starts there. -/
def span (error : ScanError) (source : List Char) : Span :=
  match splitAtByte? error.position source with
  | some (_, char :: _) => ⟨error.position, error.position + char.utf8Size⟩
  | _ => Span.emptyAt error.position

/-- The span from the position of the error over the character there. Its end is a sum, and a fault where that
leaves 64 bits. -/
def span? (error : ScanError) (source : List Char) : Except Fault Span := do
  let stop ← Position.advance error.position (charSizeAt source error.position)
  Span.new? error.position stop

end ScanError

end LexKit
