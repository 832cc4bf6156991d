import LexKit.Cursor
import LexKit.ScanError

/-!
# Steps, matchers and recognizers

A step says what was found at a cursor and how many characters were passed on the way. Since it only
names a count, the cursor after a step is always a later place of the same input. A matcher finds a
piece of text, a recognizer a token or nothing worth a token; `emit` and `skip` make the second out of
the first and change neither where it applies nor how far it moves.
-/

namespace LexKit

open Text

/-- What was found at a place: nothing that applies, something, or malformed input. -/
inductive Outcome (α : Type) where
  | noMatch
  | matched (value : α)
  | failed (error : ScanError)
deriving Repr, DecidableEq

namespace Outcome

variable {α β : Type}

def map (f : α → β) : Outcome α → Outcome β
  | .noMatch => .noMatch
  | .matched value => .matched (f value)
  | .failed error => .failed error

def isNoMatch : Outcome α → Bool
  | .noMatch => true
  | _ => false

end Outcome

/-- An outcome and the number of characters passed for it. -/
structure Step (α : Type) where
  outcome : Outcome α
  moved : Nat
deriving Repr, DecidableEq

namespace Step

variable {α β : Type}

def still (outcome : Outcome α) : Step α := ⟨outcome, 0⟩

def map (f : α → β) (step : Step α) : Step β := ⟨step.outcome.map f, step.moved⟩

def next (step : Step α) (cursor : Cursor) : Cursor := cursor.forward step.moved

end Step

/-- A matched piece of the input: its span, and the text taken out of it unless it is only passed. -/
structure Extract where
  text : Option String
  span : Span
deriving Repr, DecidableEq

abbrev Matcher := Cursor → Step Extract

/-- Looks for a token, or for input that makes no token, at a cursor. -/
abbrev Recognizer (τ : Type) := Cursor → Step (Option τ)

namespace Cursor

/-- The match of the next characters, with a text that stands for them. -/
def take (cursor : Cursor) (count : Nat) (text : Option String) : Step Extract :=
  ⟨.matched ⟨text, cursor.spanOf count⟩, count⟩

def takeText (cursor : Cursor) (count : Nat) : Step Extract :=
  cursor.take count (some (cursor.textOf count))

end Cursor

namespace Matcher

variable {τ : Type}

/-- Makes a token out of the text that a match gives; a match without text makes none. -/
def emit (matcher : Matcher) (token : String → Span → τ) : Recognizer τ := fun cursor =>
  (matcher cursor).map fun extract => extract.text.map fun text => token text extract.span

def skip (matcher : Matcher) : Recognizer τ := fun cursor => (matcher cursor).map fun _ => none

end Matcher

end LexKit
