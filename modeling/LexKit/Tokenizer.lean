import LexKit.Step

/-!
# Tokenizers and scans

A tokenizer is an ordered list of recognizers. A scan tries them at its place in order, takes the first
that applies, and goes on behind what it accepted, until the input ends, an error comes up, or it cannot
go on. The recognizers are arbitrary functions; a match has to pass input and an answer of no match must
not, and the scan stops where either rule is broken. Every accepted piece passes at least one character,
so a scan ends on every input.
-/

namespace LexKit

/-- Recognizers in order of precedence. -/
structure Tokenizer (τ : Type) where
  recognizers : List (Recognizer τ)

/-- A piece of input that a scan accepted, with its token if it made one. -/
structure Piece (τ : Type) where
  token : Option τ
  span : Span
deriving Repr, DecidableEq

inductive Ending where
  /-- All input was accepted. -/
  | atEnd
  /-- No recognizer applies here. -/
  | nothingApplies
  /-- A recognizer passed input and answered that nothing matched. -/
  | strayed
  /-- A recognizer matched without passing input. -/
  | stalled
  | failed (error : ScanError)
deriving Repr, DecidableEq

/-- All that a scan did: the pieces it accepted, in order, how it ended, the place of its last attempt,
and the cursor that it left behind. -/
structure Scan (τ : Type) where
  pieces : List (Piece τ)
  ending : Ending
  lastStart : Cursor
  final : Cursor

namespace Scan

variable {τ : Type}

def tokens (scan : Scan τ) : List τ := scan.pieces.filterMap (·.token)

/-- The tokens, unless the scan ended with an error. -/
def result (scan : Scan τ) : Except ScanError (List τ) :=
  match scan.ending with
  | .failed error => .error error
  | _ => .ok scan.tokens

end Scan

/-- What trying the recognizers at one place comes to. -/
inductive Attempt (τ : Type) where
  /-- A recognizer matched and passed this many characters. -/
  | accepted (token : Option τ) (moved : Nat)
  /-- The scan cannot go on; this many characters were passed all the same. -/
  | halted (ending : Ending) (moved : Nat)
deriving Repr, DecidableEq

namespace Tokenizer

variable {τ : Type}

def empty : Tokenizer τ := ⟨[]⟩

def orElse (tokenizer : Tokenizer τ) (recognizer : Recognizer τ) : Tokenizer τ :=
  ⟨tokenizer.recognizers ++ [recognizer]⟩

def append (first second : Tokenizer τ) : Tokenizer τ := ⟨first.recognizers ++ second.recognizers⟩

instance : Append (Tokenizer τ) := ⟨append⟩

def length (tokenizer : Tokenizer τ) : Nat := tokenizer.recognizers.length

def isEmpty (tokenizer : Tokenizer τ) : Bool := tokenizer.recognizers.isEmpty

def describe (tokenizer : Tokenizer τ) : String :=
  "Tokenizer \x7b recognizers: " ++ toString tokenizer.length ++ " \x7d"

def attempt (cursor : Cursor) : List (Recognizer τ) → Attempt τ
  | [] => .halted .nothingApplies 0
  | recognizer :: recognizers =>
      let step := recognizer cursor
      let moved := (step.next cursor).position ≠ cursor.position
      match step.outcome with
      | .noMatch => if moved then .halted .strayed step.moved else attempt cursor recognizers
      | .matched token => if moved then .accepted token step.moved else .halted .stalled 0
      | .failed error => .halted (.failed error) step.moved

theorem position_ne_of_attempt {cursor : Cursor} {recognizers : List (Recognizer τ)}
    {token : Option τ} {moved : Nat} (h : attempt cursor recognizers = .accepted token moved) :
    (cursor.forward moved).position ≠ cursor.position := by
  induction recognizers with
  | nil => simp [attempt] at h
  | cons recognizer recognizers ih =>
      simp only [attempt] at h
      split at h
      · split at h
        · contradiction
        · exact ih h
      · split at h
        · rename_i moves
          cases h
          exact moves
        · contradiction
      · contradiction

/-- Scans from a cursor on, behind the pieces accepted before, the latest first. -/
def scanFrom (tokenizer : Tokenizer τ) (cursor : Cursor) (before : List (Piece τ)) : Scan τ :=
  if cursor.atEnd then ⟨before.reverse, .atEnd, cursor, cursor⟩
  else
    match _h : attempt cursor tokenizer.recognizers with
    | .halted ending moved => ⟨before.reverse, ending, cursor, cursor.forward moved⟩
    | .accepted token moved =>
        let next := cursor.forward moved
        scanFrom tokenizer next (⟨token, ⟨cursor.position, next.position⟩⟩ :: before)
termination_by cursor.rest.length
decreasing_by exact Cursor.length_forward_lt (position_ne_of_attempt _h)

def scan (tokenizer : Tokenizer τ) (cursor : Cursor) : Scan τ := tokenizer.scanFrom cursor []

def scanString (tokenizer : Tokenizer τ) (text : String) : Scan τ :=
  tokenizer.scan (Cursor.ofString text)

end Tokenizer

end LexKit
