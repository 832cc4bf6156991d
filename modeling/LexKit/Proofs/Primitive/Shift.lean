import LexKit.Primitive
import LexKit.Scripted

/-!
# Text in front of the input

A place of an input can also be seen as a place of a longer input, where more text was passed before. Matchers
look only at what comes next, so all that changes for them is where they stand: spans and errors move by the
length of the text in front, and everything else stays as it is. That holds of scripted matchers too, and of
the recognizers made of either.
-/

namespace LexKit

open Text

namespace Cursor

variable (front : List Char) (cursor : Cursor) (count : Nat)

/-- The same place, with a text in front of the input that was passed before. -/
def prepend : Cursor :=
  ⟨cursor.passed ++ front.reverse, cursor.rest, cursor.position + byteLength front, by
    rw [cursor.position_eq, byteLength_append, byteLength_reverse]⟩

@[simp] theorem prepend_rest : (cursor.prepend front).rest = cursor.rest := rfl

@[simp] theorem prepend_position :
    (cursor.prepend front).position = cursor.position + byteLength front := rfl

@[simp] theorem prepend_atEnd : (cursor.prepend front).atEnd = cursor.atEnd := rfl

@[simp] theorem prepend_peek : (cursor.prepend front).peek = cursor.peek := rfl

theorem forward_prepend :
    (cursor.prepend front).forward count = (cursor.forward count).prepend front := by
  apply ext
  · simp [forward_passed, prepend]
  · simp [forward_rest]

theorem spanOf_prepend :
    (cursor.prepend front).spanOf count = (cursor.spanOf count).shift (byteLength front) := by
  simp only [spanOf, Span.shift, prepend_position, prepend_rest, Span.mk.injEq, true_and]
  omega

theorem forward_length_ofString (front text : String) :
    (ofString (front ++ text)).forward front.length = (ofString text).prepend front.toList := by
  have size : front.length = front.toList.length := String.length_toList.symm
  apply ext
  · simp [forward_passed, ofString, ofList, prepend, size]
  · simp [forward_rest, ofString, ofList, size]

end Cursor

/-! ## Answers at another place -/

def ScanError.shift (error : ScanError) (bytes : Nat) : ScanError :=
  error.withPosition (error.position + bytes)

def Extract.shift (extract : Extract) (bytes : Nat) : Extract :=
  { extract with span := extract.span.shift bytes }

/-- The same outcome, found a number of bytes later, where `value` says what that makes of a match. -/
def Outcome.shift {α : Type} (value : α → Nat → α) (outcome : Outcome α) (bytes : Nat) : Outcome α :=
  match outcome with
  | .noMatch => .noMatch
  | .matched found => .matched (value found bytes)
  | .failed error => .failed (error.shift bytes)

theorem Outcome.isNoMatch_shift {α : Type} (value : α → Nat → α) (outcome : Outcome α) (bytes : Nat) :
    (outcome.shift value bytes).isNoMatch = outcome.isNoMatch := by
  cases outcome <;> rfl

namespace Step

variable {α : Type} (value : α → Nat → α)

def shift (step : Step α) (bytes : Nat) : Step α := ⟨step.outcome.shift value bytes, step.moved⟩

theorem next_shift (step : Step α) (bytes : Nat) (front : List Char) (cursor : Cursor) :
    (step.shift value bytes).next (cursor.prepend front) = (step.next cursor).prepend front :=
  Cursor.forward_prepend front cursor step.moved

end Step

/-- With a text in front of the input, the same is found, moved by the length of that text. -/
def ShiftInvariant {α : Type} (value : α → Nat → α) (run : Cursor → Step α) : Prop :=
  ∀ (front : List Char) (cursor : Cursor),
    run (cursor.prepend front) = (run cursor).shift value (byteLength front)

/-! ## Matchers -/

namespace Cursor

theorem take_prepend (front : List Char) (cursor : Cursor) (count : Nat) (text : Option String) :
    (cursor.prepend front).take count text =
      (cursor.take count text).shift Extract.shift (byteLength front) := by
  simp only [take, spanOf_prepend]
  rfl

theorem takeText_prepend (front : List Char) (cursor : Cursor) (count : Nat) :
    (cursor.prepend front).takeText count =
      (cursor.takeText count).shift Extract.shift (byteLength front) :=
  take_prepend front cursor count _

end Cursor

namespace Primitive

theorem blanksMatcher_shift : ShiftInvariant Extract.shift blanksMatcher := by
  intro front cursor
  simp only [blanksMatcher, Cursor.prepend_rest, Cursor.take_prepend]
  split <;> rfl

theorem endMatcher_shift : ShiftInvariant Extract.shift endMatcher := by
  intro front cursor
  simp only [endMatcher, Cursor.prepend_atEnd, Cursor.take_prepend]
  split <;> rfl

theorem charMatcher_shift (set : String) : ShiftInvariant Extract.shift (charMatcher set) := by
  intro front cursor
  simp only [charMatcher, Cursor.prepend_peek, Cursor.takeText_prepend]
  cases cursor.peek with
  | none => rfl
  | some char => simp only; split <;> rfl

theorem literalMatcher_shift (text : String) : ShiftInvariant Extract.shift (literalMatcher text) := by
  intro front cursor
  simp only [literalMatcher, Cursor.prepend_rest, Cursor.takeText_prepend]
  split <;> rfl

theorem firstLiteral_shift (texts : List String) : ShiftInvariant Extract.shift (firstLiteral texts) := by
  intro front cursor
  induction texts with
  | nil => rfl
  | cons text texts ih =>
      have same : (literalMatcher text (cursor.prepend front)).outcome.isNoMatch =
          (literalMatcher text cursor).outcome.isNoMatch := by
        rw [literalMatcher_shift]
        exact Outcome.isNoMatch_shift _ _ _
      simp only [firstLiteral, same, ih]
      split
      · rfl
      · exact literalMatcher_shift text front cursor

theorem patternMatcher_shift (pattern : Pattern) : ShiftInvariant Extract.shift pattern.matcher := by
  intro front cursor
  simp only [Pattern.matcher, Cursor.prepend_rest, Cursor.takeText_prepend]
  split <;> rfl

theorem delimitedMatcher_shift (region : Delimiters) : ShiftInvariant Extract.shift region.matcher := by
  intro front cursor
  simp only [Delimiters.matcher, Cursor.prepend_rest, Cursor.take_prepend]
  cases cursor.rest with
  | nil => rfl
  | cons char body =>
      simp only
      split
      · cases region.readFrom body [] 1 <;> rfl
      · rfl

theorem matcher_shift (primitive : Primitive) : ShiftInvariant Extract.shift primitive.matcher := by
  cases primitive with
  | blanks => exact blanksMatcher_shift
  | endOfInput => exact endMatcher_shift
  | literal text => exact literalMatcher_shift text
  | oneCharOf set => exact charMatcher_shift set
  | oneOfLiterals texts => exact firstLiteral_shift texts
  | pattern compiled => exact patternMatcher_shift compiled
  | delimited region => exact delimitedMatcher_shift region

end Primitive

theorem Scripted.matcher_shift (script : Scripted) : ShiftInvariant Extract.shift script.matcher := by
  intro front cursor
  have applies : script.applies (cursor.prepend front) = script.applies cursor := rfl
  simp only [matcher, applies]
  split
  · unfold step
    cases script.reply with
    | matched => exact Cursor.takeText_prepend front cursor script.count
    | skipped => exact Cursor.take_prepend front cursor script.count none
    | noMatch | unterminated | trailing => rfl
  · rfl

/-! ## Recognizers -/

namespace Matcher

variable {τ : Type} {matcher : Matcher} {value : τ → Nat → τ}

/-- A recognizer moves with its matcher, if its tokens move with the spans that they are made of. -/
theorem emit_shift (invariant : ShiftInvariant Extract.shift matcher) {token : String → Span → τ}
    (moves : ∀ text span bytes, token text (span.shift bytes) = value (token text span) bytes) :
    ShiftInvariant (fun found bytes => found.map (value · bytes)) (emit matcher token) := by
  intro front cursor
  simp only [emit, invariant front cursor]
  cases found : (matcher cursor).outcome with
  | noMatch | failed => simp [Step.map, Step.shift, Outcome.map, Outcome.shift, found]
  | matched extract =>
      cases taken : extract.text <;>
        simp [Step.map, Step.shift, Outcome.map, Outcome.shift, Extract.shift, found, taken, moves]

theorem skip_shift (invariant : ShiftInvariant Extract.shift matcher) :
    ShiftInvariant (fun found bytes => found.map (value · bytes)) (skip matcher) := by
  intro front cursor
  simp only [skip, invariant front cursor]
  cases found : (matcher cursor).outcome <;>
    simp [Step.map, Step.shift, Outcome.map, Outcome.shift, found]

end Matcher

end LexKit
