import LexKit.Proofs.Primitive.Shift
import LexKit.Proofs.Scan.Steps

/-!
# Inputs that go on

A place of an input is also a place of each longer input that begins with it. What was passed is the same there,
and so are the spans and texts of what comes next, as long as they do not reach beyond the old end. Two scans
that differ only in how they cut what makes no token go on alike.
-/

namespace LexKit

open Text

namespace Cursor

variable {cursor : Cursor} {count : Nat}

/-- The same place in an input with more text behind. -/
def extend (cursor : Cursor) (more : List Char) : Cursor :=
  ⟨cursor.passed, cursor.rest ++ more, cursor.position, cursor.position_eq⟩

@[simp] theorem extend_rest (cursor : Cursor) (more : List Char) :
    (cursor.extend more).rest = cursor.rest ++ more := rfl

@[simp] theorem extend_position (cursor : Cursor) (more : List Char) :
    (cursor.extend more).position = cursor.position := rfl

theorem ofString_append (front rest : String) :
    ofString (front ++ rest) = (ofString front).extend rest.toList := by
  simp [ofString, ofList, extend]

theorem forward_extend (within : count ≤ cursor.rest.length) (more : List Char) :
    (cursor.extend more).forward count = (cursor.forward count).extend more := by
  apply ext
  · have passed : (cursor.extend more).passed = cursor.passed := rfl
    rw [forward_passed, extend_rest, List.take_append_of_le_length within, passed]
    exact (forward_passed count cursor).symm
  · rw [forward_rest, extend_rest, List.drop_append_of_le_length within, extend_rest, forward_rest]

theorem spanOf_extend (within : count ≤ cursor.rest.length) (more : List Char) :
    (cursor.extend more).spanOf count = cursor.spanOf count := by
  rw [spanOf, extend_rest, extend_position, List.take_append_of_le_length within, spanOf]

theorem textOf_extend (within : count ≤ cursor.rest.length) (more : List Char) :
    (cursor.extend more).textOf count = cursor.textOf count := by
  rw [textOf, extend_rest, List.take_append_of_le_length within, textOf]

theorem atEnd_forward (beyond : cursor.rest.length ≤ count) : (cursor.forward count).atEnd = true := by
  rw [atEnd, forward_rest, List.drop_of_length_le beyond]
  rfl

theorem forward_length_extend (cursor : Cursor) (more : List Char) :
    (cursor.extend more).forward cursor.rest.length = (ofList more).prepend cursor.text := by
  have passed : (cursor.extend more).passed = cursor.passed := rfl
  apply ext
  · rw [forward_passed, extend_rest, List.take_left, passed]
    simp [prepend, ofList, text]
  · rw [forward_rest, extend_rest, List.drop_left]
    rfl

end Cursor

namespace Scan

variable {τ : Type} {scan next last : Scan τ} {tokens later : List τ}

/-- The scan makes some tokens, and from there on it does what another scan does. -/
structure GoesOnAs (scan : Scan τ) (tokens : List τ) (next : Scan τ) : Prop where
  tokens_eq : scan.tokens = tokens ++ next.tokens
  ending_eq : scan.ending = next.ending
  lastStart_eq : scan.lastStart = next.lastStart
  final_eq : scan.final = next.final

namespace GoesOnAs

theorem refl (scan : Scan τ) : scan.GoesOnAs [] scan := ⟨rfl, rfl, rfl, rfl⟩

theorem symm (same : scan.GoesOnAs [] next) : next.GoesOnAs [] scan :=
  ⟨same.tokens_eq.symm, same.ending_eq.symm, same.lastStart_eq.symm, same.final_eq.symm⟩

theorem trans (first : scan.GoesOnAs tokens next) (second : next.GoesOnAs later last) :
    scan.GoesOnAs (tokens ++ later) last := by
  refine ⟨?_, first.ending_eq.trans second.ending_eq, first.lastStart_eq.trans second.lastStart_eq,
    first.final_eq.trans second.final_eq⟩
  rw [first.tokens_eq, second.tokens_eq, List.append_assoc]

theorem behind (goesOn : scan.GoesOnAs tokens next) (before : List (Piece τ)) :
    (scan.behind before).GoesOnAs (before.filterMap (·.token) ++ tokens) next := by
  refine ⟨?_, goesOn.ending_eq, goesOn.lastStart_eq, goesOn.final_eq⟩
  rw [tokens_behind, goesOn.tokens_eq, List.append_assoc]

theorem result_eq (goesOn : scan.GoesOnAs tokens next) :
    scan.result = next.result.map (tokens ++ ·) := by
  unfold result
  rw [goesOn.ending_eq, goesOn.tokens_eq]
  cases next.ending <;> rfl

end GoesOnAs

end Scan

end LexKit
