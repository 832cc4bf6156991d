import LexKit.Fault
import LexKit.Text.Bytes

/-!
# Positions and spans

A position is a byte offset into a text, and a span a half-open range of them. Spans made by `Span.new?`
never run backwards; a span written down field by field may, and then has length zero.
-/

namespace LexKit

open Text

namespace Position

/-- Positions are 64-bit numbers. -/
def limit : Nat := UInt64.size

def advance (position bytes : Nat) : Except Fault Nat :=
  if position + bytes < limit then .ok (position + bytes) else .error .offsetOverflow

/-- The number of bytes up to a later position, zero for an earlier one. -/
def distance (position later : Nat) : Nat := later - position

def render (position : Nat) : String := toString position

def describe (position : Nat) : String := s!"Position({position})"

end Position

/-- The half-open range of bytes from `start` to `stop`. -/
structure Span where
  start : Nat
  stop : Nat
deriving Repr, DecidableEq

namespace Span

/-- A span between two positions that come in this order. -/
def new? (start stop : Nat) : Except Fault Span :=
  if start ≤ stop then .ok ⟨start, stop⟩ else .error .reversedSpan

def emptyAt (position : Nat) : Span := ⟨position, position⟩

def length (span : Span) : Nat := Position.distance span.start span.stop

def isEmpty (span : Span) : Bool := span.start == span.stop

def union (first second : Span) : Span :=
  ⟨min first.start second.start, max first.stop second.stop⟩

def text (span : Span) (source : List Char) : Except Fault String :=
  match slice? source span.start span.stop with
  | some part => .ok (String.ofList part)
  | none => .error .outsideText

/-- The covered part of the text, where the text from the start of the span on is at hand. -/
def textHere (span : Span) (tail : List Char) : Except Fault String :=
  match headBytes? span.length tail with
  | some part => .ok (String.ofList part)
  | none => .error .outsideText

/-- The covered parts for a list of spans, in one walk as long as each span starts behind the start of the
one before it. `tail` is the source from `position` on, and `before` holds the parts found so far, the
latest first. -/
def textsFrom (source tail : List Char) (position : Nat) (before : List (Except Fault String)) :
    List Span → List (Except Fault String)
  | [] => before.reverse
  | span :: spans =>
      if position ≤ span.start ∧ span.start ≤ span.stop then
        match splitAtByte? (span.start - position) tail with
        | some (_, tail) => textsFrom source tail span.start (span.textHere tail :: before) spans
        | none => textsFrom source tail position (.error .outsideText :: before) spans
      else textsFrom source tail position (span.text source :: before) spans

def texts (source : List Char) (spans : List Span) : List (Except Fault String) :=
  textsFrom source source 0 [] spans

theorem textsFrom_eq {source head tail : List Char} {position : Nat}
    (before : List (Except Fault String)) (spans : List Span) (whole : source = head ++ tail)
    (size : byteLength head = position) :
    textsFrom source tail position before spans = before.reverse ++ spans.map (text · source) := by
  induction spans generalizing head tail position before with
  | nil => simp [textsFrom]
  | cons span spans ih =>
      simp only [textsFrom]
      split
      · rename_i order
        have cut : splitAtByte? span.start source =
            (splitAtByte? (span.start - position) tail).map (Prod.map (head ++ ·) id) := by
          apply Option.ext
          rintro ⟨first, last⟩
          rw [splitAtByte?_eq_some_iff]
          simp only [Option.map_eq_some_iff, Prod.exists, Prod.map_apply, id_eq, Prod.mk.injEq,
            splitAtByte?_eq_some_iff]
          constructor
          · rintro ⟨same, length⟩
            obtain ⟨middle, rfl, rfl⟩ | ⟨rest, rfl, rfl⟩ :=
              List.append_eq_append_iff.1 (whole.symm.trans same)
            · exact ⟨middle, _, ⟨rfl, by simp at length; omega⟩, rfl, rfl⟩
            · cases rest with
              | nil => exact ⟨[], _, ⟨rfl, by simp at size ⊢; omega⟩, by simp, rfl⟩
              | cons char rest =>
                  have := char.utf8Size_pos
                  simp at size
                  omega
          · rintro ⟨middle, _, ⟨rfl, length⟩, rfl, rfl⟩
            exact ⟨by simp [whole], by simp; omega⟩
        split
        · rename_i middle tail' found
          obtain ⟨rfl, length⟩ := splitAtByte?_eq_some_iff.1 found
          have whole' : source = (head ++ middle) ++ tail' := by simp [whole]
          rw [ih _ whole' (by simp; omega)]
          simp [text, textHere, slice?, order.2, cut, found, Span.length, Position.distance]
        · rename_i missing
          rw [ih _ whole size]
          simp [text, slice?, order.2, cut, missing]
      · rw [ih _ whole size]
        simp

/-- One walk finds the same parts as looking each span up by itself. -/
theorem texts_eq (source : List Char) (spans : List Span) :
    texts source spans = spans.map (text · source) := by
  rw [texts, textsFrom_eq [] spans (List.nil_append source).symm byteLength_nil]
  simp

def shift (span : Span) (bytes : Nat) : Span := ⟨span.start + bytes, span.stop + bytes⟩

def render (span : Span) : String := s!"{span.start}..{span.stop}"

def describe (span : Span) : String :=
  "Span \x7b start: " ++ Position.describe span.start ++ ", end: " ++ Position.describe span.stop ++ " \x7d"

end Span

end LexKit
