import LexKit.Span

/-!
# Cursors

A cursor stands between two characters of an input. It keeps the characters on both sides, the passed
ones with the nearest first, so it always stands on a character boundary; `position` is the length in
bytes of what was passed. `forward` counts characters and stops at the end of the input; `advance` and
`consume` count bytes and refuse a place inside a character or behind the end.
-/

namespace LexKit

open Text

structure Cursor where
  /-- The characters before the cursor, the nearest first. -/
  passed : List Char
  /-- The characters from the cursor on. -/
  rest : List Char
  position : Nat
  position_eq : position = byteLength passed

namespace Cursor

@[ext] theorem ext {first second : Cursor} (passed : first.passed = second.passed)
    (rest : first.rest = second.rest) : first = second := by
  cases first with
  | mk passed₁ rest₁ position₁ h₁ =>
      cases second with
      | mk passed₂ rest₂ position₂ h₂ =>
          cases passed
          cases rest
          cases h₁
          cases h₂
          rfl

/-- The cursor before the first character. -/
def ofList (text : List Char) : Cursor := ⟨[], text, 0, rfl⟩

def ofString (text : String) : Cursor := ofList text.toList

/-- The whole input as characters. -/
def text (cursor : Cursor) : List Char := cursor.passed.reverse ++ cursor.rest

def contents (cursor : Cursor) : String := String.ofList cursor.text

def remaining (cursor : Cursor) : String := String.ofList cursor.rest

def atEnd (cursor : Cursor) : Bool := cursor.rest.isEmpty

def peek (cursor : Cursor) : Option Char := cursor.rest.head?

/-- Passes a number of characters, or all that are left. -/
def forward : Nat → Cursor → Cursor
  | 0, cursor => cursor
  | _ + 1, cursor@⟨_, [], _, _⟩ => cursor
  | count + 1, ⟨passed, char :: rest, position, h⟩ =>
      forward count ⟨char :: passed, rest, position + char.utf8Size, by simp [h, Nat.add_comm]⟩

theorem forward_rest (count : Nat) (cursor : Cursor) :
    (cursor.forward count).rest = cursor.rest.drop count := by
  induction count generalizing cursor with
  | zero => rfl
  | succ count ih =>
      match cursor with
      | ⟨_, [], _, _⟩ => rfl
      | ⟨_, char :: rest, _, _⟩ => simp [forward, ih]

theorem forward_passed (count : Nat) (cursor : Cursor) :
    (cursor.forward count).passed = (cursor.rest.take count).reverse ++ cursor.passed := by
  induction count generalizing cursor with
  | zero => rfl
  | succ count ih =>
      match cursor with
      | ⟨_, [], _, _⟩ => rfl
      | ⟨_, char :: rest, _, _⟩ => simp [forward, ih]

theorem forward_position (count : Nat) (cursor : Cursor) :
    (cursor.forward count).position = cursor.position + byteLength (cursor.rest.take count) := by
  rw [(cursor.forward count).position_eq, cursor.position_eq, forward_passed]
  simp [Nat.add_comm]

theorem forward_over {cursor : Cursor} {front after : List Char} (opens : cursor.rest = front ++ after) :
    (cursor.forward front.length).rest = after ∧
      (cursor.forward front.length).position = cursor.position + byteLength front := by
  rw [forward_rest, forward_position, opens, List.drop_left, List.take_left]
  exact ⟨rfl, rfl⟩

theorem forward_text (count : Nat) (cursor : Cursor) :
    (cursor.forward count).text = cursor.text := by
  simp [text, forward_rest, forward_passed]

theorem position_le_forward (count : Nat) (cursor : Cursor) :
    cursor.position ≤ (cursor.forward count).position := by
  rw [forward_position]
  exact Nat.le_add_right _ _

theorem byteLength_text (cursor : Cursor) :
    byteLength cursor.text = cursor.position + byteLength cursor.rest := by
  rw [text, byteLength_append, byteLength_reverse, ← cursor.position_eq]

theorem position_of_atEnd {cursor : Cursor} (ends : cursor.atEnd = true) :
    cursor.position = byteLength cursor.text := by
  have empty : cursor.rest = [] := List.isEmpty_iff.1 ends
  simp [byteLength_text, empty]

theorem position_lt_of_inside {cursor : Cursor} (inside : cursor.atEnd = false) :
    cursor.position < byteLength cursor.text := by
  rw [byteLength_text]
  cases rest : cursor.rest with
  | nil => simp [atEnd, rest] at inside
  | cons char rest =>
      have := char.utf8Size_pos
      rw [byteLength_cons]
      omega

theorem forward_forward (first second : Nat) (cursor : Cursor) :
    (cursor.forward first).forward second = cursor.forward (first + second) := by
  apply ext
  · simp only [forward_passed, forward_rest, List.take_add, List.reverse_append, List.append_assoc]
  · simp [forward_rest]

theorem length_forward_lt {count : Nat} {cursor : Cursor}
    (moved : (cursor.forward count).position ≠ cursor.position) :
    (cursor.forward count).rest.length < cursor.rest.length := by
  rw [forward_position] at moved
  rw [forward_rest, List.length_drop]
  cases count with
  | zero => simp at moved
  | succ count =>
      cases h : cursor.rest with
      | nil => simp [h] at moved
      | cons char rest =>
          simp only [List.length_cons]
          omega

def spanOf (cursor : Cursor) (count : Nat) : Span :=
  ⟨cursor.position, cursor.position + byteLength (cursor.rest.take count)⟩

def textOf (cursor : Cursor) (count : Nat) : String := String.ofList (cursor.rest.take count)

/-- The span of the next bytes, whether there are so many or not. -/
def spanOfLength (cursor : Cursor) (length : Nat) : Except Fault Span := do
  Span.new? cursor.position (← Position.advance cursor.position length)

/-- A range counted from the cursor, as a span of the whole input. -/
def spanOfRange (cursor : Cursor) (start stop : Nat) : Except Fault Span := do
  let first ← Position.advance cursor.position start
  let last ← Position.advance cursor.position stop
  Span.new? first last

/-- Passes a number of bytes, which have to end between characters. -/
def advance (cursor : Cursor) (length : Nat) : Except Fault (Span × Cursor) :=
  match splitAtByte? length cursor.rest with
  | none => .error (.cannotAdvance length cursor.position)
  | some (taken, _) => do
      let span ← cursor.spanOfLength length
      .ok (span, cursor.forward taken.length)

def consume (cursor : Cursor) (length : Nat) : Except Fault (String × Span × Cursor) :=
  match headBytes? length cursor.rest with
  | none => .error .outsideText
  | some taken => do
      let (span, next) ← cursor.advance length
      .ok (String.ofList taken, span, next)

end Cursor

end LexKit
