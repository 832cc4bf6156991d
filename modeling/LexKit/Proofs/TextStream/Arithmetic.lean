import LexKit.Proofs.TextStream.Scripts

/-!
# Moves by any number of bytes

Which numbers of bytes a stream can pass, and how it refuses the others. A number that leads to a place between two
characters of the input, or to its end, is passed; of any other the stream says that it cannot be passed, however great
it is. Spans are not checked against the input: they are refused where an offset leaves 64 bits, and for running
backwards only if none does.
-/

namespace LexKit

open Text TextStream

variable {τ : Type} {cursor : Cursor} {length : Nat}

theorem Cursor.isBoundary_iff_take :
    IsBoundary cursor.text (cursor.position + length) ↔
      ∃ count, byteLength (cursor.rest.take count) = length := by
  have passed : byteLength cursor.passed.reverse = cursor.position := by
    rw [byteLength_reverse, ← cursor.position_eq]
  constructor
  · rintro ⟨head, tail, parts, size⟩
    rcases List.append_eq_append_iff.1 parts with ⟨taken, rfl, rest⟩ | ⟨back, before, rfl⟩
    · refine ⟨taken.length, ?_⟩
      rw [rest, List.take_left]
      rw [byteLength_append] at size
      omega
    · -- The place lies no further back than the cursor.
      refine ⟨0, ?_⟩
      have whole := congrArg byteLength before
      rw [byteLength_append] at whole
      simp only [List.take_zero, byteLength_nil]
      omega
  · rintro ⟨count, rfl⟩
    refine ⟨cursor.passed.reverse ++ cursor.rest.take count, cursor.rest.drop count, ?_, ?_⟩
    · rw [List.append_assoc, List.take_append_drop]
      rfl
    · rw [byteLength_append, passed]

theorem Cursor.splitAtByte?_of_not_boundary
    (inside : ¬ IsBoundary cursor.text (cursor.position + length)) :
    splitAtByte? length cursor.rest = none := by
  refine splitAtByte?_eq_none_iff.2 ?_
  rintro ⟨taken, after, opens, size⟩
  refine inside (isBoundary_iff_take.2 ⟨taken.length, ?_⟩)
  rw [opens, List.take_left, size]

theorem Cursor.forward_stream (count : Nat) (cursor : Cursor) :
    (cursor.forward count).stream =
      { cursor.stream with offset := cursor.position + byteLength (cursor.rest.take count) } := by
  rw [stream, forward_text, forward_position]
  rfl

namespace TextStream

theorem advance_of_boundary (fits : byteLength cursor.text < Position.limit)
    (boundary : IsBoundary cursor.text (cursor.position + length)) :
    advance length cursor.stream =
      (.ok ⟨cursor.position, cursor.position + length⟩,
        { cursor.stream with offset := cursor.position + length }) := by
  obtain ⟨count, rfl⟩ := Cursor.isBoundary_iff_take.1 boundary
  rw [advance_stream, Cursor.advance_take fits, ← Cursor.forward_stream]
  rfl

theorem consume_of_boundary (fits : byteLength cursor.text < Position.limit)
    (boundary : IsBoundary cursor.text (cursor.position + length)) :
    ∃ part, consume length cursor.stream =
        (.ok (part, ⟨cursor.position, cursor.position + length⟩),
          { cursor.stream with offset := cursor.position + length }) ∧
      Span.text ⟨cursor.position, cursor.position + length⟩ cursor.text = .ok part := by
  obtain ⟨count, rfl⟩ := Cursor.isBoundary_iff_take.1 boundary
  refine ⟨cursor.textOf count, ?_, cursor.text_spanOf count⟩
  rw [consume_stream, Cursor.consume_take fits, ← Cursor.forward_stream]
  rfl

/-- The place is looked at before any sum is made, so no length makes a sum leave 64 bits. -/
theorem advance_of_not_boundary (inside : ¬ IsBoundary cursor.text (cursor.position + length)) :
    advance length cursor.stream = (.error (.cannotAdvance length cursor.position), cursor.stream) := by
  rw [advance_stream, Cursor.advance, Cursor.splitAtByte?_of_not_boundary inside]
  rfl

theorem consume_of_not_boundary (inside : ¬ IsBoundary cursor.text (cursor.position + length)) :
    consume length cursor.stream = (.error .outsideText, cursor.stream) := by
  rw [consume_stream, Cursor.consume, headBytes?, Cursor.splitAtByte?_of_not_boundary inside]
  rfl

/-- A span from the offset on never runs backwards, so only the sum can go wrong. -/
theorem spanOfLength_eq (length : Nat) (stream : TextStream) :
    spanOfLength length stream =
      (if Position.limit ≤ stream.offset + length then .error .offsetOverflow
        else .ok ⟨stream.offset, stream.offset + length⟩, stream) := by
  simp only [spanOfLength, bind_apply, current_apply, Action.ofExcept, Position.advance]
  by_cases within : stream.offset + length < Position.limit
  · rw [if_pos within, if_neg (Nat.not_le.2 within)]
    simp only [Span.new?, if_pos (Nat.le_add_right _ _)]
  · rw [if_neg within, if_pos (Nat.not_lt.1 within)]

theorem spanOfRange_eq (start stop : Nat) (stream : TextStream) :
    spanOfRange start stop stream =
      (if Position.limit ≤ stream.offset + start ∨ Position.limit ≤ stream.offset + stop then
          .error .offsetOverflow
        else if stop < start then .error .reversedSpan
        else .ok ⟨stream.offset + start, stream.offset + stop⟩, stream) := by
  simp only [spanOfRange, bind_apply, current_apply, Action.ofExcept, Position.advance]
  by_cases first : stream.offset + start < Position.limit
  · by_cases last : stream.offset + stop < Position.limit
    · have none : ¬ (Position.limit ≤ stream.offset + start ∨ Position.limit ≤ stream.offset + stop) := by
        omega
      simp only [if_pos first, if_pos last, if_neg none, Span.new?]
      by_cases order : start ≤ stop
      · rw [if_pos (Nat.add_le_add_left order _), if_neg (Nat.not_lt.2 order)]
      · rw [if_neg (by omega), if_pos (Nat.not_le.1 order)]
    · simp only [if_pos first, if_neg last, if_pos (Or.inr (Nat.not_lt.1 last))]
  · simp only [if_neg first, if_pos (Or.inl (Nat.not_lt.1 first))]

end TextStream

/-- Wherever a script leaves a stream of an input whose length fits into 64 bits: a number of bytes can be passed, and
consumed, just when it leads to a boundary of the input; of any other number the stream says that it cannot advance by
it, and stands still. A span of a length fails only by leaving 64 bits, and a span of a range by that first and
then by running backwards. The three faults have words of their own. -/
theorem moves_reach_boundaries (text : String) (fits : text.utf8ByteSize < Position.limit)
    (script : List (Instruction τ)) :
    let stream := ((StreamSession.ofString text).carryOutAll script).stream
    let place := stream.offset
    let reaches (length : Nat) : Prop :=
      place + length ≤ text.utf8ByteSize ∧ IsBoundary text.toList (place + length)
    let moved (length : Nat) : TextStream := { stream with offset := place + length }
    (∀ length, reaches length →
      advance length stream = (.ok ⟨place, place + length⟩, moved length) ∧
      ∃ part, consume length stream = (.ok (part, ⟨place, place + length⟩), moved length) ∧
        Span.text ⟨place, place + length⟩ stream.contents = .ok part) ∧
    (∀ length, ¬ reaches length →
      advance length stream = (.error (.cannotAdvance length place), stream) ∧
      consume length stream = (.error .outsideText, stream)) ∧
    (∀ length, spanOfLength length stream =
      (if Position.limit ≤ place + length then .error .offsetOverflow
        else .ok ⟨place, place + length⟩, stream)) ∧
    (∀ start stop, spanOfRange start stop stream =
      (if Position.limit ≤ place + start ∨ Position.limit ≤ place + stop then .error .offsetOverflow
        else if stop < start then .error .reversedSpan
        else .ok ⟨place + start, place + stop⟩, stream)) ∧
    (∀ length, (Fault.cannotAdvance length place).message? =
      some s!"cannot advance {length} bytes from offset {place}") ∧
    Fault.offsetOverflow.message? = some "attempt to add with overflow" ∧
    Fault.reversedSpan.message? = some "span ends before it starts" := by
  intro stream place reaches moved
  rw [utf8ByteSize_eq] at fits
  have start : (Session.ofString text).LiesIn text.toList := ⟨rfl, rfl⟩
  obtain ⟨same, lies⟩ := StreamSession.carryOutAll_streams start fits script
  obtain ⟨cursor, whole, here⟩ : ∃ cursor : Cursor, cursor.text = text.toList ∧ stream = cursor.stream :=
    ⟨_, lies.cursor_text, congrArg StreamSession.stream same⟩
  have fits' : byteLength cursor.text < Position.limit := by rwa [whole]
  have offset : place = cursor.position := congrArg TextStream.offset here
  have reaches_iff (length : Nat) : reaches length ↔ IsBoundary cursor.text (cursor.position + length) := by
    simp only [reaches, utf8ByteSize_eq, ← whole, offset]
    exact ⟨And.right, fun boundary => ⟨boundary.le_byteLength, boundary⟩⟩
  refine ⟨fun length reaching => ?_, fun length inside => ?_, fun length => spanOfLength_eq length stream,
    fun start stop => spanOfRange_eq start stop stream, fun _ => rfl, rfl, rfl⟩
  · have boundary := (reaches_iff length).1 reaching
    simp only [moved, offset, here]
    exact ⟨advance_of_boundary fits' boundary, consume_of_boundary fits' boundary⟩
  · rw [reaches_iff] at inside
    rw [offset, here]
    exact ⟨advance_of_not_boundary inside, consume_of_not_boundary inside⟩

/-- Behind a letter of two bytes stand one of three and one of a single byte: lengths that end behind the first, inside
it, behind the input and far behind all 64-bit offsets, and ranges that leave 64 bits at either end. -/
theorem moves_reach_boundaries_letters :
    let script : List (Instruction (Token Nat)) := [.advance 2]
    let stream := ((StreamSession.ofString "é→x").carryOutAll script).stream
    let last := Position.limit - 1
    "é→x".utf8ByteSize < Position.limit ∧ stream = ⟨"é→x".toList, 2⟩ ∧
      advance 3 stream = (.ok ⟨2, 5⟩, ⟨"é→x".toList, 5⟩) ∧
      (∃ part, consume 3 stream = (.ok (part, ⟨2, 5⟩), ⟨"é→x".toList, 5⟩)) ∧
      advance 1 stream = (.error (.cannotAdvance 1 2), stream) ∧
      advance last stream = (.error (.cannotAdvance last 2), stream) ∧
      spanOfLength last stream = (.error .offsetOverflow, stream) ∧
      spanOfRange last 0 stream = (.error .offsetOverflow, stream) ∧
      spanOfRange 4 3 stream = (.error .reversedSpan, stream) := by
  intro script stream last
  have fits : "é→x".utf8ByteSize < Position.limit := by decide
  have place : stream = ⟨"é→x".toList, 2⟩ := by decide +kernel
  have exact := moves_reach_boundaries "é→x" fits script
  simp only [show ((StreamSession.ofString "é→x").carryOutAll script).stream = _ from place] at exact
  obtain ⟨passes, refuses, spans, ranges, -⟩ := exact
  have behind : IsBoundary "é→x".toList (2 + 3) := ⟨"é→".toList, "x".toList, rfl, by decide⟩
  have inside : ¬ IsBoundary "é→x".toList (2 + 1) := by
    rintro ⟨head, tail, parts, size⟩
    have cut := splitAtByte?_eq_some_iff.2 ⟨parts, size⟩
    have none : splitAtByte? (2 + 1) "é→x".toList = none := by decide
    rw [none] at cut
    cases cut
  have far : ¬ 2 + last ≤ "é→x".utf8ByteSize := by decide
  obtain ⟨advances, part, consumes, -⟩ := passes 3 ⟨by decide, behind⟩
  rw [place]
  exact ⟨fits, rfl, advances, ⟨part, consumes⟩, (refuses 1 fun reaching => inside reaching.2).1,
    (refuses last fun reaching => far reaching.1).1, spans last, ranges last 0, ranges 4 3⟩

end LexKit
