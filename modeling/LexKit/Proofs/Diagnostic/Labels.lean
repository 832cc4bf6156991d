import LexKit.Diagnostic
import LexKit.Proofs.Text.Places

/-!
# What an error points at

An error can hold any position, also one where no scan could have found it. Its span covers the character that
starts there and is empty where none does. So the sum that ends the span stays within 64 bits whenever the position
does: a character lies within the source, and where there is none nothing is added.
-/

namespace LexKit

open Text

theorem Span.text_of_not_isBoundary {span : Span} {source : List Char} (cuts : ¬ IsBoundary source span.start) :
    span.text source = .error .outsideText := by
  simp only [text, slice?_of_not_isBoundary cuts]

theorem Span.text_emptyAt {source : List Char} {place : Nat} (boundary : IsBoundary source place) :
    (emptyAt place).text source = .ok "" := by
  simp only [text, emptyAt, slice?_of_isBoundary boundary, String.ofList_nil]

namespace ScanError

variable {error : ScanError} {source : List Char} {char : Char}

theorem span_eq (error : ScanError) (source : List Char) :
    error.span source = ⟨error.position, error.position + charSizeAt source error.position⟩ := by
  unfold span charSizeAt
  rcases splitAtByte? error.position source with _ | ⟨head, _ | ⟨char, tail⟩⟩ <;> rfl

theorem span_of_charAt (starts : CharAt source error.position char) :
    error.span source = ⟨error.position, error.position + char.utf8Size⟩ := by
  rw [span_eq, charSizeAt_of_charAt starts]

theorem span_of_not_charAt (starts : ∀ char, ¬ CharAt source error.position char) :
    error.span source = Span.emptyAt error.position := by
  rw [span_eq, charSizeAt_of_not_charAt starts]
  rfl

theorem text_span_of_charAt (starts : CharAt source error.position char) :
    (error.span source).text source = .ok (String.ofList [char]) := by
  rw [span_of_charAt starts]
  simp only [Span.text, slice?_of_charAt starts]

theorem isEmpty_span : (error.span source).isEmpty = false ↔ ∃ char, CharAt source error.position char := by
  by_cases starts : ∃ char, CharAt source error.position char
  · obtain ⟨char, here⟩ := starts
    refine iff_of_true ?_ ⟨char, here⟩
    rw [span_of_charAt here, Span.isEmpty, beq_eq_false_iff_ne]
    exact Nat.ne_of_lt (Nat.lt_add_of_pos_right char.utf8Size_pos)
  · refine iff_of_false ?_ starts
    rw [span_of_not_charAt (not_exists.1 starts)]
    simp [Span.isEmpty, Span.emptyAt]

theorem span?_eq (error : ScanError) (source : List Char) :
    error.span? source =
      if (error.span source).stop < Position.limit then .ok (error.span source)
      else .error .offsetOverflow := by
  rw [span?, span_eq, Position.advance]
  split
  · simp only [bind, Except.bind, Span.new?, if_pos (Nat.le_add_right _ _)]
  · rfl

theorem stop_span_lt (fits : byteLength source < Position.limit) (word : error.position < Position.limit) :
    (error.span source).stop < Position.limit := by
  by_cases starts : ∃ char, CharAt source error.position char
  · obtain ⟨char, starts⟩ := starts
    rw [span_of_charAt starts]
    exact Nat.lt_of_le_of_lt starts.le_byteLength fits
  · rw [span_of_not_charAt (not_exists.1 starts)]
    exact word

theorem diagnostic?_eq (made : error.span? source = .ok (error.span source)) :
    error.diagnostic? source = .ok (error.diagnostic source) := by
  rw [diagnostic?, made]
  rfl

/-- Errors of both kinds at any position of 64 bits, in any source whose length fits into 64 bits. Neither the span
nor the diagnostic is a fault, and the label of the diagnostic is the span. It covers something just when the position
is a boundary before the end of the source, and then it covers the one character there. At all other positions it is
empty, and its text is a fault just when the position lies behind the source or cuts a character. -/
theorem points_at_character_or_nothing (error : ScanError) (source : List Char)
    (fits : byteLength source < Position.limit) (word : error.position < Position.limit) :
    let place := error.position
    let span := error.span source
    let text := span.text source
    let starts := IsBoundary source place ∧ place < byteLength source
    error.span? source = .ok span ∧ error.diagnostic? source = .ok (error.diagnostic source) ∧
      (error.diagnostic source).label.span = span ∧
      (span.isEmpty = false ↔ starts) ∧
      (starts → ∃ char, CharAt source place char ∧ span = ⟨place, place + char.utf8Size⟩ ∧
        text = .ok (String.ofList [char])) ∧
      (¬ starts → span = Span.emptyAt place ∧ (place = byteLength source → text = .ok "") ∧
        ((∃ fault, text = .error fault) ↔ byteLength source < place ∨ InsideChar source place)) := by
  intro place span text starts
  have made : error.span? source = .ok span := by rw [span?_eq, if_pos (stop_span_lt fits word)]
  refine ⟨made, diagnostic?_eq made, rfl, isEmpty_span.trans exists_charAt_iff, fun begins => ?_, fun other => ?_⟩
  · obtain ⟨char, here⟩ := exists_charAt_iff.2 begins
    exact ⟨char, here, span_of_charAt here, text_span_of_charAt here⟩
  · have empty : span = Span.emptyAt place := span_of_not_charAt (not_exists.1 fun here =>
      other (exists_charAt_iff.1 here))
    have covers (boundary : IsBoundary source place) : text = .ok "" := by
      simp only [text, empty, Span.text_emptyAt boundary]
    refine ⟨empty, fun atEnd => covers (atEnd ▸ isBoundary_byteLength source), ?_⟩
    rw [← not_isBoundary_iff]
    constructor
    · rintro ⟨fault, faults⟩ boundary
      cases (covers boundary).symm.trans faults
    · intro cuts
      refine ⟨.outsideText, Span.text_of_not_isBoundary ?_⟩
      rwa [empty]

/-- Characters of two, three and one bytes: the start of the second, a place inside it, the end of the source, and
the last position of 64 bits. -/
theorem points_at_character_or_nothing_arrow :
    let source := "é→x".toList
    let last := Position.limit - 1
    let text (error : ScanError) : Except Fault String := (error.span source).text source
    byteLength source < Position.limit ∧ last < Position.limit ∧
      (unterminatedDelimiter 2).span? source = .ok ⟨2, 5⟩ ∧ text (unterminatedDelimiter 2) = .ok "→" ∧
      (unexpectedTrailingInput 3).span? source = .ok ⟨3, 3⟩ ∧
      (∃ fault, text (unexpectedTrailingInput 3) = .error fault) ∧
      (unterminatedDelimiter 6).span? source = .ok ⟨6, 6⟩ ∧ text (unterminatedDelimiter 6) = .ok "" ∧
      (unexpectedTrailingInput last).span? source = .ok ⟨last, last⟩ ∧
      (∃ fault, text (unexpectedTrailingInput last) = .error fault) := by
  intro source last text
  have fits : byteLength source < Position.limit := by decide
  have beyond : byteLength source < last := by decide
  have arrow : CharAt source 2 '→' := ⟨['é'], ['x'], rfl, by decide⟩
  have inside : InsideChar source 3 := ⟨['é'], '→', ['x'], rfl, by decide, by decide⟩
  obtain ⟨starts, -, -, -, covers, -⟩ :=
    points_at_character_or_nothing (unterminatedDelimiter 2) source fits (by decide)
  obtain ⟨cuts, -, -, -, -, insideIs⟩ :=
    points_at_character_or_nothing (unexpectedTrailingInput 3) source fits (by decide)
  obtain ⟨ends, -, -, -, -, endIs⟩ :=
    points_at_character_or_nothing (unterminatedDelimiter 6) source fits (by decide)
  obtain ⟨far, -, -, -, -, lastIs⟩ :=
    points_at_character_or_nothing (unexpectedTrailingInput last) source fits (by decide)
  obtain ⟨char, here, spanArrow, arrowText⟩ := covers (exists_charAt_iff.1 ⟨_, arrow⟩)
  obtain rfl : char = '→' := here.unique arrow
  obtain ⟨spanInside, -, insideFaults⟩ := insideIs fun both => inside.not_isBoundary both.1
  obtain ⟨spanEnd, endText, -⟩ := endIs fun both => Nat.lt_irrefl 6 both.2
  obtain ⟨spanLast, -, lastFaults⟩ := lastIs fun both => Nat.lt_asymm beyond both.2
  exact ⟨fits, by decide, starts.trans (congrArg Except.ok spanArrow), arrowText,
    cuts.trans (congrArg Except.ok spanInside), insideFaults.2 (.inr inside),
    ends.trans (congrArg Except.ok spanEnd), endText rfl,
    far.trans (congrArg Except.ok spanLast), lastFaults.2 (.inl beyond)⟩

end ScanError

end LexKit
