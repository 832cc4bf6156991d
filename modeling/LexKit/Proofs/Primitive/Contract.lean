import LexKit.Proofs.Delimiters.Closing
import LexKit.Proofs.Primitive.Bytewise
import LexKit.Proofs.Text.Places

/-!
# What built-in matchers promise

A built-in matcher stands still, or matches the end of the input there, or takes at least one of the next
characters. That is said once, by `matcher_steps`, and the promises follow from it: no fault, no move
without a match, no match without a move, and spans and texts that belong to what was passed.
-/

namespace LexKit

open Text

namespace Cursor

theorem splitAtByte?_text (cursor : Cursor) :
    splitAtByte? cursor.position cursor.text = some (cursor.passed.reverse, cursor.rest) := by
  refine splitAtByte?_eq_some_iff.2 ⟨rfl, ?_⟩
  rw [byteLength_reverse, ← cursor.position_eq]

theorem isBoundary_position (cursor : Cursor) : IsBoundary cursor.text cursor.position :=
  ⟨_, _, splitAtByte?_eq_some_iff.1 cursor.splitAtByte?_text⟩

theorem charAt_position {cursor : Cursor} {char : Char} (next : cursor.peek = some char) :
    CharAt cursor.text cursor.position char := by
  obtain ⟨rest, opens⟩ := List.head?_eq_some_iff.1 next
  obtain ⟨parts, size⟩ := splitAtByte?_eq_some_iff.1 cursor.splitAtByte?_text
  exact ⟨_, rest, opens ▸ parts, size⟩

theorem position_lt_forward {cursor : Cursor} {count : Nat} (positive : 0 < count)
    (within : count ≤ cursor.rest.length) : cursor.position < (cursor.forward count).position := by
  have present : cursor.rest.take count ≠ [] := by
    rw [← List.length_pos_iff, List.length_take]
    omega
  have := byteLength_pos present
  rw [forward_position]
  omega

theorem text_spanOf (cursor : Cursor) (count : Nat) :
    (cursor.spanOf count).text cursor.text = .ok (cursor.textOf count) := by
  have part := slice?_append cursor.passed.reverse (cursor.rest.take count) (cursor.rest.drop count)
  rw [List.take_append_drop, byteLength_reverse, ← cursor.position_eq] at part
  simp only [Span.text, spanOf, text, part, textOf]

theorem text_upToEnd (cursor : Cursor) :
    (⟨cursor.position, byteLength cursor.text⟩ : Span).text cursor.text = .ok cursor.remaining := by
  have covers := cursor.text_spanOf cursor.rest.length
  rwa [spanOf, textOf, List.take_length, ← byteLength_text] at covers

end Cursor

namespace Primitive

/-- The texts that a built-in matcher can give for a number of the next characters. -/
def Yields (cursor : Cursor) (count : Nat) (text : Option String) : Primitive → Prop
  | .blanks => text = none
  | .endOfInput => False
  | .delimited _ => text.isSome
  | .literal _ | .oneCharOf _ | .oneOfLiterals _ | .pattern _ => text = some (cursor.textOf count)

theorem Yields.eq_none_iff {primitive : Primitive} {cursor : Cursor} {count : Nat} {text : Option String}
    (yields : primitive.Yields cursor count text) :
    text = none ↔ primitive = .blanks ∨ primitive = .endOfInput := by
  cases primitive with
  | blanks => exact ⟨fun _ => .inl rfl, fun _ => yields⟩
  | endOfInput => exact yields.elim
  | delimited region =>
      have present : text ≠ none := Option.isSome_iff_ne_none.1 yields
      simp [present]
  | literal _ | oneCharOf _ | oneOfLiterals _ | pattern _ =>
      have same : text = some (cursor.textOf count) := yields
      simp [same]

theorem Yields.eq_textOf {primitive : Primitive} {cursor : Cursor} {count : Nat} {text : Option String}
    {taken : String} (yields : primitive.Yields cursor count text) (same : text = some taken)
    (plain : ∀ region, primitive ≠ .delimited region) : taken = cursor.textOf count := by
  subst same
  cases primitive with
  | blanks => cases yields
  | endOfInput => exact yields.elim
  | delimited region => exact absurd rfl (plain region)
  | literal _ | oneCharOf _ | oneOfLiterals _ | pattern _ => exact Option.some.inj yields

/-- All that a built-in matcher can do at a cursor. -/
inductive Steps (primitive : Primitive) (cursor : Cursor) : Step Extract → Prop where
  | still {outcome : Outcome Extract} : (∀ extract, outcome ≠ .matched extract) →
      Steps primitive cursor (.still outcome)
  | ends : primitive = .endOfInput → cursor.atEnd = true → Steps primitive cursor (cursor.take 0 none)
  | takes {count : Nat} {text : Option String} : 0 < count → count ≤ cursor.rest.length →
      primitive.Yields cursor count text → Steps primitive cursor (cursor.take count text)

variable {primitive : Primitive} {cursor : Cursor}

theorem steps_noMatch : primitive.Steps cursor (.still .noMatch) :=
  .still fun _ => nofun

theorem steps_failed (error : ScanError) : primitive.Steps cursor (.still (.failed error)) :=
  .still fun _ => nofun

theorem blanksMatcher_steps : Steps .blanks cursor (blanksMatcher cursor) := by
  simp only [blanksMatcher]
  split
  · exact steps_noMatch
  · rename_i present
    exact .takes (Nat.pos_of_ne_zero present) (List.takeWhile_prefix _).length_le rfl

theorem endMatcher_steps : Steps .endOfInput cursor (endMatcher cursor) := by
  unfold endMatcher
  split
  · rename_i atEnd
    exact .ends rfl atEnd
  · exact steps_failed _

theorem charMatcher_steps (set : String) : Steps (.oneCharOf set) cursor (charMatcher set cursor) := by
  unfold charMatcher Cursor.peek
  cases rest : cursor.rest with
  | nil => exact steps_noMatch
  | cons char body =>
      simp only [List.head?_cons]
      split
      · exact .takes Nat.one_pos (by simp [rest]) rfl
      · exact steps_noMatch

theorem literalMatcher_steps (text : String)
    (plain : ∀ count, primitive.Yields cursor count (some (cursor.textOf count))) :
    primitive.Steps cursor (literalMatcher text cursor) := by
  rw [literalMatcher_eq]
  split
  · rename_i applies
    exact .takes (List.length_pos_iff.2 applies.1) applies.2.length_le (plain _)
  · exact steps_noMatch

theorem firstLiteral_steps (texts : List String)
    (plain : ∀ count, primitive.Yields cursor count (some (cursor.textOf count))) :
    primitive.Steps cursor (firstLiteral texts cursor) := by
  induction texts with
  | nil => exact steps_noMatch
  | cons text texts ih =>
      simp only [firstLiteral]
      split
      · exact ih
      · exact literalMatcher_steps text plain

theorem patternMatcher_steps (pattern : Pattern) :
    Steps (.pattern pattern) cursor (pattern.matcher cursor) := by
  unfold Pattern.matcher
  split
  · rename_i count reaches
    obtain ⟨positive, within⟩ := Pattern.reach?_bounds reaches
    exact .takes positive within rfl
  · exact steps_noMatch

theorem delimitedMatcher_steps (region : Delimiters) :
    Steps (.delimited region) cursor (region.matcher cursor) := by
  by_cases opens : cursor.rest.head? = some region.opening
  · obtain ⟨body, rest⟩ := List.head?_eq_some_iff.1 opens
    by_cases closes : ∃ index, region.EndsAt body index
    · obtain ⟨index, ends⟩ := closes
      rw [Delimiters.matcher_of_endsAt rest ends]
      have within : index < body.length := (List.getElem?_eq_some_iff.1 ends.1.1).1
      refine .takes (by omega) ?_ rfl
      rw [rest, List.length_cons]
      omega
    · rw [Delimiters.matcher_of_not_endsAt rest (not_exists.1 closes)]
      exact steps_failed _
  · rw [Delimiters.matcher_of_head_ne opens]
    exact steps_noMatch

theorem matcher_steps (primitive : Primitive) (cursor : Cursor) :
    primitive.Steps cursor (primitive.matcher cursor) := by
  cases primitive with
  | blanks => exact blanksMatcher_steps
  | endOfInput => exact endMatcher_steps
  | literal text => exact literalMatcher_steps text fun _ => rfl
  | oneCharOf set => exact charMatcher_steps set
  | oneOfLiterals texts => exact firstLiteral_steps texts fun _ => rfl
  | pattern compiled => exact patternMatcher_steps compiled
  | delimited region => exact delimitedMatcher_steps region

/-! ## The promises -/

/-- Where a built-in matcher or a recognizer made of it leaves the cursor: in the same input, at the same
place without a match, and with a match further on, save that the check for the end of the input matches at
the end only and stays there. -/
structure Moves {α : Type} (primitive : Primitive) (cursor next : Cursor) (outcome : Outcome α) : Prop where
  text_eq : next.text = cursor.text
  stays : (∀ value, outcome ≠ .matched value) → next = cursor
  advances : ∀ value, outcome = .matched value → primitive ≠ .endOfInput →
    cursor.position < next.position
  ends : ∀ value, outcome = .matched value → primitive = .endOfInput →
    next = cursor ∧ cursor.position = byteLength cursor.text

/-- What a match says of the characters between two places of a cursor. -/
structure Extracts (primitive : Primitive) (cursor next : Cursor) (extract : Extract) : Prop where
  span_eq : extract.span = ⟨cursor.position, next.position⟩
  start_boundary : IsBoundary cursor.text extract.span.start
  stop_boundary : IsBoundary cursor.text extract.span.stop
  stop_le : extract.span.stop ≤ byteLength cursor.text
  text_eq_none_iff : extract.text = none ↔ primitive = .blanks ∨ primitive = .endOfInput
  text_eq_slice : ∀ text, extract.text = some text → (∀ region, primitive ≠ .delimited region) →
    extract.span.text cursor.text = .ok text

theorem Steps.moves {step : Step Extract} (steps : primitive.Steps cursor step) :
    primitive.Moves cursor (step.next cursor) step.outcome := by
  cases steps with
  | still other =>
      exact ⟨rfl, fun _ => rfl, fun value same => absurd same (other value),
        fun value same => absurd same (other value)⟩
  | ends same atEnd =>
      exact ⟨rfl, fun _ => rfl, fun _ _ other => absurd same other,
        fun _ _ _ => ⟨rfl, Cursor.position_of_atEnd atEnd⟩⟩
  | takes positive within yields =>
      refine ⟨Cursor.forward_text _ _, fun other => absurd rfl (other _),
        fun _ _ _ => Cursor.position_lt_forward positive within, fun _ _ same => ?_⟩
      subst same
      exact yields.elim

theorem Moves.map {α β : Type} {next : Cursor} {outcome : Outcome α}
    (moves : primitive.Moves cursor next outcome) (f : α → β) :
    primitive.Moves cursor next (outcome.map f) := by
  obtain ⟨text, stays, advances, ends⟩ := moves
  cases outcome with
  | noMatch => exact ⟨text, fun _ => stays fun _ => nofun, fun _ => nofun, fun _ => nofun⟩
  | failed error => exact ⟨text, fun _ => stays fun _ => nofun, fun _ => nofun, fun _ => nofun⟩
  | matched value =>
      exact ⟨text, fun other => absurd rfl (other _), fun _ _ => advances value rfl,
        fun _ _ => ends value rfl⟩

theorem Steps.extracts {step : Step Extract} {extract : Extract} (steps : primitive.Steps cursor step)
    (matched : step.outcome = .matched extract) :
    primitive.Extracts cursor (step.next cursor) extract := by
  have text := (steps.moves).text_eq
  have start := cursor.isBoundary_position
  have stop := (step.next cursor).isBoundary_position
  have size := (step.next cursor).byteLength_text
  rw [text] at stop size
  cases steps with
  | still other => exact absurd matched (other extract)
  | ends same atEnd =>
      cases matched
      have here : cursor.spanOf 0 = ⟨cursor.position, cursor.position⟩ := by simp [Cursor.spanOf]
      refine ⟨here, start, by rw [here]; exact start, by rw [here]; exact size ▸ Nat.le_add_right _ _,
        by simp [same], fun _ missing => absurd missing (by simp)⟩
  | @takes count _ positive within yields =>
      cases matched
      have there : cursor.spanOf count = ⟨cursor.position, (cursor.forward count).position⟩ := by
        rw [Cursor.forward_position]
        rfl
      refine ⟨there, start, by rw [there]; exact stop, by rw [there]; exact size ▸ Nat.le_add_right _ _,
        ?_, ?_⟩
      · exact yields.eq_none_iff
      · intro taken same plain
        cases yields.eq_textOf same plain
        exact cursor.text_spanOf count

/-- The promises of the built-in matchers and of the recognizers made of them, on inputs whose length fits into
64 bits: counting bytes, none of them faults, and each goes where it goes counting characters. -/
theorem matcher_keeps_promises (primitive : Primitive) (cursor : Cursor)
    (fits : byteLength cursor.text < Position.limit) :
    let step := primitive.matcher cursor
    primitive.bytewise cursor = .ok (step.outcome, step.next cursor) ∧
      primitive.Moves cursor (step.next cursor) step.outcome ∧
      (∀ extract, step.outcome = .matched extract →
        primitive.Extracts cursor (step.next cursor) extract) ∧
      ∀ (τ : Type) (rule : Rule τ), rule.primitive = primitive →
        let recognized := rule.recognizer cursor
        rule.bytewise cursor = .ok (recognized.outcome, recognized.next cursor) ∧
          primitive.Moves cursor (recognized.next cursor) recognized.outcome := by
  intro step
  have steps := primitive.matcher_steps cursor
  refine ⟨primitive.bytewise_eq fits, steps.moves, fun extract => steps.extracts, ?_⟩
  rintro τ rule rfl
  refine ⟨rule.bytewise_eq fits, ?_⟩
  rw [rule.recognizer_eq]
  exact steps.moves.map rule.result

/-- A region with delimiters and a text of several bytes a character, behind a character that was passed. -/
theorem delimited_keeps_promises :
    let region : Primitive := .delimited ⟨'«', '»', some '^'⟩
    let cursor := (Cursor.ofString "é«ç^»a»!").forward 1
    byteLength cursor.text < Position.limit ∧
      region.bytewise cursor = .ok (.matched ⟨some "ç»a", ⟨2, 12⟩⟩, cursor.forward 6) ∧
      region.Extracts cursor (cursor.forward 6) ⟨some "ç»a", ⟨2, 12⟩⟩ := by
  intro region cursor
  have fits : byteLength cursor.text < Position.limit := by decide
  have step : region.matcher cursor = ⟨.matched ⟨some "ç»a", ⟨2, 12⟩⟩, 6⟩ := by
    decide +kernel
  obtain ⟨bytes, -, extracts, -⟩ := matcher_keeps_promises region cursor fits
  rw [step] at bytes extracts
  exact ⟨fits, bytes, extracts _ rfl⟩

end Primitive

end LexKit
