import LexKit.Proofs.Diagnostic.Labels
import LexKit.Proofs.Primitive.Attempt
import LexKit.Proofs.Scan.Course
import LexKit.Token

/-!
# Where errors lie

A scan with built-in rules that fails leaves the cursor just where its error is found, in front of a
character. Every rule before the one that fails declines there, and the error tells why that one does not: a
region opens there and is never closed, or the end of the input was asked for. So the diagnostic of the error
has a character to point at.
-/

namespace LexKit

open Text

/-- What an error says of the matcher that failed and of the place where it did. -/
def ScanError.CausedBy (primitive : Primitive) (cursor : Cursor) : ScanError → Prop
  | .unterminatedDelimiter _ => ∃ region body, primitive = .delimited region ∧
      cursor.rest = region.opening :: body ∧ ∀ index, ¬ region.EndsAt body index
  | .unexpectedTrailingInput _ => primitive = .endOfInput

/-! ## The matcher that fails -/

namespace Primitive

variable {cursor : Cursor} {error : ScanError}

theorem matcher_ne_failed {primitive : Primitive} (other : primitive ≠ .endOfInput)
    (noRegion : ∀ region, primitive ≠ .delimited region) :
    (primitive.matcher cursor).outcome ≠ .failed error := by
  cases primitive with
  | endOfInput => exact absurd rfl other
  | delimited region => exact absurd rfl (noRegion region)
  | blanks =>
      simp only [matcher, blanksMatcher]
      split <;> rintro ⟨⟩
  | literal text =>
      rw [matcher, literalMatcher_eq]
      split <;> rintro ⟨⟩
  | oneOfLiterals texts =>
      rw [matcher, firstLiteral_eq]
      split <;> rintro ⟨⟩
  | pattern compiled =>
      simp only [matcher, Pattern.matcher]
      split <;> rintro ⟨⟩
  | oneCharOf set =>
      simp only [matcher, charMatcher]
      split
      · split <;> rintro ⟨⟩
      · rintro ⟨⟩

theorem endMatcher_failed (fails : (endMatcher cursor).outcome = .failed error) :
    error = .unexpectedTrailingInput cursor.position := by
  unfold endMatcher at fails
  split at fails
  · cases fails
  · exact (Outcome.failed.inj fails).symm

theorem delimitedMatcher_failed {region : Delimiters}
    (fails : (region.matcher cursor).outcome = .failed error) :
    error = .unterminatedDelimiter cursor.position ∧
      ∃ body, cursor.rest = region.opening :: body ∧ ∀ index, ¬ region.EndsAt body index := by
  by_cases opens : cursor.rest.head? = some region.opening
  · obtain ⟨body, rest⟩ := List.head?_eq_some_iff.1 opens
    by_cases closes : ∃ index, region.EndsAt body index
    · obtain ⟨index, ends⟩ := closes
      rw [Delimiters.matcher_of_endsAt rest ends] at fails
      cases fails
    · have never := not_exists.1 closes
      rw [Delimiters.matcher_of_not_endsAt rest never] at fails
      exact ⟨(Outcome.failed.inj fails).symm, body, rest, never⟩
  · rw [Delimiters.matcher_of_head_ne opens] at fails
    cases fails

theorem matcher_failed {primitive : Primitive} (fails : (primitive.matcher cursor).outcome = .failed error) :
    error.position = cursor.position ∧ error.CausedBy primitive cursor := by
  cases primitive with
  | blanks | literal | oneCharOf | oneOfLiterals | pattern =>
      exact absurd fails (matcher_ne_failed nofun nofun)
  | endOfInput =>
      obtain rfl := endMatcher_failed fails
      exact ⟨rfl, rfl⟩
  | delimited region =>
      obtain ⟨rfl, body, rest, never⟩ := delimitedMatcher_failed fails
      exact ⟨rfl, region, body, rfl, rest, never⟩

end Primitive

theorem Rule.recognizer_failed {τ : Type} {rule : Rule τ} {cursor : Cursor} {error : ScanError}
    (fails : (rule.recognizer cursor).outcome = .failed error) :
    (rule.recognizer cursor).next cursor = cursor ∧ error.position = cursor.position ∧
      error.CausedBy rule.primitive cursor := by
  have moves := (rule.primitive.matcher_steps cursor).moves.map rule.result
  rw [rule.recognizer_eq] at fails ⊢
  have stays : ((rule.primitive.matcher cursor).map rule.result).next cursor = cursor :=
    moves.stays fun token matched => nomatch fails.symm.trans matched
  have same : (rule.primitive.matcher cursor).outcome = .failed error := by
    cases outcome : (rule.primitive.matcher cursor).outcome with
    | failed other => simpa [Step.map, Outcome.map, outcome] using fails
    | noMatch | matched => simp [Step.map, Outcome.map, outcome] at fails
  exact ⟨stays, Primitive.matcher_failed same⟩

/-! ## The character at an error -/

theorem ScanError.span_of_position {error : ScanError} {cursor : Cursor}
    (here : error.position = cursor.position) {char : Char} (next : cursor.peek = some char) :
    error.span cursor.text = ⟨error.position, error.position + char.utf8Size⟩ ∧
      (error.span cursor.text).text cursor.text = .ok (String.ofList [char]) := by
  have starts : CharAt cursor.text error.position char := here ▸ Cursor.charAt_position next
  exact ⟨span_of_charAt starts, text_span_of_charAt starts⟩

namespace Tokenizer

variable {τ : Type}

/-- A scan with built-in rules fails at the place of its last attempt. -/
theorem scan_failed {rules : List (Rule τ)} {cursor : Cursor} {error : ScanError}
    (fails : ((ofRules rules).scan cursor).result = .error error) :
    ((ofRules rules).scan cursor).final.atEnd = false ∧
      ∃ before rule after, rules = before ++ rule :: after ∧
        (∀ other ∈ before, Declines ((ofRules rules).scan cursor).final other.recognizer) ∧
        (rule.recognizer ((ofRules rules).scan cursor).final).outcome = .failed error := by
  have ending := Scan.ending_of_result_eq_error fails
  rcases (ofRules rules).scan_ends cursor with ⟨atEnd, -, -⟩ | ⟨moved, inside, halts, final⟩
  · cases ending.symm.trans atEnd
  · rw [ending] at halts
    rcases attempt_ofRules_cases ((ofRules rules).scan cursor).lastStart rules with
      ⟨-, nothing⟩ | ⟨before, rule, after, parts, declines, decides⟩
    · cases halts.symm.trans nothing
    · rw [halts] at decides
      cases decides with
      | fails outcome =>
          have stays := (Rule.recognizer_failed outcome).1
          rw [final.trans stays]
          exact ⟨inside, before, rule, after, parts, declines, outcome⟩

/-- Errors of built-in rules. A scan that fails leaves the cursor where the error is found, between characters of
the input and before its end; the rules before the one that fails decline there, and the error tells why that
one does not. The span of the error, which its diagnostic labels, is the one character there. -/
theorem error_lies_at_character (rules : List (Rule τ)) (cursor : Cursor) {error : ScanError}
    (fails : ((ofRules rules).scan cursor).result = .error error) :
    let place := ((ofRules rules).scan cursor).final
    place.text = cursor.text ∧ place.position = error.position ∧
      IsBoundary cursor.text error.position ∧ error.position < byteLength cursor.text ∧
    (∃ before rule after, rules = before ++ rule :: after ∧
      (∀ other ∈ before, Declines place other.recognizer) ∧
      (rule.recognizer place).outcome = .failed error ∧ error.CausedBy rule.primitive place) ∧
    ∃ char, place.peek = some char ∧
      error.span cursor.text = ⟨error.position, error.position + char.utf8Size⟩ ∧
      (error.span cursor.text).text cursor.text = .ok (String.ofList [char]) ∧
      (error.diagnostic cursor.text).label.span = error.span cursor.text := by
  intro place
  obtain ⟨inside, before, rule, after, parts, declines, outcome⟩ := scan_failed fails
  obtain ⟨-, here, cause⟩ := Rule.recognizer_failed outcome
  have text : place.text = cursor.text := scan_final_text _ cursor
  have boundary := place.isBoundary_position
  have before_end := Cursor.position_lt_of_inside inside
  obtain ⟨char, rest, opens⟩ : ∃ char rest, place.rest = char :: rest :=
    List.exists_cons_of_ne_nil fun nothing => by simp [Cursor.atEnd, place, nothing] at inside
  have next : place.peek = some char := by rw [Cursor.peek, opens, List.head?_cons]
  obtain ⟨span, covers⟩ := ScanError.span_of_position here next
  rw [text] at boundary before_end span covers
  rw [← here] at boundary before_end
  exact ⟨text, here.symm, boundary, before_end, ⟨before, rule, after, parts, declines, outcome, cause⟩,
    char, next, span, covers, rfl⟩

/-- A region of which the closing character is escaped, behind a word and a blank. -/
theorem error_lies_at_character_unterminated :
    let rules : List (Rule (Token Nat)) := [.skip .blanks, .emit (.literal "ça") (Token.ofKind 0),
      .emit (.delimited ⟨'«', '»', some '^'⟩) (Token.ofKind 1), .skip .endOfInput]
    let cursor := (Cursor.ofString "éça «^»").forward 1
    let scan := (ofRules rules).scan cursor
    let error : ScanError := .unterminatedDelimiter 6
    scan.result = .error error ∧ scan.final.position = 6 ∧
      (error.diagnostic cursor.text).label.span = ⟨6, 8⟩ ∧
      (error.span cursor.text).text cursor.text = .ok "«" := by
  intro rules cursor scan error
  have fails : scan.result = .error error := by decide +kernel
  have next : scan.final.peek = some '«' := by decide +kernel
  obtain ⟨-, position, -, -, -, char, here, span, covers, labels⟩ :=
    error_lies_at_character rules cursor fails
  obtain rfl : char = '«' := Option.some.inj (here.symm.trans next)
  exact ⟨fails, position, labels.trans span, covers⟩

end Tokenizer

end LexKit
