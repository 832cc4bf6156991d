import LexKit.Proofs.Scan.Append
import LexKit.Proofs.Scan.Discipline
import LexKit.Proofs.Scan.Errors

/-!
# Scanning again

A scan with built-in rules leaves the cursor where another scan has nothing to do. Either the input is used up, or
all rules decline there, or one of them fails there; a second scan meets the same answers and stops at once, with
no tokens or with the same error. Rules that break their promises would not allow this: one that strays leaves
the cursor at a place that no rule was asked about.
-/

namespace LexKit

theorem Rule.recognizer_of_declines {τ : Type} {rule : Rule τ} {cursor : Cursor}
    (declines : Tokenizer.Declines cursor rule.recognizer) : rule.recognizer cursor = .still .noMatch := by
  have steps := rule.primitive.matcher_steps cursor
  have none := declines.1
  rw [rule.recognizer_eq] at none ⊢
  generalize rule.primitive.matcher cursor = step at steps none
  cases steps with
  | @still outcome other =>
      cases outcome with
      | noMatch => rfl
      | matched extract => exact absurd rfl (other extract)
      | failed error => cases none
  | ends => cases none
  | takes => cases none

namespace Tokenizer

variable {τ : Type} {rules : List (Rule τ)} {cursor : Cursor}

/-! ## Where a scan stops -/

/-- A scan that gives tokens used the input up, or stopped where all rules decline. -/
theorem scan_stops_of_ok {tokens : List τ} (succeeds : ((ofRules rules).scan cursor).result = .ok tokens) :
    ((ofRules rules).scan cursor).final.atEnd = true ∨
      ((ofRules rules).scan cursor).final.atEnd = false ∧
      attempt ((ofRules rules).scan cursor).final (ofRules rules).recognizers =
        .halted .nothingApplies 0 := by
  rcases scan_ending_of_keepsRules keepsRules_of_mem_ofRules cursor with ending | ending | ⟨error, ending⟩
  · have ends := (ofRules rules).scan_endsAs cursor
    rw [ending] at ends
    rw [ends.2]
    exact .inl ends.1
  · exact .inr (attempt_final_of_nothingApplies ending).2
  · exact absurd ending ((Scan.of_result_eq_ok succeeds).2 error)

/-- A scan that fails stopped where the rules in their order come to the error without a move. -/
theorem attempt_final_of_failed {error : ScanError}
    (fails : ((ofRules rules).scan cursor).result = .error error) :
    ∃ moved, attempt ((ofRules rules).scan cursor).final (ofRules rules).recognizers =
        .halted (.failed error) moved ∧
      ((ofRules rules).scan cursor).final.forward moved = ((ofRules rules).scan cursor).final := by
  obtain ⟨-, before, rule, after, parts, declines, outcome⟩ := scan_failed fails
  generalize ((ofRules rules).scan cursor).final = place at declines outcome
  refine ⟨(rule.recognizer place).moved, ?_, (Rule.recognizer_failed outcome).1⟩
  have passed : ∀ recognizer ∈ before.map Rule.recognizer, Declines place recognizer := by
    intro recognizer member
    obtain ⟨other, earlier, rfl⟩ := List.mem_map.1 member
    exact declines other earlier
  rw [ofRules, parts, List.map_append, attempt_append_of_declines passed, List.map_cons]
  exact attempt_cons_of_decides (.fails outcome) _

/-! ## The scan from there -/

theorem scan_of_nothingApplies (inside : cursor.atEnd = false)
    (nothing : attempt cursor (ofRules rules).recognizers = .halted .nothingApplies 0) :
    ((ofRules rules).scan cursor).result = .ok [] ∧ ((ofRules rules).scan cursor).final = cursor := by
  rw [scan_of_halted inside nothing]
  exact ⟨rfl, rfl⟩

/-- A scan with built-in rules leaves the cursor at a place from which another scan does not move. If it gave
tokens, the input is used up or every rule answers that nothing matches, and the second scan gives no tokens; if
it failed, the second scan fails with the same error. -/
theorem scan_again_stays (rules : List (Rule τ)) (cursor : Cursor) :
    let scan := (ofRules rules).scan cursor
    let again := (ofRules rules).scan scan.final
    (∀ tokens, scan.result = .ok tokens →
      (scan.final.atEnd = true ∨ ∀ rule ∈ rules, rule.recognizer scan.final = .still .noMatch) ∧
        again.result = .ok [] ∧ again.final = scan.final) ∧
    ∀ error, scan.result = .error error → again.result = .error error ∧ again.final = scan.final := by
  intro scan again
  constructor
  · intro tokens succeeds
    rcases scan_stops_of_ok succeeds with atEnd | ⟨inside, nothing⟩
    · have ends : again = ⟨[], .atEnd, scan.final, scan.final⟩ := scan_of_atEnd atEnd
      rw [ends]
      exact ⟨.inl atEnd, rfl, rfl⟩
    · refine ⟨.inr fun rule member => ?_, scan_of_nothingApplies inside nothing⟩
      have declines := (declines_of_nothingApplies nothing).2 _ (List.mem_map_of_mem member)
      exact Rule.recognizer_of_declines declines
  · intro error fails
    have inside := (scan_failed fails).1
    obtain ⟨moved, halts, stays⟩ := attempt_final_of_failed fails
    have stops : again = ⟨[], .failed error, scan.final, scan.final.forward moved⟩ :=
      scan_of_halted inside halts
    rw [stops]
    exact ⟨rfl, stays⟩

/-- Behind a character that was passed before: rules that may match the empty text leave a mark that none of them
takes, and a region that is never closed fails twice. -/
theorem scan_again_stays_empty_matches :
    let digits := Pattern.ofValid "[0-9]*" (by decide +kernel)
    let rules : List (Rule (Token Nat)) := [.emit (.literal "") (Token.ofKind 0),
      .emit (.pattern digits) (Token.ofKind 1), .emit (.delimited ⟨'«', '»', none⟩) (Token.ofKind 2)]
    let stops := (ofRules rules).scan ((Cursor.ofString "é12«a»3!").forward 1)
    let fails := (ofRules rules).scan ((Cursor.ofString "é12«a").forward 1)
    stops.result = .ok [⟨1, "12", ⟨2, 4⟩⟩, ⟨2, "a", ⟨4, 9⟩⟩, ⟨1, "3", ⟨9, 10⟩⟩] ∧
      ((ofRules rules).scan stops.final).result = .ok [] ∧
      fails.result = .error (.unterminatedDelimiter 4) ∧
      ((ofRules rules).scan fails.final).result = .error (.unterminatedDelimiter 4) := by
  intro digits rules stops fails
  have succeeds : stops.result =
      .ok [⟨1, "12", ⟨2, 4⟩⟩, ⟨2, "a", ⟨4, 9⟩⟩, ⟨1, "3", ⟨9, 10⟩⟩] := by decide +kernel
  have failed : fails.result = .error (.unterminatedDelimiter 4) := by decide +kernel
  obtain ⟨-, nothing, -⟩ := (scan_again_stays rules _).1 _ succeeds
  obtain ⟨same, -⟩ := (scan_again_stays rules _).2 _ failed
  exact ⟨succeeds, nothing, failed, same⟩

end Tokenizer

end LexKit
