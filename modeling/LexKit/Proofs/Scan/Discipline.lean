import LexKit.Proofs.Primitive.Contract
import LexKit.Proofs.Scan.Course

/-!
# Recognizers that keep the rules

A recognizer that does not match has to stay where it is, and one that matches has to move while there is
input left. All recognizers made of built-in matchers do so. A scan with such recognizers never strays or
stalls: it takes all input, or stops where all of them decline, or fails, and unless it fails it leaves the
cursor behind the last piece that it accepted.
-/

namespace LexKit.Tokenizer

variable {τ : Type} {tokenizer : Tokenizer τ} {cursor : Cursor} {recognizers : List (Recognizer τ)}

/-- Without a match a recognizer stays where it is, and with one it moves, unless the input ends there. -/
def KeepsRules (recognizer : Recognizer τ) : Prop :=
  ∀ cursor,
    ((recognizer cursor).outcome = .noMatch →
      ((recognizer cursor).next cursor).position = cursor.position) ∧
    ∀ token, (recognizer cursor).outcome = .matched token → cursor.atEnd = false →
      ((recognizer cursor).next cursor).position ≠ cursor.position

theorem keepsRules_of_rule (rule : Rule τ) : KeepsRules rule.recognizer := by
  intro cursor
  have steps := (rule.primitive.matcher_steps cursor).moves
  have moves := steps.map rule.result
  rw [rule.recognizer_eq]
  constructor
  · intro outcome
    have stays := moves.stays fun token same => nomatch outcome.symm.trans same
    exact congrArg Cursor.position stays
  · intro token outcome inside
    by_cases check : rule.primitive = .endOfInput
    · have atEnd := (moves.ends token outcome check).2
      have before := Cursor.position_lt_of_inside inside
      omega
    · have later := moves.advances token outcome check
      exact Nat.ne_of_gt later

theorem keepsRules_of_mem_ofRules {rules : List (Rule τ)} (recognizer : Recognizer τ)
    (member : recognizer ∈ (ofRules rules).recognizers) : KeepsRules recognizer := by
  obtain ⟨rule, -, rfl⟩ := List.mem_map.1 member
  exact keepsRules_of_rule rule

/-- Recognizers that keep the rules halt only where all of them decline or one of them fails. -/
theorem attempt_halted_of_keepsRules {ending : Ending} {moved : Nat}
    (keeps : ∀ recognizer ∈ recognizers, KeepsRules recognizer) (inside : cursor.atEnd = false)
    (halts : attempt cursor recognizers = .halted ending moved) :
    (ending = .nothingApplies ∧ moved = 0) ∨ ∃ error, ending = .failed error := by
  rcases attempt_cases cursor recognizers with ⟨-, result⟩ | ⟨before, recognizer, after, rfl, -, decides⟩
  · rw [halts] at result
    cases result
    exact .inl ⟨rfl, rfl⟩
  · have rules := keeps recognizer (by simp) cursor
    rw [halts] at decides
    cases decides with
    | strays outcome moves => exact absurd (rules.1 outcome) moves
    | stalls outcome still => exact absurd still (rules.2 _ outcome inside)
    | fails outcome => exact .inr ⟨_, rfl⟩

theorem scan_ending_of_keepsRules (keeps : ∀ recognizer ∈ tokenizer.recognizers, KeepsRules recognizer)
    (cursor : Cursor) :
    (tokenizer.scan cursor).ending = .atEnd ∨ (tokenizer.scan cursor).ending = .nothingApplies ∨
      ∃ error, (tokenizer.scan cursor).ending = .failed error := by
  rcases tokenizer.scan_ends cursor with ⟨ending, -, -⟩ | ⟨moved, inside, halts, -⟩
  · exact .inl ending
  · rcases attempt_halted_of_keepsRules keeps inside halts with ⟨ending, -⟩ | failed
    · exact .inr (.inl ending)
    · exact .inr (.inr failed)

theorem scan_final_of_keepsRules (keeps : ∀ recognizer ∈ tokenizer.recognizers, KeepsRules recognizer)
    {tokens : List τ} (succeeds : (tokenizer.scan cursor).result = .ok tokens) :
    (tokenizer.scan cursor).final = (tokenizer.scan cursor).lastStart := by
  have ends := tokenizer.scan_endsAs cursor
  rcases scan_ending_of_keepsRules keeps cursor with ending | ending | ⟨error, ending⟩
  · rw [ending] at ends
    exact ends.2
  · rw [ending] at ends
    exact ends.2
  · exact absurd ending ((Scan.of_result_eq_ok succeeds).2 error)

end LexKit.Tokenizer
