import LexKit.Proofs.Primitive.Contract
import LexKit.Proofs.Regex.Runs
import LexKit.Proofs.Scan.Steps

/-!
# Built-in matchers in an attempt

What each built-in matcher answers is decided by the next character and what comes behind it. In an attempt
the rule made of it then decides, or is passed over in favour of the rules behind it.
-/

namespace LexKit

/-! ## Matchers at a character -/

namespace Primitive

variable {cursor : Cursor} {char : Char} {rest : List Char}

theorem blanksMatcher_cons (opens : cursor.rest = char :: rest) :
    blanksMatcher cursor =
      if Unicode.isBlank char then cursor.take (1 + (rest.takeWhile Unicode.isBlank).length) none
      else .still .noMatch := by
  unfold blanksMatcher
  rw [opens]
  by_cases blank : Unicode.isBlank char = true
  · rw [List.takeWhile_cons_of_pos blank, if_pos blank, List.length_cons, Nat.add_comm]
    simp
  · rw [List.takeWhile_cons_of_neg blank, if_neg blank]
    rfl

theorem charMatcher_cons (set : String) (opens : cursor.rest = char :: rest) :
    charMatcher set cursor =
      if char ∈ set.toList then cursor.takeText 1 else .still .noMatch := by
  simp only [charMatcher, Cursor.peek, opens, List.head?_cons, List.contains_eq_mem,
    decide_eq_true_eq]

theorem firstLiteral_eq (texts : List String) (cursor : Cursor) :
    firstLiteral texts cursor =
      match texts.find? fun text => text.toList ≠ [] ∧ text.toList <+: cursor.rest with
      | some text => cursor.takeText text.toList.length
      | none => .still .noMatch := by
  induction texts with
  | nil => rfl
  | cons text texts ih =>
      by_cases applies : text.toList ≠ [] ∧ text.toList <+: cursor.rest
      · rw [List.find?_cons_of_pos (by simpa using applies)]
        simp only [firstLiteral, literalMatcher_eq, if_pos applies]
        rfl
      · rw [List.find?_cons_of_neg (by simpa using applies), ← ih]
        simp only [firstLiteral, literalMatcher_eq, if_neg applies]
        rfl

end Primitive

theorem Pattern.matcher_cons_of_takesRun {pattern : Pattern} {first members : Regex.CharClass}
    (run : pattern.automaton.TakesRun first members) {cursor : Cursor} {char : Char} {rest : List Char}
    (opens : cursor.rest = char :: rest) :
    pattern.matcher cursor =
      if first.mem char then cursor.takeText (1 + (rest.takeWhile members.mem).length)
      else .still .noMatch := by
  unfold matcher
  rw [opens, reach?_cons_of_takesRun run]
  by_cases member : first.mem char = true
  · simp only [if_pos member]
  · simp only [if_neg member]

theorem Delimiters.matcher_cons (delimiters : Delimiters) {cursor : Cursor} {char : Char}
    {body : List Char} (opens : cursor.rest = char :: body) :
    delimiters.matcher cursor =
      if char = delimiters.opening then
        match delimiters.readFrom body [] 1 with
        | some (text, count) => cursor.take count (some (String.ofList text))
        | none => .still (.failed (.unterminatedDelimiter cursor.position))
      else .still .noMatch := by
  cases cursor with
  | mk passed rest position h =>
      obtain rfl : rest = char :: body := opens
      rfl

/-- A built-in matcher that takes characters takes at least one, and no more than there are. -/
theorem Primitive.take_bounds {primitive : Primitive} {cursor : Cursor} {count : Nat}
    {text : Option String} (takes : primitive.matcher cursor = cursor.take count text)
    (other : primitive ≠ .endOfInput) : 0 < count ∧ count ≤ cursor.rest.length := by
  have steps := primitive.matcher_steps cursor
  generalize primitive.matcher cursor = step at takes steps
  cases steps with
  | still none =>
      cases takes
      exact absurd rfl (none _)
  | ends same => exact absurd same other
  | takes positive within =>
      have same : _ = count := congrArg Step.moved takes
      subst same
      exact ⟨positive, within⟩

/-! ## Rules in an attempt -/

namespace Tokenizer

variable {τ : Type} {cursor : Cursor} {text : Option String} {count : Nat} (rule : Rule τ)

/-- All that an attempt of rules can come to: all of them decline, or the first that does not decides. -/
theorem attempt_ofRules_cases (cursor : Cursor) (rules : List (Rule τ)) :
    ((∀ rule ∈ rules, Declines cursor rule.recognizer) ∧
      attempt cursor (ofRules rules).recognizers = .halted .nothingApplies 0) ∨
    ∃ before rule after, rules = before ++ rule :: after ∧
      (∀ other ∈ before, Declines cursor other.recognizer) ∧
      Decides cursor rule.recognizer (attempt cursor (ofRules rules).recognizers) := by
  rcases attempt_cases cursor (ofRules rules).recognizers with
    ⟨all, nothing⟩ | ⟨front, recognizer, back, parts, all, decides⟩
  · exact .inl ⟨fun rule member => all _ (List.mem_map_of_mem member), nothing⟩
  · obtain ⟨before, more, rfl, rfl, rest⟩ := List.map_eq_append_iff.1 parts
    obtain ⟨rule, after, rfl, rfl, rfl⟩ := List.map_eq_cons_iff.1 rest
    refine .inr ⟨before, rule, after, rfl, fun other member => ?_, decides⟩
    exact all _ (List.mem_map_of_mem member)

theorem attempt_of_noMatch (declines : rule.primitive.matcher cursor = .still .noMatch)
    (later : List (Recognizer τ)) :
    attempt cursor (rule.recognizer :: later) = attempt cursor later := by
  have step : rule.recognizer cursor = .still .noMatch := by
    rw [rule.recognizer_eq, declines]
    rfl
  have passes : Declines cursor rule.recognizer := by
    rw [Declines, step]
    exact ⟨rfl, rfl⟩
  exact attempt_cons_of_declines passes later

theorem attempt_of_take (takes : rule.primitive.matcher cursor = cursor.take count text)
    (other : rule.primitive ≠ .endOfInput) (later : List (Recognizer τ)) :
    attempt cursor (rule.recognizer :: later) =
      .accepted (rule.result ⟨text, cursor.spanOf count⟩) count := by
  obtain ⟨positive, within⟩ := Primitive.take_bounds takes other
  have moves := Cursor.position_lt_forward positive within
  have step : rule.recognizer cursor =
      ⟨.matched (rule.result ⟨text, cursor.spanOf count⟩), count⟩ := by
    rw [rule.recognizer_eq, takes]
    rfl
  have decides : Decides cursor rule.recognizer
      (.accepted (rule.result ⟨text, cursor.spanOf count⟩) (rule.recognizer cursor).moved) := by
    refine .accepts ?_ ?_
    · rw [step]
    · rw [step]
      exact Nat.ne_of_gt moves
  rw [attempt_cons_of_decides decides, step]

/-- A rule whose matcher takes characters under a condition decides under that condition. -/
theorem attempt_of_ite {applies : Prop} [Decidable applies]
    (step : rule.primitive.matcher cursor = if applies then cursor.take count text else .still .noMatch)
    (other : rule.primitive ≠ .endOfInput) (later : List (Recognizer τ)) :
    attempt cursor (rule.recognizer :: later) =
      if applies then .accepted (rule.result ⟨text, cursor.spanOf count⟩) count
      else attempt cursor later := by
  by_cases holds : applies
  · rw [if_pos holds] at step ⊢
    exact attempt_of_take rule step other later
  · rw [if_neg holds] at step ⊢
    exact attempt_of_noMatch rule step later

theorem attempt_of_failed {error : ScanError}
    (fails : rule.primitive.matcher cursor = .still (.failed error)) (later : List (Recognizer τ)) :
    attempt cursor (rule.recognizer :: later) = .halted (.failed error) 0 := by
  have step : rule.recognizer cursor = .still (.failed error) := by
    rw [rule.recognizer_eq, fails]
    rfl
  have decides : Decides cursor rule.recognizer
      (.halted (.failed error) (rule.recognizer cursor).moved) := by
    refine .fails ?_
    rw [step]
    rfl
  rw [attempt_cons_of_decides decides, step]
  rfl

end Tokenizer

end LexKit
