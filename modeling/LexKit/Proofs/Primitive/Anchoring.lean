import LexKit.Proofs.Regex.Advancing
import LexKit.Proofs.Regex.Preference
import LexKit.Proofs.Regex.Wrapping

/-!
# Anchored patterns

Where the start of the text that is put in front of a pattern governs all of it, a match begins at the cursor, and the
search comes down to one attempt of the pattern there. It governs all of it whenever the pattern can be read by itself.
A text that closes the group around it escapes: behind the parenthesis it goes on beside the start of the text, and a
match that begins later takes everything from the cursor on.

Not every text that can be read by itself makes a pattern: a comment at its end takes in the parenthesis that is put
behind it.
-/

namespace LexKit.Pattern

open Regex

variable {text : String} {pattern : Pattern} {own : Part}

theorem ofString_eq_ok_iff :
    ofString text = .ok pattern ↔
      ∃ whole, Reader.read? (anchor text.toList) = some whole ∧ whole.depth ≤ Reader.depthLimit ∧
        whole.node.isTooLarge = false ∧
        ⟨String.ofList (anchor text.toList), Automaton.ofNode whole.node⟩ = pattern := by
  unfold ofString compile
  cases reads : Reader.read? (anchor text.toList) with
  | none => simp [reads]
  | some whole =>
      by_cases deep : Reader.depthLimit < whole.depth
      · simp [reads, deep, Nat.not_le.2 deep]
      · by_cases large : whole.node.isTooLarge = true
        · simp [reads, deep, large]
        · simp [reads, deep, large, Nat.not_lt.1 deep]

theorem ofString_eq_ofValid (valid : (ofString text).toOption.isSome) :
    ofString text = .ok (ofValid text valid) := by
  unfold ofValid
  generalize ofString text = result at valid ⊢
  cases result with
  | error => cases valid
  | ok pattern => rfl

theorem automaton_of_ofString (accepted : ofString text = .ok pattern)
    (alone : Reader.read? text.toList = some own) : pattern.automaton = (Automaton.ofNode own.node).tie := by
  obtain ⟨whole, wrapped, -, -, rfl⟩ := ofString_eq_ok_iff.1 accepted
  exact Reader.ofNode_anchor alone wrapped

theorem search_of_ofString (accepted : ofString text = .ok pattern)
    (alone : Reader.read? text.toList = some own) (rest : List Char) :
    pattern.automaton.search rest = (own.node.attempt rest).map fun count => ⟨0, count⟩ := by
  rw [automaton_of_ofString accepted alone, Automaton.search_of_anchored (Automaton.anchored_tie _),
    Automaton.attempt_tie, Automaton.attempt_ofNode]

theorem matcher_of_ofString (accepted : ofString text = .ok pattern)
    (alone : Reader.read? text.toList = some own) (cursor : Cursor) :
    pattern.matcher cursor =
      match own.node.attempt cursor.rest with
      | none | some 0 => .still .noMatch
      | some count => cursor.takeText count := by
  unfold matcher reach?
  rw [search_of_ofString accepted alone]
  cases own.node.attempt cursor.rest with
  | none => rfl
  | some count => cases count <;> rfl

/-- The pattern of a text that can be read by itself finds matches only where the cursor stands, and takes exactly the
text of the match. -/
theorem match_begins_at_cursor (accepted : ofString text = .ok pattern)
    (alone : Reader.read? text.toList = some own) (cursor : Cursor) :
    (∀ found, pattern.automaton.search cursor.rest = some found → found.start = 0) ∧
      ∀ extract, (pattern.matcher cursor).outcome = .matched extract →
        ∃ count, pattern.automaton.search cursor.rest = some ⟨0, count⟩ ∧
          pattern.matcher cursor = cursor.takeText count := by
  have finds := search_of_ofString accepted alone cursor.rest
  constructor
  · intro found finds'
    rw [finds', eq_comm, Option.map_eq_some_iff] at finds
    obtain ⟨count, -, rfl⟩ := finds
    rfl
  · intro extract taken
    rw [matcher_of_ofString accepted alone] at taken ⊢
    rw [finds]
    cases attempt : own.node.attempt cursor.rest with
    | none => simp [attempt, Step.still] at taken
    | some count =>
        cases count with
        | zero => simp [attempt, Step.still] at taken
        | succ count => exact ⟨count + 1, rfl, rfl⟩

theorem match_begins_at_cursor_alternatives :
    let pattern := ofValid "b|ab" (by decide +kernel)
    let cursor := (Cursor.ofString "éabb").forward 1
    (pattern.matcher cursor).outcome = .matched ⟨some "ab", ⟨2, 4⟩⟩ ∧
      pattern.automaton.search cursor.rest = some ⟨0, 2⟩ := by
  intro pattern cursor
  have readable : (Reader.read? "b|ab".toList).isSome = true := by decide +kernel
  obtain ⟨own, alone⟩ := Option.isSome_iff_exists.1 readable
  have takes : (pattern.matcher cursor).outcome = .matched ⟨some "ab", ⟨2, 4⟩⟩ := by decide +kernel
  have passes : (pattern.matcher cursor).moved = 2 := by decide +kernel
  have accepted : ofString "b|ab" = .ok pattern := ofString_eq_ofValid _
  obtain ⟨count, finds, takes'⟩ := (match_begins_at_cursor accepted alone cursor).2 _ takes
  have moved : (pattern.matcher cursor).moved = count := congrArg Step.moved takes'
  refine ⟨takes, finds.trans ?_⟩
  rw [← moved, passes]

/-- A text that closes the group around it takes characters in front of its match. -/
theorem match_begins_behind_cursor :
    let pattern := ofValid "a)|(?:b" (by decide +kernel)
    let cursor := Cursor.ofString "cb"
    pattern.automaton.search cursor.rest = some ⟨1, 2⟩ ∧
      (pattern.matcher cursor).outcome = .matched ⟨some "cb", ⟨0, 2⟩⟩ := by
  decide +kernel

/-! ## Which texts make a pattern -/

/-- A text that can be read by itself makes a pattern unless its last line ends in a comment, as far as the bounds on
nesting and size allow: it stands two deeper than by itself, and the start of the text is matched too. -/
theorem exists_ofString_iff (alone : Reader.read? text.toList = some own) :
    (∃ pattern, ofString text = .ok pattern) ↔
      ¬ Reader.EndsInComment text.toList ∧ own.depth + 2 ≤ Reader.depthLimit ∧
        (Node.seq (.look .textStart) own.node).isTooLarge = false := by
  simp only [ofString_eq_ok_iff]
  rcases Reader.read?_anchor alone with ⟨shown, reads⟩ | ⟨ends, unread⟩
  · constructor
    · rintro ⟨pattern, whole, wrapped, shallow, small, -⟩
      obtain rfl := Option.some.inj (reads.symm.trans wrapped)
      exact ⟨shown, shallow, small⟩
    · rintro ⟨-, shallow, small⟩
      exact ⟨_, _, reads, shallow, small, rfl⟩
  · constructor
    · rintro ⟨pattern, whole, wrapped, -⟩
      cases unread.symm.trans wrapped
    · rintro ⟨shown, -⟩
      exact absurd ends shown

/-- The mark behind the backslash is a letter, and the line that has a comment comes to its end. -/
theorem exists_ofString_iff_mark :
    let text := "(?x)[ab] # letters\n \\#+"
    (Reader.read? text.toList).isSome ∧ ∃ pattern, ofString text = .ok pattern := by
  intro text
  have readable : (Reader.read? text.toList).isSome = true := by decide +kernel
  obtain ⟨own, alone⟩ := Option.isSome_iff_exists.1 readable
  have small : (Reader.read? text.toList).all fun own =>
      own.depth + 2 ≤ Reader.depthLimit ∧ (Node.seq (.look .textStart) own.node).isTooLarge = false := by
    decide +kernel
  have shown : Reader.read? (text.toList ++ [')']) = none := by decide +kernel
  rw [alone, Option.all_some, decide_eq_true_iff] at small
  refine ⟨readable, (exists_ofString_iff alone).2 ⟨fun ends => ?_, small⟩⟩
  rw [ends.read?_parenthesis alone] at shown
  cases shown

/-- The comment takes in the parenthesis that is put behind the text, and the group around it is left open. -/
theorem ofString_of_comment :
    let text := "(?x)a # c"
    (compile text.toList).toOption.isSome ∧ ofString text = .error .malformed := by
  decide +kernel

end LexKit.Pattern
