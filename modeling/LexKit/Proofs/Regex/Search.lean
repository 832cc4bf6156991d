import LexKit.Regex.Search

/-!
# Where matches lie

One place of a search at a time: the attempt that begins there joins the front, the threads move over the
next character, and the earliest thread that accepts gives a match. A match that a search finds ends inside
the text, whatever the automaton.
-/

namespace LexKit.Regex

/-- The match of an attempt that accepts at a place, or an earlier one. -/
def Match.latest (accepted : Option Nat) (index : Nat) (found : Option Match) : Option Match :=
  match accepted with
  | some start => some ⟨start, index⟩
  | none => found

namespace Automaton

variable {automaton : Automaton}

def begun (automaton : Automaton) (before after : Option Char) (index : Nat) (front : Front)
    (found : Option Match) : Front :=
  if found.isNone && (index == 0 || !automaton.anchored) then
    automaton.enter before after ⟨automaton.start, index⟩ front
  else front

/-- The front behind a character, and where the attempt that accepts before it began. -/
def pass (automaton : Automaton) (char after : Option Char) (front : Front) : Front × Option Nat :=
  automaton.advance char after front.leave.1 front.leave.2

theorem searchFrom_nil (before : Option Char) (index : Nat) (front : Front) (found : Option Match) :
    automaton.searchFrom [] before index front found =
      Match.latest (automaton.pass none none (automaton.begun before none index front found)).2
        index found := rfl

theorem searchFrom_cons (char : Char) (rest : List Char) (before : Option Char) (index : Nat)
    (front : Front) (found : Option Match) :
    automaton.searchFrom (char :: rest) before index front found =
      let passed := automaton.pass (some char) rest.head?
        (automaton.begun before (some char) index front found)
      let found := Match.latest passed.2 index found
      if passed.1.threads.isEmpty && (found.isSome || automaton.anchored) then found
      else automaton.searchFrom rest (some char) (index + 1) passed.1 found := rfl

theorem stop_le_of_latest (accepted : Option Nat) {index : Nat} {found : Option Match} {result : Match}
    (earlier : ∀ past, found = some past → past.stop ≤ index)
    (finds : Match.latest accepted index found = some result) : result.stop ≤ index := by
  unfold Match.latest at finds
  split at finds
  · cases finds
    exact Nat.le_refl index
  · exact earlier result finds

/-- A search that goes on from a place finds no match beyond the end of the text. -/
theorem searchFrom_stop_le {rest : List Char} {before : Option Char} {index : Nat} {front : Front}
    {found : Option Match} {result : Match} (earlier : ∀ past, found = some past → past.stop ≤ index)
    (finds : automaton.searchFrom rest before index front found = some result) :
    result.stop ≤ index + rest.length := by
  induction rest generalizing before index front found with
  | nil =>
      rw [searchFrom_nil] at finds
      exact stop_le_of_latest _ earlier finds
  | cons char rest ih =>
      rw [searchFrom_cons] at finds
      have latest (past : Match) : Match.latest (automaton.pass (some char) rest.head?
          (automaton.begun before (some char) index front found)).2 index found = some past →
          past.stop ≤ index := stop_le_of_latest _ earlier
      simp only at finds
      split at finds
      · have := latest result finds
        omega
      · have := ih (fun past kept => Nat.le_succ_of_le (latest past kept)) finds
        rw [List.length_cons]
        omega

theorem search_stop_le {text : List Char} {result : Match} (finds : automaton.search text = some result) :
    result.stop ≤ text.length := by
  simpa using searchFrom_stop_le (by simp) finds

end Automaton

end LexKit.Regex
