import LexKit.Proofs.Regex.Leftmost

/-!
# Tying an automaton to the start of the text

Put behind the start of the text, a tree gets the automaton that it has by itself, and in front of that one more
state, which looks for the start. An attempt at the start of the text passes the new state and from there on is the
attempt of the old automaton: no way leads through the new state a second time, since behind a character it fails,
and before the first one it has been passed.
-/

namespace LexKit.Regex

namespace Automaton

/-- An automaton behind a state that looks for the start of the text. -/
def tie (automaton : Automaton) : Automaton :=
  ⟨automaton.states.push (.look .textStart automaton.start), automaton.states.size⟩

theorem ofNode_tied (node : Node) : ofNode (.seq (.look .textStart) node) = (ofNode node).tie := rfl

theorem tie_states_start (automaton : Automaton) :
    automaton.tie.states[automaton.tie.start]? = some (.look .textStart automaton.start) := by
  simp [tie]

theorem anchored_tie (automaton : Automaton) : automaton.tie.anchored = true := by
  rw [anchored, tie_states_start]

variable {automaton : Automaton} {before : Option Char} {rest : List Char} {trail tied : List Nat} {state : Nat}
  {found : State}

theorem tie_states_of_ne (other : state ≠ automaton.tie.start) :
    automaton.tie.states[state]? = automaton.states[state]? := by
  rw [tie, Array.getElem?_push]
  exact if_neg other

theorem ne_tie_start (present : automaton.states[state]? = some found) : state ≠ automaton.tie.start := by
  obtain ⟨inside, -⟩ := Array.getElem?_eq_some_iff.1 present
  exact Nat.ne_of_lt inside

theorem tie_states_of_present (present : automaton.states[state]? = some found) :
    automaton.tie.states[state]? = some found := by
  rw [tie_states_of_ne (ne_tie_start present), present]

/-- A trail through the automaton behind the new state, and the same trail without it: the new state has been
passed, or a character has. -/
structure Behind (automaton : Automaton) (before : Option Char) (trail tied : List Nat) : Prop where
  closed : automaton.tie.start ∈ tied ∨ before.isSome = true
  same : ∀ state, state ≠ automaton.tie.start → (state ∈ tied ↔ state ∈ trail)

namespace Behind

theorem of_start (automaton : Automaton) (before : Option Char) :
    automaton.Behind before [] [automaton.tie.start] :=
  ⟨.inl List.mem_cons_self, fun state other => by simp [other]⟩

theorem of_char (automaton : Automaton) (char : Char) : automaton.Behind (some char) [] [] :=
  ⟨.inr rfl, fun _ _ => Iff.rfl⟩

theorem cons (behind : automaton.Behind before trail tied) (state : Nat) :
    automaton.Behind before (state :: trail) (state :: tied) := by
  refine ⟨behind.closed.imp_left (List.mem_cons_of_mem state), fun other front => ?_⟩
  rw [List.mem_cons, List.mem_cons, behind.same other front]

theorem not_mem (behind : automaton.Behind before trail tied) (present : automaton.states[state]? = some found)
    (new : state ∉ trail) : state ∉ tied := by
  rwa [behind.same state (ne_tie_start present)]

theorem backtrack_start (behind : automaton.Behind before trail tied) :
    automaton.tie.backtrack before rest tied automaton.tie.start = none := by
  by_cases passed : automaton.tie.start ∈ tied
  · exact backtrack_of_mem passed
  · obtain ⟨char, rfl⟩ := Option.isSome_iff_exists.1 (behind.closed.resolve_left passed)
    rw [backtrack_of_not_mem passed]
    simp [arrival, ways, tie_states_start, Assertion.holds]

/-- Behind the new state the automaton goes its ways as by itself. -/
theorem backtrack (behind : automaton.Behind before trail tied) :
    automaton.tie.backtrack before rest tied state = automaton.backtrack before rest trail state := by
  -- Only where the automaton by itself has no state, or one on the trail, can it be the new one.
  induction before, rest, trail, state using backtrack.induct automaton generalizing tied with
  | case1 before rest trail state passed =>
      rw [backtrack_of_mem passed]
      by_cases front : state = automaton.tie.start
      · rw [front, behind.backtrack_start]
      · exact backtrack_of_mem ((behind.same state front).2 passed)
  | case2 before rest trail state new missing =>
      rw [backtrack_of_missing missing]
      by_cases front : state = automaton.tie.start
      · rw [front, behind.backtrack_start]
      · exact backtrack_of_missing ((tie_states_of_ne front).trans missing)
  | case3 before rest trail state new present =>
      rw [backtrack_of_not_mem new, backtrack_of_not_mem (behind.not_mem present new)]
      simp [arrival, tie_states_of_present present, present]
  | case4 before trail state new members next present =>
      rw [backtrack_of_not_mem new, backtrack_of_not_mem (behind.not_mem present new)]
      simp [arrival, ways, tie_states_of_present present, present]
  | case5 before trail state new members next present char rest member ih =>
      rw [backtrack_of_not_mem new, backtrack_of_not_mem (behind.not_mem present new)]
      simp [arrival, ways, tie_states_of_present present, present, member, ih (of_char automaton char)]
  | case6 before trail state new members next present char rest outside =>
      rw [backtrack_of_not_mem new, backtrack_of_not_mem (behind.not_mem present new)]
      simp [arrival, ways, tie_states_of_present present, present, outside]
  | case7 before rest trail state new assertion next present holds ih =>
      rw [backtrack_of_not_mem new, backtrack_of_not_mem (behind.not_mem present new)]
      simp [arrival, ways, tie_states_of_present present, present, holds, ih (behind.cons state)]
  | case8 before rest trail state new assertion next present fails =>
      rw [backtrack_of_not_mem new, backtrack_of_not_mem (behind.not_mem present new)]
      simp [arrival, ways, tie_states_of_present present, present, fails]
  | case9 before rest trail state new first second present ih₁ ih₂ =>
      rw [backtrack_of_not_mem new, backtrack_of_not_mem (behind.not_mem present new)]
      simp only [arrival, ways, tie_states_of_present present, present, List.findSome?_cons, List.findSome?_nil,
        ih₁ (behind.cons state), ih₂ (behind.cons state)]

end Behind

/-- Tied to the start of the text, an automaton takes there what it takes by itself. -/
theorem attempt_tie (automaton : Automaton) (text : List Char) :
    automaton.tie.attempt text = automaton.attempt text := by
  have starts : automaton.tie.backtrack none text [automaton.tie.start] automaton.start =
      automaton.backtrack none text [] automaton.start := (Behind.of_start automaton none).backtrack
  rw [attempt, attempt, backtrack_of_not_mem List.not_mem_nil]
  simp [arrival, ways, tie_states_start, Assertion.holds, starts]

end Automaton

end LexKit.Regex
