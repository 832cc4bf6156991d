import LexKit.Regex.Search

/-!
# Backtracking

What a search finds, said without fronts and marks. From a state the alternatives are tried in order, each to its
end before the next, and the first that comes to acceptance counts. Nothing that failed is remembered, so this
can take exponential time; a state is only not passed twice on one way without a character in between, which would
lead round in circles.
-/

namespace LexKit.Regex.Automaton

theorem countP_lt_countP {α : Type} {strong weak : α → Bool} {members : List α} {member : α}
    (inside : member ∈ members) (weaker : ∀ other ∈ members, strong other = true → weak other = true)
    (fails : strong member = false) (holds : weak member = true) :
    members.countP strong < members.countP weak := by
  induction members with
  | nil => cases inside
  | cons first members ih =>
      have weaker' := fun other later => weaker other (List.mem_cons_of_mem first later)
      have fewer : members.countP strong ≤ members.countP weak := List.countP_mono_left weaker'
      rw [List.countP_cons, List.countP_cons]
      rcases List.mem_cons.1 inside with rfl | later
      · simp only [fails, holds, Bool.false_eq_true, if_false, if_true]
        omega
      · have strictly := ih later weaker'
        have here := weaker first List.mem_cons_self
        by_cases strongly : strong first = true
        · simp only [strongly, here strongly, if_true]
          omega
        · rw [if_neg strongly]
          split <;> omega

def untried (automaton : Automaton) (trail : List Nat) : Nat :=
  (List.range automaton.states.size).countP (· ∉ trail)

theorem untried_cons_lt {automaton : Automaton} {state : Nat} {found : State} {trail : List Nat}
    (present : automaton.states[state]? = some found) (new : state ∉ trail) :
    automaton.untried (state :: trail) < automaton.untried trail := by
  obtain ⟨inside, -⟩ := Array.getElem?_eq_some_iff.1 present
  refine countP_lt_countP (List.mem_range.2 inside) (fun other _ => ?_) ?_ ?_
  · simp
  · simp
  · simp [new]

/-- The number of characters that the preferred way from a state passes until it accepts. `before` is the character
in front of the rest of the text, and the trail holds the states passed since that character. -/
def backtrack (automaton : Automaton) (before : Option Char) (rest : List Char) (trail : List Nat)
    (state : Nat) : Option Nat :=
  if _new : state ∈ trail then none
  else
    match _present : automaton.states[state]? with
    | none => none
    | some .accept => some 0
    | some (.consume members next) =>
        match rest with
        | [] => none
        | char :: rest =>
            if members.mem char then (automaton.backtrack (some char) rest [] next).map (· + 1) else none
    | some (.look assertion next) =>
        if assertion.holds before rest.head? then automaton.backtrack before rest (state :: trail) next
        else none
    | some (.split first second) =>
        (automaton.backtrack before rest (state :: trail) first).or
          (automaton.backtrack before rest (state :: trail) second)
termination_by (rest.length, automaton.untried trail)
decreasing_by
  · exact .left _ _ (Nat.lt_succ_self _)
  all_goals exact .right _ (untried_cons_lt _present _new)

/-- The number of characters that the automaton takes at the start of a text, which is all that it sees. -/
def attempt (automaton : Automaton) (text : List Char) : Option Nat :=
  automaton.backtrack none text [] automaton.start

def leftmost (automaton : Automaton) (before : Option Char) (index : Nat) : List Char → Option Match
  | [] => (automaton.backtrack before [] [] automaton.start).map fun count => ⟨index, index + count⟩
  | char :: rest =>
      ((automaton.backtrack before (char :: rest) [] automaton.start).map fun count =>
          ⟨index, index + count⟩).or
        (leftmost automaton (some char) (index + 1) rest)

end LexKit.Regex.Automaton
