import LexKit.Proofs.Regex.Search
import LexKit.Proofs.Regex.Visits

/-!
# Searching and backtracking

A search walks through the text once, with all attempts side by side; backtracking tries them one after another.
They find the same match: of the first place at which some attempt succeeds, the one that is preferred there.
What carries the walk is that the best result of the threads at a place, and behind it the match found before and
the attempts that are still to begin, does not change from one place to the next.
-/

namespace LexKit.Regex

theorem Match.latest_eq (accepted : Option Nat) (index : Nat) (found : Option Match) :
    Match.latest accepted index found = (accepted.map fun start => (⟨start, index⟩ : Match)).or found := by
  cases accepted <;> rfl

namespace Automaton

variable {automaton : Automaton} {before after : Option Char} {char : Char} {rest : List Char}
  {index : Nat} {front next : Front}

/-! ## The threads of one place -/

def comesOf (automaton : Automaton) (rest : List Char) (index : Nat) (thread : Thread) : Option Match :=
  (automaton.arrival rest thread.state).map fun count => ⟨thread.start, index + count⟩

def best (automaton : Automaton) (rest : List Char) (index : Nat) (front : Front) : Option Match :=
  front.threads.reverse.findSome? (automaton.comesOf rest index)

def begins (automaton : Automaton) (before : Option Char) (rest : List Char) (index : Nat)
    (thread : Thread) : Option Match :=
  (automaton.backtrack before rest [] thread.state).map fun count => ⟨thread.start, index + count⟩

/-- The marks of a front belong to its threads: all that lies behind a marked state is marked, and where a thread can
wait one does. -/
structure Sound (automaton : Automaton) (before after : Option Char) (front : Front) : Prop where
  sized : automaton.Sized front.seen
  settled : automaton.Settled before after
    (fun state => automaton.waits state = true → ∃ thread ∈ front.threads, thread.state = state) [] front.seen

theorem sound_of_unmarked {seen : Marks} (sized : automaton.Sized seen)
    (unmarked : ∀ state, seen.contains state = false) : automaton.Sound before after ⟨seen, []⟩ := by
  refine ⟨sized, nofun, fun state marked => ?_⟩
  rw [unmarked] at marked
  cases marked

theorem sound_noFront : automaton.Sound before after automaton.noFront :=
  sound_of_unmarked (by simp [Sized, Marks.empty]) (Marks.contains_empty _)

theorem Sound.leave (sound : automaton.Sound before after front) {before' after' : Option Char} :
    automaton.Sound before' after' front.leave.2 :=
  sound_of_unmarked sound.sized (Marks.contains_clear _)

/-- An attempt that enters a front visits its state, and puts the states found behind the threads there. -/
theorem exists_visits_enter (before after : Option Char) (sized : automaton.Sized front.seen) (thread : Thread) :
    ∃ found last, Visits automaton before after [thread.state] front.seen found last ∧
      automaton.Sized last ∧
      automaton.enter before after thread front =
        ⟨last, (found.map (⟨·, thread.start⟩)).reverse ++ front.threads⟩ := by
  have bound : automaton.unseen front.seen ≤ automaton.states.size := by
    have counted := List.countP_le_length (p := (front.seen.contains · = false))
      (l := List.range automaton.states.size)
    rwa [List.length_range] at counted
  obtain ⟨found, last, left, visits, sized', -, -, goesOn⟩ :=
    exists_visits before after thread.start [thread.state] [] front.threads (2 * automaton.states.size + 2)
      sized (by simp only [List.length_singleton, List.length_nil]; omega)
  refine ⟨found, last, visits, sized', ?_⟩
  rw [enter]
  rw [List.append_nil] at goesOn
  refine goesOn.trans ?_
  cases left <;> rfl

theorem Sound.enter (sound : automaton.Sound before after front) (thread : Thread) :
    automaton.Sound before after (automaton.enter before after thread front) := by
  obtain ⟨found, last, visits, sized, entered⟩ :=
    exists_visits_enter before after sound.sized thread
  rw [entered]
  refine ⟨sized, visits.settled sound.sized (sound.settled.imp ?_) ?_ ?_⟩
  · intro state waiting waits
    obtain ⟨one, member, same⟩ := waiting waits
    exact ⟨one, List.mem_append_right _ member, same⟩
  · intro state moves waits
    rw [moves] at waits
    cases waits
  · intro state member _
    refine ⟨⟨state, thread.start⟩, List.mem_append_left _ ?_, rfl⟩
    exact List.mem_reverse.2 (List.mem_map_of_mem member)

/-- An attempt is asked where nothing comes of the threads before it. -/
theorem best_enter (sound : automaton.Sound before rest.head? front) (thread : Thread) :
    automaton.best rest index (automaton.enter before rest.head? thread front) =
      (automaton.best rest index front).or (automaton.begins before rest index thread) := by
  obtain ⟨found, last, visits, -, entered⟩ :=
    exists_visits_enter before rest.head? sound.sized thread
  rw [entered, best, best, List.reverse_append, List.reverse_reverse, List.findSome?_append]
  cases earlier : front.threads.reverse.findSome? (automaton.comesOf rest index) with
  | some found => rfl
  | none =>
      have fruitless : automaton.Settled before rest.head? (automaton.Fruitless rest) [] front.seen := by
        refine sound.settled.imp fun state waiting => ?_
        cases waits : automaton.waits state with
        | false => exact arrival_of_not_waits rest waits
        | true =>
            obtain ⟨one, member, rfl⟩ := waiting waits
            have nothing := List.findSome?_eq_none_iff.1 earlier one (List.mem_reverse.2 member)
            exact Option.map_eq_none_iff.1 nothing
      have first := visits.backtrack sound.sized fruitless
      rw [List.findSome?_cons, List.findSome?_nil] at first
      have mapped : (found.map (⟨·, thread.start⟩)).findSome? (automaton.comesOf rest index) =
          (found.findSome? (automaton.arrival rest)).map fun count =>
            (⟨thread.start, index + count⟩ : Match) := by
        rw [List.findSome?_map, List.map_findSome?]
        rfl
      rw [mapped, first, Option.none_or, Option.none_or, begins]
      cases automaton.backtrack before rest [] thread.state <;> rfl

/-! ## From one place to the next -/

theorem Sound.advance (sound : automaton.Sound (some char) after next) (threads : List Thread) :
    automaton.Sound (some char) after (automaton.advance (some char) after threads next).1 := by
  induction threads generalizing next with
  | nil => exact sound
  | cons thread threads ih =>
      unfold Automaton.advance
      split
      · exact sound
      · simp only
        split
        · exact ih (sound.enter _)
        · exact ih sound
      · exact ih sound

/-- What comes of the threads at a place comes of those behind the next character, or else of the one that
accepts before it. -/
theorem best_advance (sound : automaton.Sound (some char) rest.head? next) (threads : List Thread) :
    let moved := automaton.advance (some char) rest.head? threads next
    (automaton.best rest (index + 1) moved.1).or (moved.2.map fun start => ⟨start, index⟩) =
      (automaton.best rest (index + 1) next).or
        (threads.findSome? (automaton.comesOf (char :: rest) index)) := by
  induction threads generalizing next with
  | nil => rfl
  | cons thread threads ih =>
      unfold Automaton.advance
      rw [List.findSome?_cons]
      cases found : automaton.states[thread.state]? with
      | none => simpa [comesOf, arrival, found] using ih sound
      | some state =>
          cases state with
          | split | look => simpa [comesOf, arrival, found] using ih sound
          | accept => simp [comesOf, arrival, found]
          | consume members target =>
              by_cases member : members.mem char = true
              · have comes : automaton.comesOf (char :: rest) index thread =
                    automaton.begins (some char) rest (index + 1) ⟨target, thread.start⟩ := by
                  simp only [comesOf, arrival, found, member, if_true, begins, Option.map_map]
                  congr 1
                  funext count
                  simp only [Function.comp_apply, Match.mk.injEq, true_and]
                  omega
                have later := ih (sound.enter ⟨target, thread.start⟩)
                rw [best_enter sound, Option.or_assoc] at later
                simp only [member, if_true, comes]
                rw [later]
                cases automaton.begins (some char) rest (index + 1) ⟨target, thread.start⟩ <;> simp
              · simpa [comesOf, arrival, found, member] using ih sound

theorem Sound.pass (sound : automaton.Sound before after front) (char : Char) (after' : Option Char) :
    automaton.Sound (some char) after' (automaton.pass (some char) after' front).1 :=
  sound.leave.advance front.leave.1

theorem best_pass (sound : automaton.Sound before after front) (char : Char) (rest : List Char) (index : Nat) :
    let passed := automaton.pass (some char) rest.head? front
    (automaton.best rest (index + 1) passed.1).or (passed.2.map fun start => ⟨start, index⟩) =
      automaton.best (char :: rest) index front :=
  best_advance sound.leave front.leave.1

theorem best_of_isEmpty (empty : front.threads.isEmpty = true) : automaton.best rest index front = none := by
  rw [best, List.isEmpty_iff.1 empty]
  rfl

theorem accepted_at_end (threads : List Thread) (next : Front) :
    ((automaton.advance none none threads next).2.map fun start => (⟨start, index⟩ : Match)) =
      threads.findSome? (automaton.comesOf [] index) := by
  induction threads with
  | nil => rfl
  | cons thread threads ih =>
      unfold Automaton.advance
      rw [List.findSome?_cons]
      cases found : automaton.states[thread.state]? with
      | none => simpa [comesOf, arrival, found] using ih
      | some state =>
          cases state with
          | accept => simp [comesOf, arrival, found]
          | consume | split | look => simpa [comesOf, arrival, found] using ih

/-! ## Attempts that begin at a place -/

theorem backtrack_of_anchored (anchored : automaton.anchored = true) :
    automaton.backtrack (some char) rest [] automaton.start = none := by
  unfold Automaton.anchored at anchored
  split at anchored
  · rename_i target starts
    rw [backtrack_of_not_mem List.not_mem_nil]
    simp [arrival, ways, starts, Assertion.holds]
  · cases anchored

theorem leftmost_of_anchored (anchored : automaton.anchored = true) :
    automaton.leftmost (some char) index rest = none := by
  induction rest generalizing char index with
  | nil => rw [leftmost, backtrack_of_anchored anchored, Option.map_none]
  | cons other rest ih => rw [leftmost, backtrack_of_anchored anchored, Option.map_none, Option.none_or, ih]

theorem Sound.begun (sound : automaton.Sound before after front) (index : Nat) (found : Option Match) :
    automaton.Sound before after (automaton.begun before after index front found) := by
  unfold Automaton.begun
  split
  · exact sound.enter _
  · exact sound

/-- The attempt that begins at a place comes behind the threads there and before all later attempts, and only if no
match was found before. -/
theorem best_begun (sound : automaton.Sound before rest.head? front) (place : index = 0 ∨ before.isSome = true)
    (found later : Option Match) :
    (automaton.best rest index (automaton.begun before rest.head? index front found)).or (found.or later) =
      (automaton.best rest index front).or
        (found.or ((automaton.begins before rest index ⟨automaton.start, index⟩).or later)) := by
  unfold Automaton.begun
  cases found with
  | some found => rfl
  | none =>
      by_cases begins : (index == 0 || !automaton.anchored) = true
      · rw [Option.isNone_none, Bool.true_and, if_pos begins, best_enter sound]
        simp only [Option.none_or, Option.or_assoc]
      · rw [Option.isNone_none, Bool.true_and, if_neg begins]
        simp only [Bool.or_eq_true, beq_iff_eq, Bool.not_eq_true', not_or, Bool.not_eq_false] at begins
        obtain ⟨char, rfl⟩ := Option.isSome_iff_exists.1 (place.resolve_left begins.1)
        rw [Automaton.begins, backtrack_of_anchored begins.2]
        rfl

/-! ## The whole search -/

/-- From any place on, a search finds the best of the threads there, or else what was found before, or else the match
of the first place from there where an attempt succeeds. -/
theorem searchFrom_eq_best {found : Option Match} (sound : automaton.Sound before rest.head? front)
    (place : index = 0 ∨ before.isSome = true) :
    automaton.searchFrom rest before index front found =
      (automaton.best rest index front).or (found.or (automaton.leftmost before index rest)) := by
  induction rest generalizing before index front found with
  | nil =>
      have begun := best_begun sound place found none
      rw [Option.or_none, Option.or_none] at begun
      rw [searchFrom_nil, Match.latest_eq, pass, Front.leave, accepted_at_end]
      exact begun
  | cons char rest ih =>
      have begun := best_begun sound place found (automaton.leftmost (some char) (index + 1) rest)
      have sound' := sound.begun index found
      rw [List.head?_cons] at begun sound'
      rw [searchFrom_cons, leftmost]
      refine Eq.trans ?_ begun
      generalize automaton.begun before (some char) index front found = entered at sound' ⊢
      have passed := best_pass sound' char rest index
      have sound'' := sound'.pass char rest.head?
      generalize automaton.pass (some char) rest.head? entered = next at passed sound'' ⊢
      obtain ⟨next, accepted⟩ := next
      simp only at passed sound'' ⊢
      rw [← passed, Option.or_assoc, ← @Option.or_assoc _ (accepted.map _), ← Match.latest_eq]
      split
      · -- No thread is left, so the search may stop: no later attempt begins, or none of them takes anything.
        rename_i ends
        rw [Bool.and_eq_true, Bool.or_eq_true] at ends
        rw [best_of_isEmpty ends.1, Option.none_or]
        rcases ends.2 with isSome | anchored
        · obtain ⟨found', latest⟩ := Option.isSome_iff_exists.1 isSome
          rw [latest, Option.some_or]
        · rw [leftmost_of_anchored anchored, Option.or_none]
      · exact ih sound'' (.inr rfl)

/-- A search finds the match that backtracking finds at the first place where it finds one. -/
theorem search_eq_leftmost (automaton : Automaton) (text : List Char) :
    automaton.search text = automaton.leftmost none 0 text := by
  rw [search, searchFrom_eq_best sound_noFront (.inl rfl)]
  rfl

theorem search_of_anchored (anchored : automaton.anchored = true) (text : List Char) :
    automaton.search text = (automaton.attempt text).map fun count => ⟨0, count⟩ := by
  rw [search_eq_leftmost, attempt]
  cases text with
  | nil => simp [leftmost]
  | cons char rest => simp [leftmost, leftmost_of_anchored anchored]

end Automaton

end LexKit.Regex
