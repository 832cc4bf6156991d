import LexKit.Pattern
import LexKit.Proofs.Regex.Search

/-!
# Patterns that take a run

Most patterns of a tokenizer ask for one character of a class and then for as many characters of a second
class as there are. An anchored automaton of this form has two threads behind every character of the run,
one that waits for the next character and one that accepts; the first is preferred, so the match ends with
the run.
-/

namespace LexKit.Regex

namespace Automaton

variable {automaton : Automaton} {before after : Option Char} {start fuel id : Nat} {pending : List Nat}
  {seen : Marks} {threads : List Thread} {front : Front}

/-! ## Exploring state by state -/

theorem explore_split {first second : Nat} (new : seen.contains id = false)
    (state : automaton.states[id]? = some (.split first second)) :
    automaton.explore before after start (fuel + 1) (id :: pending) ⟨seen, threads⟩ =
      automaton.explore before after start fuel (first :: second :: pending)
        ⟨seen.insert id, threads⟩ := by
  simp only [explore, new, state, Bool.false_eq_true, if_false]

theorem explore_look {assertion : Assertion} {next : Nat} (new : seen.contains id = false)
    (state : automaton.states[id]? = some (.look assertion next))
    (holds : assertion.holds before after = true) :
    automaton.explore before after start (fuel + 1) (id :: pending) ⟨seen, threads⟩ =
      automaton.explore before after start fuel (next :: pending)
        ⟨seen.insert id, threads⟩ := by
  simp only [explore, new, state, holds, Bool.false_eq_true, if_false, if_true]

theorem explore_consume {members : CharClass} {next : Nat} (new : seen.contains id = false)
    (state : automaton.states[id]? = some (.consume members next)) :
    automaton.explore before after start (fuel + 1) (id :: pending) ⟨seen, threads⟩ =
      automaton.explore before after start fuel pending
        ⟨seen.insert id, ⟨id, start⟩ :: threads⟩ := by
  simp only [explore, new, state, Bool.false_eq_true, if_false]

theorem explore_accept (new : seen.contains id = false)
    (state : automaton.states[id]? = some .accept) :
    automaton.explore before after start (fuel + 1) (id :: pending) ⟨seen, threads⟩ =
      automaton.explore before after start fuel pending
        ⟨seen.insert id, ⟨id, start⟩ :: threads⟩ := by
  simp only [explore, new, state, Bool.false_eq_true, if_false]

theorem explore_nil : automaton.explore before after start fuel [] front = front := by
  cases fuel <;> rfl

/-! ## The automaton of a run -/

/-- The automaton of a pattern that takes a character of `first` and the run of `members` behind it. -/
structure TakesRun (automaton : Automaton) (first members : CharClass) : Prop where
  accepts : automaton.states[0]? = some .accept
  decides : automaton.states[1]? = some (.split 2 0)
  repeats : automaton.states[2]? = some (.consume members 1)
  begins : ∃ entry, automaton.states[automaton.start]? = some (.look .textStart entry) ∧
    automaton.states[entry]? = some (.consume first 1)

namespace TakesRun

variable {first members : CharClass} (run : automaton.TakesRun first members)
include run

theorem anchored : automaton.anchored = true := by
  obtain ⟨entry, starts, -⟩ := run.begins
  unfold Automaton.anchored
  rw [starts]

theorem size_lt : 2 < automaton.states.size := by
  obtain ⟨inside, -⟩ := Array.getElem?_eq_some_iff.1 run.repeats
  exact inside

theorem exists_fuel : ∃ fuel, 2 * automaton.states.size + 2 = fuel + 1 + 1 + 1 := by
  have size := run.size_lt
  exact ⟨2 * automaton.states.size - 1, by omega⟩

theorem begun_eq {index : Nat} (inside : 0 < index) (found : Option Match) :
    automaton.begun before after index front found = front := by
  have other : (index == 0) = false := beq_false_of_ne (by omega)
  unfold begun
  rw [run.anchored, other]
  simp

/-- The threads behind a character of the run, the preferred one last. -/
theorem enter_decides (before after : Option Char) (start : Nat) {seen : Marks}
    (new : ∀ number, seen.contains number = false) (fits : seen.Fits 2) (threads : List Thread) :
    automaton.enter before after ⟨1, start⟩ ⟨seen, threads⟩ =
      ⟨((seen.insert 1).insert 2).insert 0, ⟨0, start⟩ :: ⟨2, start⟩ :: threads⟩ := by
  have fits₁ : seen.Fits 1 := Nat.lt_of_succ_lt fits
  have new₂ : (seen.insert 1).contains 2 = false := by
    rw [Marks.contains_insert fits₁, new]
    rfl
  have new₀ : ((seen.insert 1).insert 2).contains 0 = false := by
    rw [Marks.contains_insert (Marks.fits_insert.2 fits), Marks.contains_insert fits₁, new]
    rfl
  obtain ⟨fuel, enough⟩ := run.exists_fuel
  unfold enter
  rw [enough, explore_split (new 1) run.decides, explore_consume new₂ run.repeats,
    explore_accept new₀ run.accepts, explore_nil]

/-- Before the first character one thread waits for it. -/
theorem begun_first (after : Option Char) :
    ∃ entry seen, automaton.begun none after 0 automaton.noFront none = ⟨seen, [⟨entry, 0⟩]⟩ ∧
      automaton.states[entry]? = some (.consume first 1) ∧ seen.Fits 2 := by
  obtain ⟨entry, starts, enters⟩ := run.begins
  obtain ⟨inside, -⟩ := Array.getElem?_eq_some_iff.1 starts
  have different : automaton.start ≠ entry := by
    intro same
    rw [← same, starts] at enters
    cases enters
  have new : ((Marks.empty automaton.states.size).insert automaton.start).contains entry = false := by
    rw [Marks.contains_insert (Marks.fits_empty.2 inside)]
    simp [different]
  have begun : automaton.begun none after 0 automaton.noFront none =
      automaton.enter none after ⟨automaton.start, 0⟩ automaton.noFront := rfl
  obtain ⟨fuel, enough⟩ := run.exists_fuel
  refine ⟨entry, ((Marks.empty automaton.states.size).insert automaton.start).insert entry, ?_,
    enters, ?_⟩
  · rw [begun, enter, noFront, enough, explore_look (Marks.contains_empty _ _) starts rfl,
      explore_consume new enters, explore_nil]
  · simpa using run.size_lt

theorem pass_first (char : Char) (after : Option Char) :
    let passed := automaton.pass (some char) after
      (automaton.begun none (some char) 0 automaton.noFront none)
    passed.2 = none ∧
      if first.mem char then
        passed.1.threads = [⟨0, 0⟩, ⟨2, 0⟩] ∧ passed.1.seen.Fits 2
      else passed.1.threads = [] := by
  obtain ⟨entry, seen, begun, enters, fits⟩ := run.begun_first (some char)
  simp only [begun, pass, Front.leave, List.reverse_singleton, advance, enters]
  split
  · have next := run.enter_decides (some char) after 0 (Marks.contains_clear seen) fits []
    rw [next]
    refine ⟨rfl, rfl, ?_⟩
    simpa using fits
  · exact ⟨rfl, rfl⟩

omit run in
theorem leave_decided (threads : front.threads = [⟨0, 0⟩, ⟨2, 0⟩]) :
    front.leave = ([⟨2, 0⟩, ⟨0, 0⟩], ⟨front.seen.clear, []⟩) := by
  unfold Front.leave
  rw [threads]
  rfl

/-- Behind another character: the attempt accepts before it, and goes on if the run does. -/
theorem pass_run (threads : front.threads = [⟨0, 0⟩, ⟨2, 0⟩]) (fits : front.seen.Fits 2) (char : Char)
    (after : Option Char) :
    let passed := automaton.pass (some char) after front
    passed.2 = some 0 ∧
      if members.mem char then
        passed.1.threads = [⟨0, 0⟩, ⟨2, 0⟩] ∧ passed.1.seen.Fits 2
      else passed.1.threads = [] := by
  simp only [pass, leave_decided threads, advance, run.repeats, run.accepts]
  split
  · have next := run.enter_decides (some char) after 0 (Marks.contains_clear front.seen) fits []
    rw [next]
    refine ⟨rfl, rfl, ?_⟩
    simpa using fits
  · exact ⟨rfl, rfl⟩

/-- Once the first character has been passed, the match ends with the run. -/
theorem searchFrom_eq {rest : List Char} {index : Nat} {found : Option Match}
    (threads : front.threads = [⟨0, 0⟩, ⟨2, 0⟩]) (fits : front.seen.Fits 2) (inside : 0 < index) :
    automaton.searchFrom rest before index front found =
      some ⟨0, index + (rest.takeWhile members.mem).length⟩ := by
  induction rest generalizing before index front found with
  | nil =>
      rw [searchFrom_nil, run.begun_eq inside]
      simp only [pass, leave_decided threads, advance, run.repeats, run.accepts]
      rfl
  | cons char rest ih =>
      have passes := run.pass_run threads fits char rest.head?
      rw [searchFrom_cons, run.begun_eq inside]
      obtain ⟨accepted, next⟩ := passes
      simp only [accepted, Match.latest, Option.isSome_some, Bool.true_or, Bool.and_true]
      by_cases member : members.mem char = true
      · simp only [member, if_true] at next
        rw [next.1, List.takeWhile_cons_of_pos member, List.length_cons]
        simp only [List.isEmpty_cons, Bool.false_eq_true, if_false]
        rw [ih next.1 next.2 (Nat.succ_pos index)]
        congr 2
        omega
      · simp only [member, Bool.false_eq_true, if_false] at next
        rw [next, List.takeWhile_cons_of_neg member]
        rfl

theorem search_cons (char : Char) (rest : List Char) :
    automaton.search (char :: rest) =
      if first.mem char then some ⟨0, 1 + (rest.takeWhile members.mem).length⟩ else none := by
  obtain ⟨accepted, next⟩ := run.pass_first char rest.head?
  rw [search, searchFrom_cons]
  simp only [accepted, Match.latest, run.anchored, Option.isSome_none, Bool.false_or, Bool.and_true]
  by_cases member : first.mem char = true
  · simp only [member, if_true] at next ⊢
    rw [next.1]
    simp only [List.isEmpty_cons, Bool.false_eq_true, if_false]
    rw [run.searchFrom_eq next.1 next.2 Nat.one_pos]
  · simp only [member, Bool.false_eq_true, if_false] at next ⊢
    rw [next]
    rfl

end TakesRun

end Automaton

end LexKit.Regex

namespace LexKit.Pattern

open Regex

/-- A pattern for a run reaches to the end of the run, if the text begins with one. -/
theorem reach?_cons_of_takesRun {pattern : Pattern} {first members : CharClass}
    (run : pattern.automaton.TakesRun first members) (char : Char) (rest : List Char) :
    pattern.reach? (char :: rest) =
      if first.mem char then some (1 + (rest.takeWhile members.mem).length) else none := by
  unfold reach?
  rw [run.search_cons]
  by_cases member : first.mem char = true
  · simp [member]
  · simp [member]

end LexKit.Pattern
