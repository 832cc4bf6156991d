import Mathlib.Algebra.Group.Even
import Mathlib.Algebra.Ring.Parity
import Mathlib.Data.List.DropRight
import Mathlib.Data.List.Induction
import Mathlib.Data.List.SplitBy

/-!
# Runs of one character

How often a character stands at the end of a text without a break, and what becomes of a text when each run
of a character is cut to half its length or when a character is dropped in front of another one. An escape
acts on what comes next or not by the parity of the run that it ends, so these are the words in which the
disciplines of delimited regions are stated.
-/

namespace LexKit.Text

/-- The number of times that a character stands at the end of a text without a break. -/
def endRun (char : Char) (text : List Char) : Nat := (text.rtakeWhile (· == char)).length

@[simp] theorem endRun_nil (char : Char) : endRun char [] = 0 := rfl

@[simp] theorem endRun_append_self (char : Char) (text : List Char) :
    endRun char (text ++ [char]) = endRun char text + 1 := by
  rw [endRun, List.rtakeWhile_concat_pos _ _ _ (by simp), List.length_append]
  rfl

theorem endRun_append_of_ne {char last : Char} (different : last ≠ char) (text : List Char) :
    endRun char (text ++ [last]) = 0 := by
  rw [endRun, List.rtakeWhile_concat_neg _ _ _ (by simpa using different)]
  rfl

theorem even_endRun_pair {char : Char} {text : List Char} (even : Even (endRun char text)) :
    Even (endRun char (text ++ [char, char])) := by
  have twice : endRun char (text ++ [char, char]) = endRun char text + 2 := by
    rw [List.append_cons, endRun_append_self, endRun_append_self]
  rw [twice]
  exact even.add (by decide)

/-- Behind an even run, the parity of the run at the end is that of the text behind it. -/
theorem even_endRun_append {char : Char} {front : List Char} (even : Even (endRun char front))
    (back : List Char) : Even (endRun char (front ++ back)) ↔ Even (endRun char back) := by
  induction back using List.reverseRecOn with
  | nil => simp [even]
  | append_singleton back last ih =>
      rw [← List.append_assoc]
      by_cases same : last = char
      · subst same
        rw [endRun_append_self, endRun_append_self, Nat.even_add_one, Nat.even_add_one, ih]
      · rw [endRun_append_of_ne same, endRun_append_of_ne same]

theorem exists_eq_append_endRun (char : Char) (text : List Char) :
    ∃ front, text = front ++ List.replicate (endRun char text) char ∧ front.getLast? ≠ some char := by
  refine ⟨text.rdropWhile (· == char), ?_, ?_⟩
  · have run : text.rtakeWhile (· == char) = List.replicate (endRun char text) char := by
      refine List.eq_replicate_iff.2 ⟨rfl, fun other member => ?_⟩
      simpa using List.mem_rtakeWhile_imp member
    rw [← run, List.rdropWhile_append_rtakeWhile]
  · intro last
    have present : text.rdropWhile (· == char) ≠ [] := by
      intro missing
      simp [missing] at last
    have stops := List.rdropWhile_last_not (· == char) text present
    rw [List.getLast?_eq_some_getLast present, Option.some.injEq] at last
    simp [last] at stops

theorem endRun_append_replicate {char : Char} {front : List Char} (maximal : front.getLast? ≠ some char)
    (count : Nat) : endRun char (front ++ List.replicate count char) = count := by
  induction count with
  | zero =>
      rw [List.replicate_zero, List.append_nil]
      cases front using List.reverseRecOn with
      | nil => rfl
      | append_singleton front last =>
          have different : last ≠ char := by
            rintro rfl
            apply maximal
            simp
          exact endRun_append_of_ne different front
  | succ count ih => rw [List.replicate_succ', ← List.append_assoc, endRun_append_self, ih]

/-- The text without each `first` that stands directly before a `second`. -/
def dropBefore (first second : Char) : List Char → List Char
  | [] => []
  | char :: rest =>
      if char = first ∧ rest.head? = some second then dropBefore first second rest
      else char :: dropBefore first second rest

theorem dropBefore_append {first second : Char} (front : List Char) {back : List Char}
    (apart : back.head? ≠ some second) :
    dropBefore first second (front ++ back) =
      dropBefore first second front ++ dropBefore first second back := by
  induction front with
  | nil => rfl
  | cons char front ih =>
      cases front with
      | nil => simp [dropBefore, apart]
      | cons next front =>
          have step (tail : List Char) : dropBefore first second (char :: next :: tail) =
              if char = first ∧ some next = some second then dropBefore first second (next :: tail)
              else char :: dropBefore first second (next :: tail) := rfl
          rw [List.cons_append, List.cons_append, step, step, ← List.cons_append, ih]
          split <;> rfl

/-- The maximal runs of a character, and the other characters one by one. -/
def runsOf (char : Char) (text : List Char) : List (List Char) :=
  text.splitBy fun first second => first == char && second == char

/-- The text with each run of a character cut to half its length, rounded down. -/
def halveRuns (char : Char) (text : List Char) : List Char :=
  (runsOf char text).flatMap fun run =>
    if run.head? = some char then run.take (run.length / 2) else run

@[simp] theorem halveRuns_nil (char : Char) : halveRuns char [] = [] := rfl

theorem halveRuns_append_of_ne {char last : Char} (different : last ≠ char) (text : List Char) :
    halveRuns char (text ++ [last]) = halveRuns char text ++ [last] := by
  have split : runsOf char (text ++ [last]) = runsOf char text ++ [[last]] :=
    List.splitBy_append_cons [] fun other _ => by simp [different]
  simp [halveRuns, split, different]

/-- A run at the end counts by half, whatever comes before it. -/
theorem halveRuns_append_replicate {char : Char} {front : List Char}
    (maximal : front.getLast? ≠ some char) (count : Nat) :
    halveRuns char (front ++ List.replicate count char) =
      halveRuns char front ++ List.replicate (count / 2) char := by
  cases count with
  | zero => simp
  | succ count =>
      have whole : runsOf char (List.replicate (count + 1) char) = [List.replicate (count + 1) char] :=
        List.splitBy_of_isChain (by simp) (List.isChain_replicate_of_rel _ (by simp))
      have split : runsOf char (front ++ List.replicate (count + 1) char) =
          runsOf char front ++ [List.replicate (count + 1) char] := by
        rw [← whole]
        refine List.splitBy_append_cons _ fun other last => ?_
        have : other ≠ char := by
          rintro rfl
          exact maximal last
        simp [this]
      rw [halveRuns, split, List.flatMap_append, ← halveRuns]
      simp only [List.flatMap_singleton, List.head?_replicate, List.length_replicate, List.take_replicate]
      have half : min ((count + 1) / 2) (count + 1) = (count + 1) / 2 := by omega
      simp [half]

theorem halveRuns_append_self {char : Char} {text : List Char} (even : Even (endRun char text)) :
    halveRuns char (text ++ [char]) = halveRuns char text := by
  obtain ⟨front, parts, maximal⟩ := exists_eq_append_endRun char text
  generalize endRun char text = count at parts even
  obtain ⟨half, rfl⟩ := even
  subst parts
  rw [List.append_assoc, ← List.replicate_succ', halveRuns_append_replicate maximal,
    halveRuns_append_replicate maximal]
  congr 2
  omega

theorem halveRuns_append_pair {char : Char} {text : List Char} (even : Even (endRun char text)) :
    halveRuns char (text ++ [char, char]) = halveRuns char text ++ [char] := by
  obtain ⟨front, parts, maximal⟩ := exists_eq_append_endRun char text
  generalize endRun char text = count at parts even
  obtain ⟨half, rfl⟩ := even
  subst parts
  have joined : front ++ List.replicate (half + half) char ++ [char, char] =
      front ++ List.replicate (half + half + 2) char := by
    rw [List.append_assoc, List.replicate_add (half + half) 2]
    rfl
  have more : (half + half + 2) / 2 = (half + half) / 2 + 1 := by omega
  rw [joined, halveRuns_append_replicate maximal, halveRuns_append_replicate maximal, more,
    List.replicate_succ', List.append_assoc]

end LexKit.Text
