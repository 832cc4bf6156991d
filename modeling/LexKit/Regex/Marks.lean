/-!
# Marks

A set of numbers below a bound that is emptied again and again. With each number goes the round in which it was
marked last, so to mark a number, to ask for it and to empty the set take the same time however many numbers
there are.
-/

namespace LexKit.Regex

/-- The numbers that were marked in the present round. -/
structure Marks where
  /-- For each number the round in which it was marked last, counted from 1; 0 if there was none. -/
  latest : Array Nat
  /-- The rounds before the present one. -/
  past : Nat
  latest_le : ∀ round ∈ latest, round ≤ past + 1
deriving Repr, DecidableEq

namespace Marks

def empty (bound : Nat) : Marks :=
  ⟨Array.replicate bound 0, 0, fun round member => by simp [(Array.mem_replicate.1 member).2]⟩

def contains (marks : Marks) (number : Nat) : Bool :=
  marks.latest.getD number 0 == marks.past + 1

def insert (marks : Marks) (number : Nat) : Marks :=
  ⟨marks.latest.setIfInBounds number (marks.past + 1), marks.past, fun round member => by
    rcases Array.mem_or_eq_of_mem_setIfInBounds member with old | new
    · exact marks.latest_le round old
    · omega⟩

def clear (marks : Marks) : Marks :=
  ⟨marks.latest, marks.past + 1, fun round member =>
    Nat.le_succ_of_le (marks.latest_le round member)⟩

def Fits (marks : Marks) (number : Nat) : Prop := number < marks.latest.size

@[simp] theorem fits_empty {bound number : Nat} : (empty bound).Fits number ↔ number < bound := by
  simp [Fits, empty]

@[simp] theorem fits_insert {marks : Marks} {number other : Nat} :
    (marks.insert number).Fits other ↔ marks.Fits other := by
  simp [Fits, insert]

@[simp] theorem fits_clear {marks : Marks} {number : Nat} :
    marks.clear.Fits number ↔ marks.Fits number := Iff.rfl

@[simp] theorem contains_empty (bound number : Nat) : (empty bound).contains number = false := by
  simp only [contains, empty, Array.getD_eq_getD_getElem?, Array.getElem?_replicate]
  split <;> simp

@[simp] theorem contains_clear (marks : Marks) (number : Nat) :
    marks.clear.contains number = false := by
  simp only [contains, clear, Array.getD_eq_getD_getElem?, beq_eq_false_iff_ne]
  cases found : marks.latest[number]? with
  | none => simp
  | some round =>
      have past := marks.latest_le round (Array.mem_of_getElem? found)
      simp only [Option.getD_some]
      omega

theorem contains_insert {marks : Marks} {number other : Nat} (fits : marks.Fits number) :
    (marks.insert number).contains other = (decide (number = other) || marks.contains other) := by
  simp only [contains, insert, Array.getD_eq_getD_getElem?, Array.getElem?_setIfInBounds]
  by_cases same : number = other
  · subst same
    have inside : number < marks.latest.size := fits
    simp [inside]
  · simp [same]

end Marks

end LexKit.Regex
