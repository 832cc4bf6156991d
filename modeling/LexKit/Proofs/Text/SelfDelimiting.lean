import Mathlib.Data.List.Basic

/-!
# Writing that can be told apart

A way of writing delimits itself if what is written can be told from any text behind it. Things that are written so,
one behind another, can then be told apart, as long as it shows where the last of them ends.
-/

namespace LexKit.Text

variable {α : Type} {write : α → List Char} {stop : Char} {first second : List α} {rest rest' : List Char}

/-- What is written and the text behind it can be told from the two together. -/
def SelfDelimiting (write : α → List Char) : Prop :=
  ∀ (first second : α) (rest rest' : List Char), write first ++ rest = write second ++ rest' →
    first = second ∧ rest = rest'

/-- A text that does not begin with anything written. -/
def EndsBefore (write : α → List Char) (rest : List Char) : Prop := ∀ value more, write value ++ more ≠ rest

theorem endsBefore_nil (present : ∀ value, write value ≠ []) : EndsBefore write [] := by
  intro value more same
  exact present value (List.append_eq_nil_iff.1 same).1

theorem endsBefore_cons (begins : ∀ value, ∃ char tail, write value = char :: tail ∧ char ≠ stop)
    (rest : List Char) : EndsBefore write (stop :: rest) := by
  intro value more same
  obtain ⟨char, tail, starts, other⟩ := begins value
  rw [starts] at same
  exact other (List.cons.inj same).1

namespace SelfDelimiting

theorem of_stop (injective : Function.Injective write) (fresh : ∀ value, stop ∉ write value) :
    SelfDelimiting fun value => write value ++ [stop] := by
  have cut (value : α) (rest : List Char) :
      (write value ++ [stop] ++ rest).takeWhile (· != stop) = write value := by
    have inside : ∀ char ∈ write value, (char != stop) = true := by
      intro char member
      rw [bne_iff_ne]
      rintro rfl
      exact fresh value member
    rw [List.append_assoc, List.takeWhile_append_of_pos inside, List.singleton_append,
      List.takeWhile_cons_of_neg (by simp), List.append_nil]
  intro first second rest rest' same
  have written : write first = write second := by
    rw [← cut first rest, ← cut second rest', same]
  obtain rfl : first = second := injective written
  exact ⟨rfl, List.append_cancel_left same⟩

/-- Things that are written one behind another can be told apart, and from what is behind them. -/
theorem flatMap_append_inj (delimits : SelfDelimiting write) (ends : EndsBefore write rest)
    (ends' : EndsBefore write rest') (same : first.flatMap write ++ rest = second.flatMap write ++ rest') :
    first = second ∧ rest = rest' := by
  induction first generalizing second with
  | nil =>
      cases second with
      | nil => exact ⟨rfl, same⟩
      | cons other second =>
          rw [List.flatMap_cons, List.append_assoc] at same
          exact absurd same.symm (ends other _)
  | cons value first ih =>
      rw [List.flatMap_cons, List.append_assoc] at same
      cases second with
      | nil => exact absurd same (ends' value _)
      | cons other second =>
          rw [List.flatMap_cons, List.append_assoc] at same
          obtain ⟨rfl, later⟩ := delimits value other _ _ same
          obtain ⟨rfl, behind⟩ := ih later
          exact ⟨rfl, behind⟩

end SelfDelimiting

end LexKit.Text
