import LexKit.Proofs.Scan.Append
import LexKit.Proofs.Scan.Course
import Mathlib.Data.List.Forall2

/-!
# Recognizers that exclude each other

Where at most one recognizer of a list does not decline, the order of the list plays no part in an attempt. If
this is so at every place, it plays no part in a scan or in what the scan tells. An error counts here as an
answer like a match: a recognizer that fails hides the ones behind it.
-/

namespace LexKit.Tokenizer

variable {τ : Type} {cursor : Cursor} {first second : Tokenizer τ}
  {recognizers reordered later : List (Recognizer τ)}

/-- Of any two recognizers of the list, one declines. -/
def Exclusive (cursor : Cursor) (recognizers : List (Recognizer τ)) : Prop :=
  recognizers.Pairwise fun first second => Declines cursor first ∨ Declines cursor second

/-! ## Order in an attempt -/

theorem attempt_cons_congr (recognizer : Recognizer τ)
    (same : attempt cursor recognizers = attempt cursor reordered) :
    attempt cursor (recognizer :: recognizers) = attempt cursor (recognizer :: reordered) := by
  rcases declines_or_decides cursor recognizer with declines | ⟨result, decides⟩
  · rw [attempt_cons_of_declines declines, attempt_cons_of_declines declines, same]
  · rw [attempt_cons_of_decides decides, attempt_cons_of_decides decides]

/-- Neighbours of which one declines can change places. -/
theorem attempt_swap {one other : Recognizer τ} (exclusive : Declines cursor one ∨ Declines cursor other)
    (recognizers : List (Recognizer τ)) :
    attempt cursor (one :: other :: recognizers) = attempt cursor (other :: one :: recognizers) := by
  rcases exclusive with declines | declines
  · rw [attempt_cons_of_declines declines]
    exact attempt_cons_congr other (attempt_cons_of_declines declines recognizers).symm
  · rw [attempt_cons_of_declines declines (one :: recognizers)]
    exact attempt_cons_congr one (attempt_cons_of_declines declines recognizers)

theorem attempt_perm (perm : recognizers.Perm reordered) (exclusive : Exclusive cursor recognizers)
    (later : List (Recognizer τ)) :
    attempt cursor (recognizers ++ later) = attempt cursor (reordered ++ later) := by
  induction perm with
  | nil => rfl
  | cons recognizer perm ih => exact attempt_cons_congr recognizer (ih exclusive.of_cons)
  | swap one other recognizers =>
      have pair := (List.pairwise_cons.1 exclusive).1 one List.mem_cons_self
      exact attempt_swap pair (recognizers ++ later)
  | trans perm _ ih₁ ih₂ =>
      have between := perm.pairwise exclusive fun declines => declines.symm
      exact (ih₁ exclusive).trans (ih₂ between)

/-- Recognizers exclude each other if each looks for a key of its own and declines where another one stands. -/
theorem exclusive_of_keys {κ : Type} {here : κ} {keys : List κ}
    (looks : List.Forall₂ (fun recognizer key => here ≠ key → Declines cursor recognizer) recognizers keys)
    (distinct : keys.Nodup) : Exclusive cursor recognizers := by
  induction looks with
  | nil => exact .nil
  | @cons recognizer key recognizers keys looks rest ih =>
      obtain ⟨fresh, distinct⟩ := List.nodup_cons.1 distinct
      refine .cons (fun other member => ?_) (ih distinct)
      obtain ⟨index, inside, rfl⟩ := List.mem_iff_getElem.1 member
      have inside' : index < keys.length := rest.length_eq ▸ inside
      by_cases same : here = key
      · refine .inr (rest.get inside inside' ?_)
        rintro rfl
        exact fresh (same ▸ List.getElem_mem inside')
      · exact .inl (looks same)

/-! ## Order in a scan -/

/-- Tokenizers do the same scans from places of a kind if their attempts agree there wherever input is left, and
if passing characters leads to places of that kind only. -/
theorem scan_congr_on (kind : Cursor → Prop)
    (keeps : ∀ cursor count, kind cursor → kind (cursor.forward count))
    (same : ∀ cursor : Cursor, kind cursor → cursor.atEnd = false →
      attempt cursor first.recognizers = attempt cursor second.recognizers)
    {cursor : Cursor} (start : kind cursor) : first.scan cursor = second.scan cursor := by
  induction cursor using first.scanInduct with
  | atEnd cursor atEnd => rw [scan_of_atEnd atEnd, scan_of_atEnd atEnd]
  | halted cursor ending moved inside halts =>
      have halts' := (same cursor start inside).symm.trans halts
      rw [scan_of_halted inside halts, scan_of_halted inside halts']
  | accepted cursor token moved inside accepts ih =>
      have accepts' := (same cursor start inside).symm.trans accepts
      rw [scan_of_accepted inside accepts, scan_of_accepted inside accepts', ih (keeps cursor moved start)]

theorem scan_congr
    (same : ∀ cursor : Cursor, cursor.atEnd = false →
      attempt cursor first.recognizers = attempt cursor second.recognizers)
    (cursor : Cursor) : first.scan cursor = second.scan cursor :=
  scan_congr_on (fun _ => True) (fun _ _ start => start) (fun cursor _ => same cursor) trivial

theorem events_congr (scan : first.scan cursor = second.scan cursor) (length : first.length = second.length) :
    first.events cursor = second.events cursor := by
  rw [events_eq, events_eq, scan, length]

/-- Recognizers that exclude each other wherever input is left can be put in any order, whatever stands behind
them. -/
theorem scan_perm (perm : recognizers.Perm reordered)
    (exclusive : ∀ cursor : Cursor, cursor.atEnd = false → Exclusive cursor recognizers)
    (later : List (Recognizer τ)) (cursor : Cursor) :
    scan ⟨recognizers ++ later⟩ cursor = scan ⟨reordered ++ later⟩ cursor ∧
      events ⟨recognizers ++ later⟩ cursor = events ⟨reordered ++ later⟩ cursor := by
  have same : scan ⟨recognizers ++ later⟩ cursor = scan ⟨reordered ++ later⟩ cursor :=
    scan_congr (fun cursor inside => attempt_perm perm (exclusive cursor inside) later) cursor
  exact ⟨same, events_congr same (perm.append_right later).length_eq⟩

end LexKit.Tokenizer
