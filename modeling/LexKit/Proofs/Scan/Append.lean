import LexKit.Primitive
import LexKit.Proofs.Scan.Steps
import LexKit.Scripted
import LexKit.Token
import Mathlib.Control.Monad.Basic

/-!
# Scans with more recognizers behind

Recognizers that are put behind those of a tokenizer are asked only where all of the old ones decline. So a
longer list agrees with the old one up to the place where nothing of the old list applies, and at every other
end of a scan it changes nothing. This needs no rule to be kept by any recognizer.
-/

namespace LexKit.Tokenizer

variable {τ : Type} {first second : Tokenizer τ} {cursor : Cursor} {recognizers : List (Recognizer τ)}

theorem recognizers_append (first second : Tokenizer τ) :
    (first ++ second).recognizers = first.recognizers ++ second.recognizers := rfl

/-! ## One attempt -/

theorem declines_of_nothingApplies {moved : Nat}
    (nothing : attempt cursor recognizers = .halted .nothingApplies moved) :
    moved = 0 ∧ ∀ recognizer ∈ recognizers, Declines cursor recognizer := by
  rcases attempt_cases cursor recognizers with ⟨all, result⟩ | ⟨before, recognizer, after, -, -, decides⟩
  · rw [nothing] at result
    cases result
    exact ⟨rfl, all⟩
  · rw [nothing] at decides
    cases decides

theorem attempt_append_of_nothingApplies {moved : Nat}
    (nothing : attempt cursor recognizers = .halted .nothingApplies moved)
    (later : List (Recognizer τ)) :
    attempt cursor (recognizers ++ later) = attempt cursor later :=
  attempt_append_of_declines (declines_of_nothingApplies nothing).2 later

theorem attempt_append_of_ne
    (decides : attempt cursor recognizers ≠ .halted .nothingApplies 0) (later : List (Recognizer τ)) :
    attempt cursor (recognizers ++ later) = attempt cursor recognizers := by
  rcases attempt_cases cursor recognizers with ⟨-, nothing⟩ | ⟨before, recognizer, after, rfl, all, decided⟩
  · exact absurd nothing decides
  · rw [List.append_assoc, List.cons_append, attempt_append_of_declines all]
    exact attempt_cons_of_decides decided _

/-! ## The whole scan -/

theorem attempt_append_of_accepted {token : Option τ} {moved : Nat}
    (accepts : attempt cursor first.recognizers = .accepted token moved) (second : Tokenizer τ) :
    attempt cursor (first ++ second).recognizers = .accepted token moved := by
  have decides : attempt cursor first.recognizers ≠ .halted .nothingApplies 0 := by
    rw [accepts]
    exact nofun
  rw [recognizers_append, attempt_append_of_ne decides, accepts]

/-- Unless nothing of the old list applies, the longer list does just the same. -/
theorem scan_append_of_ne (stops : (first.scan cursor).ending ≠ .nothingApplies) (second : Tokenizer τ) :
    (first ++ second).scan cursor = first.scan cursor := by
  induction cursor using first.scanInduct with
  | atEnd cursor atEnd => rw [scan_of_atEnd atEnd, scan_of_atEnd atEnd]
  | halted cursor ending moved inside halts =>
      rw [scan_of_halted inside halts] at stops
      have decides : attempt cursor first.recognizers ≠ .halted .nothingApplies 0 := by
        intro same
        cases halts.symm.trans same
        exact stops rfl
      have same := attempt_append_of_ne decides second.recognizers
      rw [← recognizers_append, halts] at same
      rw [scan_of_halted inside same, scan_of_halted inside halts]
  | accepted cursor token moved inside accepts ih =>
      rw [scan_of_accepted inside accepts] at stops
      have same := attempt_append_of_accepted accepts second
      rw [scan_of_accepted inside same, scan_of_accepted inside accepts, ih stops]

/-- Where nothing of it applies, the longer list has come to the same place and goes on from there. -/
theorem scan_append_of_nothingApplies (stops : (first.scan cursor).ending = .nothingApplies)
    (second : Tokenizer τ) :
    (first ++ second).scan cursor =
      ((first ++ second).scan (first.scan cursor).final).behind (first.scan cursor).pieces := by
  induction cursor using first.scanInduct with
  | atEnd cursor atEnd =>
      rw [scan_of_atEnd atEnd] at stops
      cases stops
  | halted cursor ending moved inside halts =>
      rw [scan_of_halted inside halts] at stops ⊢
      obtain rfl : ending = .nothingApplies := stops
      obtain ⟨rfl, -⟩ := declines_of_nothingApplies halts
      rfl
  | accepted cursor token moved inside accepts ih =>
      rw [scan_of_accepted inside accepts] at stops ⊢
      have same := attempt_append_of_accepted accepts second
      rw [scan_of_accepted inside same, ih stops, Scan.behind_behind]
      rfl

theorem attempt_final_of_nothingApplies (stops : (first.scan cursor).ending = .nothingApplies) :
    (first.scan cursor).lastStart = (first.scan cursor).final ∧
      (first.scan cursor).final.atEnd = false ∧
      attempt (first.scan cursor).final first.recognizers = .halted .nothingApplies 0 := by
  rcases first.scan_ends cursor with ⟨atEnd, -, -⟩ | ⟨moved, inside, halts, final⟩
  · rw [stops] at atEnd
    cases atEnd
  · rw [stops] at halts
    obtain ⟨rfl, -⟩ := declines_of_nothingApplies halts
    have same : (first.scan cursor).final = (first.scan cursor).lastStart := final
    rw [same]
    exact ⟨rfl, inside, halts⟩

theorem attempt_final_append (stops : (first.scan cursor).ending = .nothingApplies)
    (second : Tokenizer τ) :
    attempt (first.scan cursor).final (first ++ second).recognizers =
      attempt (first.scan cursor).final second.recognizers := by
  obtain ⟨-, -, nothing⟩ := attempt_final_of_nothingApplies stops
  exact attempt_append_of_nothingApplies nothing second.recognizers

theorem scan_append_self (tokenizer : Tokenizer τ) (cursor : Cursor) :
    (tokenizer ++ tokenizer).scan cursor = tokenizer.scan cursor := by
  by_cases stops : (tokenizer.scan cursor).ending = .nothingApplies
  · obtain ⟨last, inside, halts⟩ := attempt_final_of_nothingApplies stops
    -- The copy is asked at the last place, and says nothing there either.
    have again := (attempt_final_append stops tokenizer).trans halts
    rw [scan_append_of_nothingApplies stops, scan_of_halted inside again]
    generalize tokenizer.scan cursor = scan at stops last
    cases scan
    cases last
    cases stops
    simp [Scan.behind, Cursor.forward]
  · exact scan_append_of_ne stops tokenizer

/-- Putting recognizers behind a tokenizer only extends its scans, whatever the recognizers do. A scan that fails,
comes to the end of the input, or is stopped by a recognizer that breaks a rule stays the same. A scan that
stops because nothing applies goes on at that place, where the recognizers behind decide alone, and keeps its
pieces and tokens in front. So a copy of the tokenizer adds nothing. -/
theorem append_only_extends (first second : Tokenizer τ) (cursor : Cursor) :
    let alone := first.scan cursor
    let joined := (first ++ second).scan cursor
    ((∃ error, alone.result = .error error) ∨ alone.final.atEnd = true ∨ alone.ending = .stalled ∨
        alone.ending = .strayed → joined = alone) ∧
    (alone.ending = .nothingApplies →
      let next := (first ++ second).scan alone.final
      alone.result = .ok alone.tokens ∧ joined = next.behind alone.pieces ∧
        joined.result = next.result.map (alone.tokens ++ ·) ∧
        attempt alone.final (first ++ second).recognizers =
          attempt alone.final second.recognizers) ∧
    (first ++ first).scan cursor = alone := by
  intro alone joined
  refine ⟨fun reason => ?_, fun stops => ?_, first.scan_append_self cursor⟩
  · apply scan_append_of_ne
    intro stops
    obtain ⟨-, inside, -⟩ := attempt_final_of_nothingApplies stops
    rcases reason with ⟨error, fails⟩ | atEnd | stalled | strayed
    · simp [alone, Scan.result, stops] at fails
    · cases inside.symm.trans atEnd
    · cases stops.symm.trans stalled
    · cases stops.symm.trans strayed
  · have goesOn : joined = ((first ++ second).scan alone.final).behind alone.pieces :=
      scan_append_of_nothingApplies stops second
    refine ⟨by simp [Scan.result, stops], goesOn, ?_, attempt_final_append stops second⟩
    rw [goesOn]
    exact Scan.result_behind alone.pieces _

/-- A text that the old list does not know is taken by the list behind; a recognizer that strays there hides it. -/
theorem append_only_extends_strays :
    let words : Tokenizer (Token Nat) := ofRules [.skip .blanks, .emit (.literal "ab") (Token.ofKind 0)]
    let marks : Tokenizer (Token Nat) := ofRules [.emit (.oneCharOf "é!") (Token.ofKind 1)]
    let strays : Tokenizer (Token Nat) :=
      words.orElse (Scripted.recognizer ⟨1, .noMatch, some "é"⟩ (Token.ofKind 2))
    let cursor := (Cursor.ofString "!ab éab").forward 1
    (words.scan cursor).ending = .nothingApplies ∧
      ((words ++ marks).scan cursor).result =
        .ok [⟨0, "ab", ⟨1, 3⟩⟩, ⟨1, "é", ⟨4, 6⟩⟩, ⟨0, "ab", ⟨6, 8⟩⟩] ∧
      (strays.scan cursor).ending = .strayed ∧
      ((strays ++ marks).scan cursor).result = .ok [⟨0, "ab", ⟨1, 3⟩⟩] := by
  intro words marks strays cursor
  have stops : (words.scan cursor).ending = .nothingApplies := by decide +kernel
  have known : (words.scan cursor).tokens = [⟨0, "ab", ⟨1, 3⟩⟩] := by decide +kernel
  have next : ((words ++ marks).scan (words.scan cursor).final).result =
      .ok [⟨1, "é", ⟨4, 6⟩⟩, ⟨0, "ab", ⟨6, 8⟩⟩] := by decide +kernel
  have strayed : (strays.scan cursor).ending = .strayed := by decide +kernel
  have alone : (strays.scan cursor).result = .ok [⟨0, "ab", ⟨1, 3⟩⟩] := by decide +kernel
  obtain ⟨-, -, goesOn, -⟩ := (append_only_extends words marks cursor).2.1 stops
  have same := (append_only_extends strays marks cursor).1 (.inr (.inr (.inr strayed)))
  refine ⟨stops, ?_, strayed, ?_⟩
  · rw [goesOn, next, known]
    rfl
  · rw [same, alone]

end LexKit.Tokenizer
