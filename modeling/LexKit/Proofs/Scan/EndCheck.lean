import LexKit.Proofs.Primitive.Attempt
import LexKit.Proofs.Scan.Append
import LexKit.Proofs.Scan.Discipline
import LexKit.Scripted
import LexKit.Sexpr.Tokenizer

/-!
# Scans with an end check

A check for the end of the input that stands behind the recognizers of a tokenizer is asked only where all
of them decline before the end. It turns that one ending into an error and changes nothing else that the scan
does, whatever stands behind the check. For recognizers that keep their rules the scan without the check
therefore says all about the scan with it.
-/

namespace LexKit

/-- The ending of a scan whose last attempt was made at a position, once all input has to be taken. -/
def Ending.checked (position : Nat) : Ending → Ending
  | .nothingApplies => .failed (.unexpectedTrailingInput position)
  | ending => ending

namespace Scan

variable {τ : Type}

def checked (scan : Scan τ) : Scan τ :=
  { scan with ending := scan.ending.checked scan.lastStart.position }

theorem checked_of_ne {scan : Scan τ} (takes : scan.ending ≠ .nothingApplies) : scan.checked = scan := by
  have kept : scan.ending.checked scan.lastStart.position = scan.ending := by
    cases ending : scan.ending with
    | nothingApplies => exact absurd ending takes
    | atEnd | strayed | stalled | failed error => rfl
  unfold checked
  rw [kept]

/-- How a scan with an end check follows from the scan without one: an error is the same error, a scan up to
the end of the input is the same scan, and one that leaves input is an error at the place where it stops. -/
structure ChecksTo (alone checked : Scan τ) : Prop where
  fails : ∀ error, alone.result = .error error →
    checked.result = .error error ∧ checked.final = alone.final
  ends : ∀ tokens, alone.result = .ok tokens → alone.final.atEnd = true →
    checked.result = .ok tokens ∧ checked.final = alone.final
  trails : ∀ tokens, alone.result = .ok tokens → alone.final.atEnd = false →
    checked.result = .error (.unexpectedTrailingInput alone.final.position) ∧
      checked.final = alone.final

end Scan

namespace Tokenizer

variable {τ : Type} {tokenizer : Tokenizer τ} {cursor : Cursor} {recognizers later : List (Recognizer τ)}

def endCheck : Recognizer τ := (Rule.skip .endOfInput).recognizer

/-! ## One attempt -/

theorem attempt_endCheck (inside : cursor.atEnd = false) (later : List (Recognizer τ)) :
    attempt cursor (endCheck :: later) =
      .halted (.failed (.unexpectedTrailingInput cursor.position)) 0 := by
  have fails : Primitive.endMatcher cursor = .still (.failed (.unexpectedTrailingInput cursor.position)) := by
    simp [Primitive.endMatcher, inside]
  exact attempt_of_failed (.skip .endOfInput) fails later

/-! ## The whole scan -/

/-- What the check makes of a scan, for recognizers before and behind it that do as they like. -/
theorem scan_orElse_endCheck (tokenizer later : Tokenizer τ) (cursor : Cursor) :
    (tokenizer.orElse endCheck ++ later).scan cursor = (tokenizer.scan cursor).checked := by
  have joined : tokenizer.orElse endCheck ++ later =
      tokenizer ++ (⟨endCheck :: later.recognizers⟩ : Tokenizer τ) := by
    change Tokenizer.append _ _ = Tokenizer.append _ _
    simp [append, orElse]
  by_cases stops : (tokenizer.scan cursor).ending = .nothingApplies
  · obtain ⟨last, inside, -⟩ := attempt_final_of_nothingApplies stops
    -- At the last place the check is asked, and it fails there.
    have fails := (attempt_final_append stops ⟨endCheck :: later.recognizers⟩).trans
      (attempt_endCheck inside later.recognizers)
    rw [joined, scan_append_of_nothingApplies stops, scan_of_halted inside fails]
    generalize tokenizer.scan cursor = scan at stops last
    cases scan
    cases last
    cases stops
    simp [Scan.behind, Scan.checked, Ending.checked, Cursor.forward]
  · rw [joined, scan_append_of_ne stops, Scan.checked_of_ne stops]

theorem checksTo_checked (keeps : ∀ recognizer ∈ tokenizer.recognizers, KeepsRules recognizer)
    (cursor : Cursor) : (tokenizer.scan cursor).ChecksTo (tokenizer.scan cursor).checked := by
  have ends := tokenizer.scan_endsAs cursor
  have endings := scan_ending_of_keepsRules keeps cursor
  generalize tokenizer.scan cursor = scan at ends endings
  rcases endings with ending | ending | ⟨error, ending⟩
  · rw [ending] at ends
    have atEnd : scan.final.atEnd = true := by rw [ends.2, ends.1]
    have same : scan.checked.result = scan.result := by
      simp [Scan.result, Scan.checked, ending, Ending.checked, Scan.tokens]
    refine ⟨fun error fails => ⟨same.trans fails, rfl⟩, fun tokens succeeds _ => ⟨same.trans succeeds, rfl⟩, ?_⟩
    intro tokens _ inside
    rw [atEnd] at inside
    cases inside
  · rw [ending] at ends
    have inside : scan.final.atEnd = false := by rw [ends.2, ends.1]
    have succeeds : scan.result = .ok scan.tokens := by simp [Scan.result, ending]
    have trailing : scan.checked.result =
        .error (.unexpectedTrailingInput scan.final.position) := by
      simp [Scan.result, Scan.checked, ending, Ending.checked, ends.2]
    refine ⟨?_, ?_, fun _ _ _ => ⟨trailing, rfl⟩⟩
    · intro error fails
      rw [succeeds] at fails
      cases fails
    · intro tokens _ atEnd
      rw [inside] at atEnd
      cases atEnd
  · have failed : scan.result = .error error := by simp [Scan.result, ending]
    have same : scan.checked.result = .error error := by
      simp [Scan.result, Scan.checked, ending, Ending.checked]
    refine ⟨?_, ?_, ?_⟩
    · intro other fails
      rw [failed] at fails
      cases fails
      exact ⟨same, rfl⟩
    all_goals
      intro tokens succeeds
      rw [failed] at succeeds
      cases succeeds

theorem tokenizer_checked (style : Sexpr.QuoteStyle) :
    Sexpr.tokenizer style true = (Sexpr.tokenizer style false).orElse endCheck ++ empty := by
  change ofRules _ = Tokenizer.append _ _
  simp [ofRules, Sexpr.tokenizer, Sexpr.endRules, orElse, append, empty, endCheck]

/-- The scan without an end check determines the scan with one, if the recognizers before the check keep the
rules; those behind it never matter. The two tokenizers of s-expressions are such a pair. -/
theorem scan_determines_checked :
    (∀ (τ : Type) (tokenizer : Tokenizer τ),
      (∀ recognizer ∈ tokenizer.recognizers, KeepsRules recognizer) →
      ∀ (later : Tokenizer τ) (cursor : Cursor),
        (tokenizer.scan cursor).ChecksTo ((tokenizer.orElse endCheck ++ later).scan cursor) ∧
        ∀ others : Tokenizer τ, (tokenizer.orElse endCheck ++ others).scan cursor =
          (tokenizer.orElse endCheck ++ later).scan cursor) ∧
    ∀ (style : Sexpr.QuoteStyle) (source : String),
      ((Sexpr.tokenizer style false).scanString source).ChecksTo
        ((Sexpr.tokenizer style true).scanString source) := by
  constructor
  · intro τ tokenizer keeps later cursor
    rw [scan_orElse_endCheck]
    refine ⟨checksTo_checked keeps cursor, fun others => ?_⟩
    exact scan_orElse_endCheck tokenizer others cursor
  · intro style source
    unfold scanString
    rw [tokenizer_checked, scan_orElse_endCheck]
    exact checksTo_checked keepsRules_of_mem_ofRules _

/-- Input is left behind a character that was passed before, and a recognizer behind the check would take it. -/
theorem scan_determines_checked_trailing :
    let tokenizer : Tokenizer (Token Nat) :=
      ofRules [.skip .blanks, .emit (.literal "ab") (Token.ofKind 0)]
    let later : Tokenizer (Token Nat) :=
      ⟨[Scripted.recognizer ⟨1, .matched, none⟩ (Token.ofKind 1)]⟩
    let cursor := (Cursor.ofString "éab éab").forward 1
    (∀ recognizer ∈ tokenizer.recognizers, KeepsRules recognizer) ∧
      (tokenizer.scan cursor).result = .ok [⟨0, "ab", ⟨2, 4⟩⟩] ∧
      ((tokenizer.orElse endCheck ++ later).scan cursor).result =
        .error (.unexpectedTrailingInput 5) := by
  intro tokenizer later cursor
  have keeps : ∀ recognizer ∈ tokenizer.recognizers, KeepsRules recognizer :=
    keepsRules_of_mem_ofRules
  have alone : (tokenizer.scan cursor).result = .ok [⟨0, "ab", ⟨2, 4⟩⟩] := by decide +kernel
  have stops : (tokenizer.scan cursor).final.position = 5 := by decide +kernel
  have checks := (scan_determines_checked.1 _ tokenizer keeps later cursor).1
  obtain ⟨trailing, -⟩ := checks.trails _ alone (by decide +kernel)
  rw [stops] at trailing
  exact ⟨keeps, alone, trailing⟩

end Tokenizer

end LexKit
