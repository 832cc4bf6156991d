import LexKit.Primitive
import LexKit.Proofs.Scan.Course

/-!
# Making tokens

What is made of a text that a scan finds has no part in the scan. Take a list of recognizers in which it is left
open what becomes of the texts that some of the matchers give. A scan that only writes down which text was found
by which of them then says all about the scan with any tokens put in, or with none.
-/

namespace LexKit

variable {σ τ : Type}

/-- What a scan finds: a token, or a text of which nothing is made yet and the number of its recognizer. -/
inductive Found (τ : Type) where
  | token (token : τ)
  | pending (slot : Nat) (text : String) (span : Span)
deriving Repr, DecidableEq

/-- For each number of a recognizer, how tokens are made of its texts, unless it makes none. -/
abbrev Making (τ : Type) := Nat → Option (String → Span → τ)

namespace Found

def withToken (token : Nat → String → Span → τ) : Found τ → τ
  | .token value => value
  | .pending slot text span => token slot text span

def make (making : Making τ) : Found τ → Option τ
  | .token value => some value
  | .pending slot text span => (making slot).map fun token => token text span

def isOf (slots : Nat → Bool) : Found τ → Bool
  | .token _ => false
  | .pending slot _ _ => slots slot

theorem make_some (token : Nat → String → Span → τ) :
    make (fun slot => some (token slot)) = some ∘ withToken token := by
  funext found
  cases found <;> rfl

theorem make_unless (skipped : Nat → Bool) (token : Nat → String → Span → τ) :
    make (fun slot => if skipped slot then none else some (token slot)) =
      fun found : Found τ => if !found.isOf skipped then some (found.withToken token) else none := by
  funext found
  cases found with
  | token value => rfl
  | pending slot text span =>
      by_cases is : skipped slot = true <;> simp [make, isOf, withToken, is]

end Found

/-- A recognizer of a list, or a matcher for which it is open what becomes of its texts. -/
inductive Slot (τ : Type) where
  | closed (recognizer : Recognizer τ)
  | opened (matcher : Matcher)

namespace Slot

/-- The recognizer that makes tokens as it is told, or none. -/
def fill (token : Option (String → Span → τ)) : Slot τ → Recognizer τ
  | .closed recognizer => recognizer
  | .opened matcher =>
      match token with
      | some token => matcher.emit token
      | none => matcher.skip

/-- The recognizer that writes down what it finds. -/
def record (number : Nat) : Slot τ → Recognizer (Found τ)
  | .closed recognizer => fun cursor => (recognizer cursor).map (Option.map .token)
  | .opened matcher => matcher.emit (.pending number)

end Slot

/-! ## Tokens made of what was found -/

def Recognizer.remake (make : σ → Option τ) (recognizer : Recognizer σ) : Recognizer τ := fun cursor =>
  (recognizer cursor).map (·.bind make)

def Attempt.remake (make : σ → Option τ) : Attempt σ → Attempt τ
  | .accepted token moved => .accepted (token.bind make) moved
  | .halted ending moved => .halted ending moved

def Piece.remake (make : σ → Option τ) (piece : Piece σ) : Piece τ := ⟨piece.token.bind make, piece.span⟩

def Scan.remake (make : σ → Option τ) (scan : Scan σ) : Scan τ :=
  ⟨scan.pieces.map (Piece.remake make), scan.ending, scan.lastStart, scan.final⟩

theorem Step.map_map {α β γ : Type} (f : α → β) (g : β → γ) (step : Step α) :
    (step.map f).map g = step.map (g ∘ f) := by
  obtain ⟨outcome, moved⟩ := step
  cases outcome <;> rfl

theorem Step.map_id {α : Type} (step : Step α) : step.map id = step := by
  obtain ⟨outcome, moved⟩ := step
  cases outcome <;> rfl

/-- To make tokens, or none, is to make them of what was written down. -/
theorem Slot.fill_eq_remake (slot : Slot τ) (making : Making τ) (number : Nat) :
    slot.fill (making number) = Recognizer.remake (Found.make making) (slot.record number) := by
  funext cursor
  cases slot with
  | closed recognizer =>
      have same : ((·.bind (Found.make making)) ∘ Option.map Found.token : Option τ → Option τ) = id := by
        funext token
        cases token <;> rfl
      show recognizer cursor = ((recognizer cursor).map _).map _
      rw [Step.map_map, same, Step.map_id]
  | opened matcher =>
      cases is : making number
      all_goals
        show (matcher cursor).map _ = ((matcher cursor).map _).map _
        rw [Step.map_map]
        congr 1
        funext extract
        cases text : extract.text <;> simp [text, Found.make, is]

namespace Scan

theorem remake_behind (make : σ → Option τ) (before : List (Piece σ)) (scan : Scan σ) :
    (scan.behind before).remake make = (scan.remake make).behind (before.map (Piece.remake make)) := by
  simp [remake, behind]

theorem tokens_remake (make : σ → Option τ) (scan : Scan σ) :
    (scan.remake make).tokens = scan.tokens.filterMap make := by
  unfold tokens remake
  rw [List.filterMap_map, List.filterMap_filterMap]
  rfl

/-- Two scans that differ in their tokens only. -/
structure SameCourse (first second : Scan τ) : Prop where
  final_eq : first.final = second.final
  lastStart_eq : first.lastStart = second.lastStart
  ending_eq : first.ending = second.ending
  spans_eq : first.pieces.map (·.span) = second.pieces.map (·.span)
  stopEvents_eq : first.stopEvents = second.stopEvents
  fails_iff : ∀ error, first.result = .error error ↔ second.result = .error error

theorem sameCourse_remake (first second : σ → Option τ) (scan : Scan σ) :
    (scan.remake first).SameCourse (scan.remake second) := by
  refine ⟨rfl, rfl, rfl, ?_, rfl, fun error => ?_⟩
  · simp only [remake, List.map_map]
    rfl
  · cases ending : scan.ending <;> simp [result, remake, ending]

end Scan

namespace Tokenizer

variable {cursor : Cursor} {recognizer : Recognizer σ}

theorem Declines.remake (declines : Declines cursor recognizer) (make : σ → Option τ) :
    Declines cursor (recognizer.remake make) := by
  obtain ⟨outcome, still⟩ := declines
  exact ⟨by simp [Recognizer.remake, Step.map, Outcome.map, outcome], still⟩

theorem Decides.remake {result : Attempt σ} (decides : Decides cursor recognizer result)
    (make : σ → Option τ) : Decides cursor (Recognizer.remake make recognizer) (result.remake make) := by
  have same : (Recognizer.remake make recognizer cursor).outcome =
      (recognizer cursor).outcome.map (·.bind make) := rfl
  cases decides with
  | accepts outcome moves => exact .accepts (by rw [same, outcome]; rfl) moves
  | strays outcome moves => exact .strays (by rw [same, outcome]; rfl) moves
  | stalls outcome still => exact .stalls (by rw [same, outcome]; rfl) still
  | fails outcome => exact .fails (by rw [same, outcome]; rfl)

theorem attempt_remake (make : σ → Option τ) (cursor : Cursor) (recognizers : List (Recognizer σ)) :
    attempt cursor (recognizers.map (Recognizer.remake make)) =
      (attempt cursor recognizers).remake make := by
  induction recognizers with
  | nil => rfl
  | cons recognizer recognizers ih =>
      rw [List.map_cons]
      rcases declines_or_decides cursor recognizer with declines | ⟨result, decides⟩
      · rw [attempt_cons_of_declines declines, attempt_cons_of_declines (declines.remake make), ih]
      · rw [attempt_cons_of_decides decides, attempt_cons_of_decides (decides.remake make)]

/-- The scan with tokens made of what is found, step by step, is the scan of what is found with tokens made. -/
theorem scan_remake (make : σ → Option τ) (recognizers : List (Recognizer σ)) (cursor : Cursor) :
    scan ⟨recognizers.map (Recognizer.remake make)⟩ cursor = (scan ⟨recognizers⟩ cursor).remake make := by
  induction cursor using scanInduct ⟨recognizers⟩ with
  | atEnd cursor atEnd =>
      rw [scan_of_atEnd atEnd, scan_of_atEnd atEnd]
      rfl
  | halted cursor ending moved inside halts =>
      have same := attempt_remake make cursor recognizers
      rw [halts] at same
      rw [scan_of_halted inside same, scan_of_halted inside halts]
      rfl
  | accepted cursor token moved inside accepts ih =>
      have same := attempt_remake make cursor recognizers
      rw [accepts] at same
      rw [scan_of_accepted inside same, scan_of_accepted inside accepts, ih, Scan.remake_behind]
      rfl

/-! ## Lists of recognizers with open tokens -/

def fill (slots : List (Slot τ)) (making : Making τ) : Tokenizer τ :=
  ⟨slots.mapIdx fun number slot => slot.fill (making number)⟩

def record (slots : List (Slot τ)) : Tokenizer (Found τ) := ⟨slots.mapIdx Slot.record⟩

theorem scan_fill (slots : List (Slot τ)) (making : Making τ) (cursor : Cursor) :
    (fill slots making).scan cursor = ((record slots).scan cursor).remake (Found.make making) := by
  unfold fill record
  have filled : (slots.mapIdx fun number slot => slot.fill (making number)) =
      (slots.mapIdx Slot.record).map (Recognizer.remake (Found.make making)) := by
    apply List.ext_getElem?
    intro number
    rw [List.getElem?_map, List.getElem?_mapIdx, List.getElem?_mapIdx, Option.map_map]
    congr 1
    funext slot
    exact slot.fill_eq_remake making number
  rw [filled, scan_remake]

/-- What is made of texts never steers a scan. With any tokens, or with none, for any of the matchers that the
list leaves open, the scan goes the same way from every place: it accepts the same ranges, stops for the same
reason and at the same place, and gives the same error. Its tokens are those made of the same finds: with tokens
for all of them one for each find, and where some are skipped, without theirs and in the same order. -/
theorem making_never_steers (slots : List (Slot τ)) (cursor : Cursor) :
    let scan := fun making : Making τ => (fill slots making).scan cursor
    let found := ((record slots).scan cursor).tokens
    (∀ first second, (scan first).SameCourse (scan second)) ∧
    (∀ making, (scan making).tokens = found.filterMap (Found.make making)) ∧
    ∀ token : Nat → String → Span → τ,
      (scan fun slot => some (token slot)).tokens = found.map (Found.withToken token) ∧
      ∀ skipped : Nat → Bool,
        (scan fun slot => if skipped slot then none else some (token slot)).tokens =
          (found.filter fun find => !find.isOf skipped).map (Found.withToken token) := by
  intro scan found
  have tokens (making : Making τ) : (scan making).tokens = found.filterMap (Found.make making) := by
    simp only [scan, scan_fill, Scan.tokens_remake, found]
  refine ⟨fun first second => ?_, tokens, fun token => ⟨?_, fun skipped => ?_⟩⟩
  · simp only [scan, scan_fill]
    exact Scan.sameCourse_remake _ _ _
  · rw [tokens, Found.make_some, List.filterMap_eq_map]
  · rw [tokens, Found.make_unless, ← List.filterMap_filter]
    exact congrFun List.filterMap_eq_map _

/-- A letter with one token, with another one, and with none. -/
theorem making_never_steers_letter :
    let slots : List (Slot Nat) := [.opened (Primitive.literal "ab").matcher, .opened Primitive.blanks.matcher,
      .closed (Rule.emit (.oneCharOf "xy") fun _ span => span.start).recognizer,
      .opened (Primitive.literal "é").matcher]
    let token := fun (slot : Nat) (text : String) (_ : Span) => 10 * slot + text.length
    let other := fun (slot : Nat) (text : String) (span : Span) =>
      if slot = 3 then span.stop else token slot text span
    let tokens := fun making => ((fill slots making).scanString "ab xé,").tokens
    (tokens fun slot => some (token slot)) = [2, 3, 31] ∧ (tokens fun slot => some (other slot)) = [2, 3, 6] ∧
      (tokens fun slot => if slot == 3 then none else some (token slot)) = [2, 3] := by
  intro slots token other tokens
  have found : ((record slots).scanString "ab xé,").tokens =
      [.pending 0 "ab" ⟨0, 2⟩, .token 3, .pending 3 "é" ⟨4, 6⟩] := by
    decide +kernel
  obtain ⟨-, -, made⟩ := making_never_steers slots (Cursor.ofString "ab xé,")
  refine ⟨?_, ?_, ?_⟩
  · exact (made token).1.trans (congrArg (List.map (Found.withToken token)) found)
  · exact (made other).1.trans (congrArg (List.map (Found.withToken other)) found)
  · exact ((made token).2 (· == 3)).trans
      (congrArg (fun found => (found.filter fun find => !find.isOf (· == 3)).map (Found.withToken token)) found)

end Tokenizer

end LexKit
