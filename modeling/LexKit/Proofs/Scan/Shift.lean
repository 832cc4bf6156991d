import LexKit.Proofs.Primitive.Bytewise
import LexKit.Proofs.Primitive.Shift
import LexKit.Proofs.Scan.Course
import LexKit.Token

/-!
# Scans behind a text

What was passed before a scan has no part in it. Recognizers that find the same behind any text decide the
same at every place, so the whole scan is the same, its pieces, its ending and all that it tells moved by the
length of the text in front. This includes patterns that ask for the start of the text or for the edge of a
word, since a pattern is told nothing of what was passed.
-/

namespace LexKit

open Text

variable {τ : Type} (value : τ → Nat → τ)

/-! ## Parts of a scan at another place -/

def Piece.shift (piece : Piece τ) (bytes : Nat) : Piece τ :=
  ⟨piece.token.map (value · bytes), piece.span.shift bytes⟩

def Ending.shift (ending : Ending) (bytes : Nat) : Ending :=
  match ending with
  | .failed error => .failed (error.shift bytes)
  | ending => ending

def Attempt.shift (attempt : Attempt τ) (bytes : Nat) : Attempt τ :=
  match attempt with
  | .accepted token moved => .accepted (token.map (value · bytes)) moved
  | .halted ending moved => .halted (ending.shift bytes) moved

/-- The event with all that it says of places moved; the count of bytes that are left is no place. -/
def Event.shift (event : Event) (bytes : Nat) : Event :=
  match event with
  | .started position recognizers => .started (position + bytes) recognizers
  | .token span => .token (span.shift bytes)
  | .skipped span => .skipped (span.shift bytes)
  | .strayed position => .strayed (position + bytes)
  | .stalled position => .stalled (position + bytes)
  | .nothingApplies position left => .nothingApplies (position + bytes) left
  | .failed error => .failed (error.shift bytes)
  | .produced tokens => .produced tokens

def shiftResult (result : Except ScanError (List τ)) (bytes : Nat) : Except ScanError (List τ) :=
  match result with
  | .ok tokens => .ok (tokens.map (value · bytes))
  | .error error => .error (error.shift bytes)

namespace Scan

def prepend (front : List Char) (scan : Scan τ) : Scan τ :=
  ⟨scan.pieces.map (Piece.shift value · (byteLength front)), scan.ending.shift (byteLength front),
    scan.lastStart.prepend front, scan.final.prepend front⟩

variable (front : List Char) (scan : Scan τ)

theorem prepend_behind (before : List (Piece τ)) :
    (scan.behind before).prepend value front =
      (scan.prepend value front).behind (before.map (Piece.shift value · (byteLength front))) := by
  simp [prepend, behind]

theorem tokens_prepend :
    (scan.prepend value front).tokens = scan.tokens.map (value · (byteLength front)) := by
  unfold tokens prepend
  rw [List.filterMap_map, List.map_filterMap]
  rfl

theorem result_prepend :
    (scan.prepend value front).result = shiftResult value scan.result (byteLength front) := by
  have ending : (scan.prepend value front).ending = scan.ending.shift (byteLength front) := rfl
  unfold result
  rw [ending, tokens_prepend]
  cases scan.ending <;> rfl

theorem stopEvents_prepend :
    (scan.prepend value front).stopEvents =
      scan.stopEvents.map (Event.shift · (byteLength front)) := by
  have ending : (scan.prepend value front).ending = scan.ending.shift (byteLength front) := rfl
  unfold stopEvents
  rw [ending]
  cases scan.ending <;> rfl

theorem lastEvent_prepend :
    (scan.prepend value front).lastEvent = scan.lastEvent.shift (byteLength front) := by
  unfold lastEvent
  rw [result_prepend]
  cases scan.result with
  | ok tokens => simp [shiftResult, Event.shift]
  | error error => rfl

end Scan

theorem Piece.event_shift (piece : Piece τ) (bytes : Nat) :
    (piece.shift value bytes).event = piece.event.shift bytes := by
  unfold event
  cases token : piece.token <;> simp [shift, token, Event.shift]

namespace Tokenizer

/-! ## The scan -/

variable {value}

def AllShiftInvariant (value : τ → Nat → τ) (recognizers : List (Recognizer τ)) : Prop :=
  ∀ recognizer ∈ recognizers, ShiftInvariant (fun found bytes => found.map (value · bytes)) recognizer

theorem attempt_prepend {recognizers : List (Recognizer τ)} (invariant : AllShiftInvariant value recognizers)
    (front : List Char) (cursor : Cursor) :
    attempt (cursor.prepend front) recognizers =
      (attempt cursor recognizers).shift value (byteLength front) := by
  induction recognizers with
  | nil => rfl
  | cons recognizer recognizers ih =>
      have step := invariant recognizer List.mem_cons_self front cursor
      have rest := ih fun other member => invariant other (List.mem_cons_of_mem _ member)
      -- The step moves the cursor just where it does without the text in front.
      have moves : ((recognizer (cursor.prepend front)).next (cursor.prepend front)).position ≠
          (cursor.prepend front).position ↔
          ((recognizer cursor).next cursor).position ≠ cursor.position := by
        rw [step, Step.next_shift, Cursor.prepend_position, Cursor.prepend_position]
        omega
      simp only [attempt, rest, moves]
      rw [step]
      cases found : (recognizer cursor).outcome with
      | noMatch | matched _ =>
          simp only [Step.shift, Outcome.shift, found]
          split <;> rfl
      | failed error => simp only [Step.shift, Outcome.shift, found]; rfl

theorem scan_prepend {tokenizer : Tokenizer τ} (invariant : AllShiftInvariant value tokenizer.recognizers)
    (front : List Char) (cursor : Cursor) :
    tokenizer.scan (cursor.prepend front) = (tokenizer.scan cursor).prepend value front := by
  induction cursor using tokenizer.scanInduct with
  | atEnd cursor atEnd =>
      have ends : (cursor.prepend front).atEnd = true := atEnd
      rw [scan_of_atEnd ends, scan_of_atEnd atEnd]
      rfl
  | halted cursor ending moved inside halts =>
      have inside' : (cursor.prepend front).atEnd = false := inside
      have same := attempt_prepend invariant front cursor
      rw [halts] at same
      rw [scan_of_halted inside' same, scan_of_halted inside halts, Cursor.forward_prepend]
      rfl
  | accepted cursor token moved inside accepts ih =>
      have inside' : (cursor.prepend front).atEnd = false := inside
      have same := attempt_prepend invariant front cursor
      rw [accepts] at same
      rw [scan_of_accepted inside' same, scan_of_accepted inside accepts, Cursor.forward_prepend, ih,
        Scan.prepend_behind]
      rfl

theorem events_prepend {tokenizer : Tokenizer τ} (invariant : AllShiftInvariant value tokenizer.recognizers)
    (front : List Char) (cursor : Cursor) :
    tokenizer.events (cursor.prepend front) =
      (tokenizer.events cursor).map (Event.shift · (byteLength front)) := by
  have pieces : ((tokenizer.scan cursor).prepend value front).pieces.map Piece.event =
      ((tokenizer.scan cursor).pieces.map Piece.event).map (Event.shift · (byteLength front)) := by
    simp [Scan.prepend, Piece.event_shift]
  simp only [events_eq, scan_prepend invariant, pieces, Scan.stopEvents_prepend, Scan.lastEvent_prepend,
    List.map_append, List.map_cons, List.map_nil, List.cons_append]
  rfl

end Tokenizer

/-! ## All that comes with the library -/

/-- The built-in matchers and the scripted ones. -/
inductive Matcher.Known : Matcher → Prop where
  | builtIn (primitive : Primitive) : Known primitive.matcher
  | scripted (script : Scripted) : Known script.matcher

/-- The recognizers made of them that skip, or make tokens that move with their spans, as `value` says. -/
inductive Recognizer.Known (value : τ → Nat → τ) : Recognizer τ → Prop where
  | emit {matcher : Matcher} {token : String → Span → τ} (known : Matcher.Known matcher)
      (moves : ∀ text span bytes, token text (span.shift bytes) = value (token text span) bytes) :
      Known value (Matcher.emit matcher token)
  | skip {matcher : Matcher} (known : Matcher.Known matcher) : Known value (Matcher.skip matcher)

theorem Matcher.Known.shift {matcher : Matcher} (known : Known matcher) :
    ShiftInvariant Extract.shift matcher := by
  cases known with
  | builtIn primitive => exact primitive.matcher_shift
  | scripted script => exact script.matcher_shift

theorem Recognizer.Known.shift {value : τ → Nat → τ} {recognizer : Recognizer τ}
    (known : Known value recognizer) :
    ShiftInvariant (fun found bytes => found.map (value · bytes)) recognizer := by
  cases known with
  | emit known moves => exact Matcher.emit_shift known.shift moves
  | skip known => exact Matcher.skip_shift known.shift

theorem Recognizer.known_ofKind {κ : Type} {matcher : Matcher} (known : Matcher.Known matcher) (kind : κ) :
    Known Token.shift (Matcher.emit matcher (Token.ofKind kind)) :=
  .emit known fun _ _ _ => rfl

/-- Behind any text, built-in and scripted matchers, the recognizers made of them and the tokenizers made of
these do what they do at the start of the input. Spans, errors, events and the final position move by the
length of the text in front, and tokens as `value` says; outcomes, texts and the number of tokens stay. -/
theorem behind_front_as_at_start (value : τ → Nat → τ) (front text : String) :
    let far := (Cursor.ofString (front ++ text)).forward front.length
    let near := Cursor.ofString text
    let bytes := front.utf8ByteSize
    far.text = (front ++ text).toList ∧ far.position = bytes ∧ near.position = 0 ∧
    (∀ matcher : Matcher, Matcher.Known matcher →
      (matcher far).outcome = (matcher near).outcome.shift Extract.shift bytes ∧
        ((matcher far).next far).position = ((matcher near).next near).position + bytes) ∧
    (∀ recognizer : Recognizer τ, Recognizer.Known value recognizer →
      (recognizer far).outcome = (recognizer near).outcome.shift
          (fun found bytes => found.map (value · bytes)) bytes ∧
        ((recognizer far).next far).position = ((recognizer near).next near).position + bytes) ∧
    ∀ tokenizer : Tokenizer τ,
      (∀ recognizer ∈ tokenizer.recognizers, Recognizer.Known value recognizer) →
      (tokenizer.scan far).result = shiftResult value (tokenizer.scan near).result bytes ∧
        (tokenizer.scan far).ending = (tokenizer.scan near).ending.shift bytes ∧
        (tokenizer.scan far).final.position = (tokenizer.scan near).final.position + bytes ∧
        tokenizer.events far = (tokenizer.events near).map (Event.shift · bytes) := by
  intro far near bytes
  have place : far = near.prepend front.toList := Cursor.forward_length_ofString front text
  have size : byteLength front.toList = bytes := (utf8ByteSize_eq front).symm
  refine ⟨?_, ?_, rfl, ?_, ?_, ?_⟩
  · exact Cursor.forward_text _ _
  · rw [place, Cursor.prepend_position, size]
    exact Nat.zero_add bytes
  · intro matcher known
    have step := known.shift front.toList near
    rw [← size, place, step, Step.next_shift]
    exact ⟨rfl, rfl⟩
  · intro recognizer known
    have step := known.shift front.toList near
    rw [← size, place, step, Step.next_shift]
    exact ⟨rfl, rfl⟩
  · intro tokenizer known
    have invariant : Tokenizer.AllShiftInvariant value tokenizer.recognizers :=
      fun recognizer member => (known recognizer member).shift
    rw [← size, place, Tokenizer.scan_prepend invariant, Tokenizer.events_prepend invariant,
      Scan.result_prepend]
    exact ⟨rfl, rfl, rfl, rfl⟩

/-- The edge of a word and the start of the text, behind a letter that would hide both. -/
theorem behind_front_as_at_start_edges :
    let edge := Primitive.pattern (.ofValid "\\bb" (by decide +kernel))
    let start := Primitive.pattern (.ofValid "^c" (by decide +kernel))
    let tokenizer : Tokenizer (Token Nat) :=
      ⟨[Matcher.emit edge.matcher (Token.ofKind 0), Matcher.emit start.matcher (Token.ofKind 1)]⟩
    let far := (Cursor.ofString ("é" ++ "bcb")).forward 1
    Matcher.Known edge.matcher ∧
      (∀ recognizer ∈ tokenizer.recognizers, Recognizer.Known Token.shift recognizer) ∧
      (edge.matcher far).outcome = .matched ⟨some "b", ⟨2, 3⟩⟩ ∧
      tokenizer.events far =
        [.started 2 2, .token ⟨2, 3⟩, .token ⟨3, 4⟩, .token ⟨4, 5⟩, .produced 3] := by
  intro edge start tokenizer far
  have known : ∀ recognizer ∈ tokenizer.recognizers, Recognizer.Known Token.shift recognizer := by
    intro recognizer member
    simp only [tokenizer, List.mem_cons, List.not_mem_nil, or_false] at member
    rcases member with rfl | rfl
    · exact Recognizer.known_ofKind (.builtIn edge) 0
    · exact Recognizer.known_ofKind (.builtIn start) 1
  have finds : (edge.matcher (Cursor.ofString "bcb")).outcome = .matched ⟨some "b", ⟨0, 1⟩⟩ := by
    decide +kernel
  have tells : tokenizer.events (Cursor.ofString "bcb") =
      [.started 0 2, .token ⟨0, 1⟩, .token ⟨1, 2⟩, .token ⟨2, 3⟩, .produced 3] := by
    decide +kernel
  obtain ⟨-, -, -, matchers, -, tokenizers⟩ := @behind_front_as_at_start (Token Nat) Token.shift "é" "bcb"
  have outcome := (matchers edge.matcher (.builtIn edge)).1
  have events := (tokenizers tokenizer known).2.2.2
  rw [finds] at outcome
  rw [tells] at events
  exact ⟨.builtIn edge, known, outcome.trans (by decide), events.trans (by decide)⟩

end LexKit
