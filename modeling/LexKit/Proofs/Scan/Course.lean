import LexKit.Log
import LexKit.Proofs.Scan.Steps
import Mathlib.Logic.ExistsUnique

/-!
# The course of a scan

What a scan tells agrees with what it does, for recognizers that may break every rule. The accepted pieces
cover the input from the first place to the last one without gaps, and each passes at least one byte, so
places never come back and a scan asks a recognizer at most once at each of them. Five endings are possible,
and what the scan tells before its last event, its result and the place where it leaves the cursor show
which one it was.
-/

namespace LexKit

open Text

/-- Spans that go from a start to a stop without gaps and without empty ones. -/
def Span.Tile : Nat → List Span → Nat → Prop
  | start, [], stop => start = stop
  | start, span :: spans, stop =>
      span.start = start ∧ span.start < span.stop ∧ Span.Tile span.stop spans stop

def Event.accepted? : Event → Option Span
  | .token span | .skipped span => some span
  | _ => none

def Event.isToken : Event → Bool
  | .token _ => true
  | _ => false

namespace Piece

variable {τ : Type}

def event (piece : Piece τ) : Event :=
  match piece.token with
  | some _ => .token piece.span
  | none => .skipped piece.span

@[simp] theorem accepted?_event (piece : Piece τ) : piece.event.accepted? = some piece.span := by
  unfold event
  split <;> rfl

@[simp] theorem level_event (piece : Piece τ) : piece.event.level = .trace := by
  unfold event
  split <;> rfl

@[simp] theorem isToken_event (piece : Piece τ) : piece.event.isToken = piece.token.isSome := by
  unfold event
  split <;> simp_all [Event.isToken]

end Piece

namespace Scan

variable {τ : Type}

/-- What is told of a scan that stops before the end of the input. -/
def stopEvents (scan : Scan τ) : List Event :=
  match scan.ending with
  | .atEnd | .failed _ => []
  | .nothingApplies =>
      [.nothingApplies scan.lastStart.position (byteLength scan.lastStart.rest)]
  | .strayed => [.strayed scan.lastStart.position]
  | .stalled => [.stalled scan.lastStart.position]

def lastEvent (scan : Scan τ) : Event :=
  match scan.result with
  | .ok tokens => .produced tokens.length
  | .error error => .failed error

/-- The log that a scan should have behind its first event. -/
def logBehind (start : Event) (scan : Scan τ) : Log τ :=
  ⟨start :: scan.pieces.map Piece.event ++ scan.stopEvents ++ [scan.lastEvent], scan.result, scan.final⟩

theorem filterMap_accepted?_events (pieces : List (Piece τ)) :
    (pieces.map Piece.event).filterMap Event.accepted? = pieces.map (·.span) := by
  induction pieces with
  | nil => rfl
  | cons piece pieces ih => simp [ih]

theorem countP_isToken_events (scan : Scan τ) :
    (scan.pieces.map Piece.event).countP Event.isToken = scan.tokens.length := by
  unfold tokens
  induction scan.pieces with
  | nil => rfl
  | cons piece pieces ih =>
      rw [List.map_cons, List.countP_cons, ih, List.filterMap_cons, Piece.isToken_event]
      cases piece.token with
      | none => rfl
      | some token => rfl

end Scan

namespace Tokenizer

variable {τ : Type}

/-! ## What the loop tells -/

/-- The loop that tells of a scan runs in step with the scan: what it told is what there is to tell of the pieces
accepted before, and its tokens are theirs. -/
theorem logFrom_eq (tokenizer : Tokenizer τ) (start : Event) (cursor : Cursor) (before : List (Piece τ)) :
    tokenizer.logFrom cursor (before.map Piece.event ++ [start]) (before.filterMap (·.token)) =
      (tokenizer.scanFrom cursor before).logBehind start := by
  induction cursor using tokenizer.scanInduct generalizing before with
  | atEnd cursor atEnd =>
      rw [logFrom, if_pos atEnd, scanFrom_of_atEnd atEnd]
      simp [Log.finish, Scan.logBehind, Scan.stopEvents, Scan.lastEvent, Scan.result, Scan.tokens]
  | halted cursor ending moved inside halts =>
      rw [logFrom, if_neg (by simp [inside]), scanFrom_of_halted inside halts]
      -- The loop says for each ending on its own what the scan writes down for all of them.
      split <;> rename_i same <;> cases halts.symm.trans same
      all_goals simp [Log.finish, Scan.logBehind, Scan.stopEvents, Scan.lastEvent, Scan.result, Scan.tokens]
  | accepted cursor token moved inside accepts ih =>
      rw [logFrom, if_neg (by simp [inside]), scanFrom_of_accepted inside accepts, ← ih]
      split <;> rename_i same <;> cases accepts.symm.trans same <;> rfl

theorem log_eq (tokenizer : Tokenizer τ) (cursor : Cursor) :
    tokenizer.log cursor =
      (tokenizer.scan cursor).logBehind (.started cursor.position tokenizer.length) :=
  tokenizer.logFrom_eq _ cursor []

theorem events_eq (tokenizer : Tokenizer τ) (cursor : Cursor) :
    tokenizer.events cursor =
      .started cursor.position tokenizer.length :: (tokenizer.scan cursor).pieces.map Piece.event ++
        (tokenizer.scan cursor).stopEvents ++ [(tokenizer.scan cursor).lastEvent] := by
  rw [events, log_eq, Scan.logBehind]

theorem log_result (tokenizer : Tokenizer τ) (cursor : Cursor) :
    (tokenizer.log cursor).result = (tokenizer.scan cursor).result := by
  rw [log_eq, Scan.logBehind]

theorem log_final (tokenizer : Tokenizer τ) (cursor : Cursor) :
    (tokenizer.log cursor).final = (tokenizer.scan cursor).final := by
  rw [log_eq, Scan.logBehind]

/-! ## What every scan keeps -/

theorem scan_lastStart_text (tokenizer : Tokenizer τ) (cursor : Cursor) :
    (tokenizer.scan cursor).lastStart.text = cursor.text := by
  induction cursor using tokenizer.scanInduct with
  | atEnd cursor atEnd => rw [scan_of_atEnd atEnd]
  | halted cursor ending moved inside halts => rw [scan_of_halted inside halts]
  | accepted cursor token moved inside accepts ih =>
      rw [scan_of_accepted inside accepts, Scan.behind_lastStart, ih, Cursor.forward_text]

theorem scan_final_text (tokenizer : Tokenizer τ) (cursor : Cursor) :
    (tokenizer.scan cursor).final.text = cursor.text := by
  induction cursor using tokenizer.scanInduct with
  | atEnd cursor atEnd => rw [scan_of_atEnd atEnd]
  | halted cursor ending moved inside halts => rw [scan_of_halted inside halts, Cursor.forward_text]
  | accepted cursor token moved inside accepts ih =>
      rw [scan_of_accepted inside accepts, Scan.behind_final, ih, Cursor.forward_text]

/-- The accepted pieces cover the input from the start of a scan to the place of its last attempt. -/
theorem scan_tiles (tokenizer : Tokenizer τ) (cursor : Cursor) :
    Span.Tile cursor.position ((tokenizer.scan cursor).pieces.map (·.span))
      (tokenizer.scan cursor).lastStart.position := by
  induction cursor using tokenizer.scanInduct with
  | atEnd cursor atEnd =>
      rw [scan_of_atEnd atEnd]
      exact rfl
  | halted cursor ending moved inside halts =>
      rw [scan_of_halted inside halts]
      exact rfl
  | accepted cursor token moved inside accepts ih =>
      have moves := position_ne_of_attempt accepts
      have later := cursor.position_le_forward moved
      rw [scan_of_accepted inside accepts]
      exact ⟨rfl, Nat.lt_of_le_of_ne later moves.symm, ih⟩

/-- A scan takes no more rounds than there are characters. -/
theorem scan_pieces_length_le (tokenizer : Tokenizer τ) (cursor : Cursor) :
    (tokenizer.scan cursor).pieces.length ≤ cursor.rest.length := by
  induction cursor using tokenizer.scanInduct with
  | atEnd cursor atEnd => simp [scan_of_atEnd atEnd]
  | halted cursor ending moved inside halts => simp [scan_of_halted inside halts]
  | accepted cursor token moved inside accepts ih =>
      have shorter := Cursor.length_forward_lt (position_ne_of_attempt accepts)
      rw [scan_of_accepted inside accepts, Scan.behind_pieces, List.length_append,
        List.length_singleton]
      omega

/-! ## How a scan ends -/

/-- A scan ends where the input does, or at a place before that which no recognizer takes it on from. It
leaves the cursor there, unless a recognizer strayed or failed. -/
def EndsAs : Ending → Cursor → Cursor → Prop
  | .atEnd, last, final => last.atEnd = true ∧ final = last
  | .nothingApplies, last, final | .stalled, last, final => last.atEnd = false ∧ final = last
  | .strayed, last, final => last.atEnd = false ∧ last.position < final.position
  | .failed _, last, final => last.atEnd = false ∧ last.position ≤ final.position

theorem scan_endsAs (tokenizer : Tokenizer τ) (cursor : Cursor) :
    EndsAs (tokenizer.scan cursor).ending (tokenizer.scan cursor).lastStart
      (tokenizer.scan cursor).final := by
  rcases tokenizer.scan_ends cursor with ⟨ending, atEnd, final⟩ | ⟨moved, inside, halts, final⟩
  · rw [ending]
    exact ⟨atEnd, final⟩
  · have later := (tokenizer.scan cursor).lastStart.position_le_forward moved
    rw [final]
    rcases attempt_halted halts with ⟨ending, rfl⟩ | ⟨ending, rfl⟩ | ⟨ending, moves⟩ | ⟨error, ending⟩
    all_goals rw [ending]
    · exact ⟨inside, rfl⟩
    · exact ⟨inside, rfl⟩
    · exact ⟨inside, Nat.lt_of_le_of_ne later moves.symm⟩
    · exact ⟨inside, later⟩

end Tokenizer

/-! ## What a scan tells -/

/-- How an ending shows, where the accepted pieces reach a place of an input of a certain size: in what the
scan tells before its last event, in its result, and in the place of the cursor that it leaves. -/
def Ending.ShowsIn {τ : Type} (scan : Scan τ) (stop : List Event) (reached size : Nat) : Ending → Prop
  | .atEnd =>
      stop = [] ∧ (∃ tokens, scan.result = .ok tokens) ∧ reached = size ∧ scan.final.position = reached
  | .nothingApplies =>
      stop = [.nothingApplies reached (size - reached)] ∧ (∃ tokens, scan.result = .ok tokens) ∧
        0 < size - reached ∧ scan.final.position = reached
  | .stalled =>
      stop = [.stalled reached] ∧ (∃ tokens, scan.result = .ok tokens) ∧ reached < size ∧
        scan.final.position = reached
  | .strayed =>
      stop = [.strayed reached] ∧ (∃ tokens, scan.result = .ok tokens) ∧ reached < size ∧
        reached < scan.final.position
  | .failed error =>
      stop = [] ∧ scan.result = .error error ∧ reached < size ∧ reached ≤ scan.final.position

theorem Ending.ShowsIn.unique {τ : Type} {scan : Scan τ} {stop : List Event} {reached size : Nat}
    {first second : Ending} (shows : first.ShowsIn scan stop reached size)
    (other : second.ShowsIn scan stop reached size) : first = second := by
  cases first <;> cases second <;>
    simp only [Ending.ShowsIn] at shows other <;> grind

namespace Scan

variable {τ : Type}

theorem result_eq_ok {scan : Scan τ} (succeeds : ∀ error, scan.ending ≠ .failed error) :
    scan.result = .ok scan.tokens := by
  unfold result
  split
  · rename_i error ending
    exact absurd ending (succeeds error)
  · rfl

theorem of_result_eq_ok {scan : Scan τ} {tokens : List τ} (succeeds : scan.result = .ok tokens) :
    tokens = scan.tokens ∧ ∀ error, scan.ending ≠ .failed error := by
  unfold result at succeeds
  split at succeeds
  · cases succeeds
  · rename_i other
    cases succeeds
    exact ⟨rfl, other⟩

theorem ending_of_result_eq_error {scan : Scan τ} {error : ScanError}
    (fails : scan.result = .error error) : scan.ending = .failed error := by
  unfold result at fails
  split at fails
  · rename_i other ending
    cases fails
    exact ending
  · cases fails

theorem ending_showsIn (scan : Scan τ)
    (ends : Tokenizer.EndsAs scan.ending scan.lastStart scan.final) :
    scan.ending.ShowsIn scan scan.stopEvents scan.lastStart.position
      (byteLength scan.lastStart.text) := by
  have ok (succeeds : ∀ error, scan.ending ≠ .failed error) : ∃ tokens, scan.result = .ok tokens :=
    ⟨scan.tokens, result_eq_ok succeeds⟩
  unfold stopEvents
  cases ending : scan.ending with
  | atEnd =>
      rw [ending] at ends
      exact ⟨rfl, ok (by simp [ending]), Cursor.position_of_atEnd ends.1, by rw [ends.2]⟩
  | nothingApplies =>
      rw [ending] at ends
      have left : byteLength scan.lastStart.rest =
          byteLength scan.lastStart.text - scan.lastStart.position := by
        rw [Cursor.byteLength_text]
        omega
      have inside := Cursor.position_lt_of_inside ends.1
      exact ⟨by rw [left], ok (by simp [ending]), by omega, by rw [ends.2]⟩
  | stalled =>
      rw [ending] at ends
      exact ⟨rfl, ok (by simp [ending]), Cursor.position_lt_of_inside ends.1, by rw [ends.2]⟩
  | strayed =>
      rw [ending] at ends
      exact ⟨rfl, ok (by simp [ending]), Cursor.position_lt_of_inside ends.1, ends.2⟩
  | failed error =>
      rw [ending] at ends
      exact ⟨rfl, by simp [result, ending], Cursor.position_lt_of_inside ends.1, ends.2⟩

end Scan

namespace Tokenizer

variable {τ : Type}

/-- The log of a scan, for recognizers that do as they like. Its result and its cursor are those of the scan,
its pieces tile the accepted input, its last event and its count of tokens agree with the result, and exactly
one ending shows in it. -/
theorem events_agree_with_scan (tokenizer : Tokenizer τ) (cursor : Cursor) :
    let scan := tokenizer.scan cursor
    ∃ trace stop last reached,
      tokenizer.events cursor = .started cursor.position tokenizer.length :: trace ++ stop ++ [last] ∧
      (tokenizer.log cursor).result = scan.result ∧ (tokenizer.log cursor).final = scan.final ∧
      (∀ event ∈ trace, event.level = .trace) ∧
      Span.Tile cursor.position (trace.filterMap Event.accepted?) reached ∧
      trace.length ≤ cursor.rest.length ∧
      (∀ tokens, scan.result = .ok tokens →
        trace.countP Event.isToken = tokens.length ∧ last = .produced tokens.length) ∧
      (∀ error, scan.result = .error error → last = .failed error) ∧
      scan.final.text = cursor.text ∧
      ∃! ending : Ending, ending.ShowsIn scan stop reached (byteLength cursor.text) := by
  intro scan
  have shows := scan.ending_showsIn (tokenizer.scan_endsAs cursor)
  rw [show scan.lastStart.text = cursor.text from tokenizer.scan_lastStart_text cursor] at shows
  refine ⟨scan.pieces.map Piece.event, scan.stopEvents, scan.lastEvent, scan.lastStart.position,
    tokenizer.events_eq cursor, tokenizer.log_result cursor, tokenizer.log_final cursor, ?_, ?_, ?_, ?_, ?_,
    tokenizer.scan_final_text cursor,
    scan.ending, shows, fun other shown => shown.unique shows⟩
  · intro event member
    obtain ⟨piece, -, rfl⟩ := List.mem_map.1 member
    exact piece.level_event
  · rw [Scan.filterMap_accepted?_events]
    exact tokenizer.scan_tiles cursor
  · rw [List.length_map]
    exact tokenizer.scan_pieces_length_le cursor
  · intro tokens succeeds
    have same : tokens = scan.tokens := by
      unfold Scan.result at succeeds
      split at succeeds <;> cases succeeds
      rfl
    subst same
    exact ⟨scan.countP_isToken_events, by simp [Scan.lastEvent, succeeds]⟩
  · intro error fails
    simp [Scan.lastEvent, fails]

/-! ## Scans of all the input -/

def ReadsAll (tokenizer : Tokenizer τ) (cursor : Cursor) (tokens : List τ) : Prop :=
  (tokenizer.scan cursor).ending = .atEnd ∧ (tokenizer.scan cursor).tokens = tokens

variable {tokenizer : Tokenizer τ} {cursor : Cursor} {tokens : List τ}

theorem readsAll_of_atEnd (atEnd : cursor.atEnd = true) : tokenizer.ReadsAll cursor [] := by
  unfold ReadsAll
  rw [scan_of_atEnd atEnd]
  exact ⟨rfl, rfl⟩

/-- A piece is accepted, and the rest is taken behind it. -/
theorem ReadsAll.of_accepted {token : Option τ} {moved : Nat} (inside : cursor.atEnd = false)
    (accepts : attempt cursor tokenizer.recognizers = .accepted token moved)
    (next : tokenizer.ReadsAll (cursor.forward moved) tokens) :
    tokenizer.ReadsAll cursor (token.toList ++ tokens) := by
  obtain ⟨ending, rfl⟩ := next
  unfold ReadsAll
  rw [scan_of_accepted inside accepts]
  refine ⟨ending, ?_⟩
  cases token with
  | none => rfl
  | some token => rfl

theorem ReadsAll.result_eq (reads : tokenizer.ReadsAll cursor tokens) :
    (tokenizer.scan cursor).result = .ok tokens := by
  rw [Scan.result_eq_ok (by simp [reads.1]), reads.2]

theorem ReadsAll.final_position (reads : tokenizer.ReadsAll cursor tokens) :
    (tokenizer.scan cursor).final.position = byteLength cursor.text := by
  have ends := tokenizer.scan_endsAs cursor
  rw [reads.1] at ends
  obtain ⟨atEnd, same⟩ := ends
  rw [same, Cursor.position_of_atEnd atEnd, scan_lastStart_text]

end Tokenizer

end LexKit
