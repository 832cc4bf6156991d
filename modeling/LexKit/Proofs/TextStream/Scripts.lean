import LexKit.Proofs.TextStream.Agreement
import LexKit.Token

/-!
# Scripts at a stream

A session can be led by any list of instructions, with arguments as they come, and its stream stays one that can
be looked at: it has its contents, and stands between two characters of them. One lemma says where a command can
leave a session of cursors; what a whole script keeps follows by induction, and holds at streams because they do
what cursors do.
-/

namespace LexKit

open Text TextStream

variable {τ : Type}

/-! ## One command at a cursor -/

namespace Cursor

variable {cursor next : Cursor} {length : Nat} {span : Span}

theorem exists_forward_of_advance (moves : cursor.advance length = .ok (span, next)) :
    ∃ count, next = cursor.forward count := by
  unfold advance at moves
  split at moves
  · cases moves
  · rename_i taken after cut
    cases given : cursor.spanOfLength length with
    | error fault =>
        rw [given] at moves
        cases moves
    | ok span =>
        rw [given] at moves
        cases moves
        exact ⟨taken.length, rfl⟩

theorem exists_forward_of_consume {text : String} (moves : cursor.consume length = .ok (text, span, next)) :
    ∃ count, next = cursor.forward count := by
  unfold consume at moves
  split at moves
  · cases moves
  · cases advances : cursor.advance length with
    | error fault =>
        rw [advances] at moves
        cases moves
    | ok found =>
        rw [advances] at moves
        cases moves
        exact exists_forward_of_advance advances

end Cursor

theorem Tokenizer.exists_forward_of_scan (tokenizer : Tokenizer τ) (cursor : Cursor) :
    ∃ count, (tokenizer.scan cursor).final = cursor.forward count := by
  induction cursor using tokenizer.scanInduct with
  | atEnd cursor atEnd =>
      rw [scan_of_atEnd atEnd]
      exact ⟨0, rfl⟩
  | halted cursor ending moved inside halts =>
      rw [scan_of_halted inside halts]
      exact ⟨moved, rfl⟩
  | accepted cursor token moved inside accepts ih =>
      obtain ⟨count, final⟩ := ih
      rw [scan_of_accepted inside accepts, Scan.behind_final, final, Cursor.forward_forward]
      exact ⟨moved + count, rfl⟩

namespace Session

variable {session : Session} {command : Command τ}

/-- Where a command can leave a session: further on, with the place kept, or back at the kept place. -/
theorem run_cases (session : Session) (command : Command τ) :
    (∃ count, (session.run command).2 = session.moveTo (session.cursor.forward count)) ∨
      (session.run command).2 = { session with saved := session.cursor } ∨
      command = .restore ∧ (session.run command).2 = session.moveTo session.saved := by
  cases command with
  | parse matcher => exact .inl ⟨_, rfl⟩
  | recognize recognizer => exact .inl ⟨_, rfl⟩
  | tokenize tokenizer =>
      obtain ⟨count, final⟩ := tokenizer.exists_forward_of_scan session.cursor
      refine .inl ⟨count, ?_⟩
      rw [← final]
      rfl
  | advance length =>
      refine .inl ?_
      simp only [run]
      cases moves : session.cursor.advance length with
      | error fault => exact ⟨0, rfl⟩
      | ok found =>
          obtain ⟨count, next⟩ := Cursor.exists_forward_of_advance moves
          exact ⟨count, congrArg session.moveTo next⟩
  | consume length =>
      refine .inl ?_
      simp only [run]
      cases moves : session.cursor.consume length with
      | error fault => exact ⟨0, rfl⟩
      | ok found =>
          obtain ⟨count, next⟩ := Cursor.exists_forward_of_consume moves
          exact ⟨count, congrArg session.moveTo next⟩
  | peek | remaining | contents => exact .inl ⟨0, rfl⟩
  | spanOfLength length =>
      refine .inl ⟨0, ?_⟩
      simp only [run]
      cases session.cursor.spanOfLength length <;> rfl
  | spanOfRange start stop =>
      refine .inl ⟨0, ?_⟩
      simp only [run]
      cases session.cursor.spanOfRange start stop <;> rfl
  | save => exact .inr (.inl rfl)
  | restore => exact .inr (.inr ⟨rfl, rfl⟩)

theorem position_le_run (other : command ≠ .restore) :
    session.cursor.position ≤ (session.run command).2.cursor.position := by
  rcases session.run_cases command with ⟨count, next⟩ | next | ⟨same, -⟩
  · rw [next]
    exact session.cursor.position_le_forward count
  · rw [next]
  · exact absurd same other

theorem run_of_fault {fault : Fault} (faults : (session.run command).1 = .fault fault) :
    (session.run command).2 = session := by
  cases command with
  | parse | recognize | tokenize | peek | remaining | contents | save | restore => cases faults
  | advance length =>
      simp only [run] at faults ⊢
      cases moves : session.cursor.advance length with
      | error fault => rfl
      | ok found =>
          rw [moves] at faults
          cases faults
  | consume length =>
      simp only [run] at faults ⊢
      cases moves : session.cursor.consume length with
      | error fault => rfl
      | ok found =>
          rw [moves] at faults
          cases faults
  | spanOfLength length =>
      simp only [run]
      cases session.cursor.spanOfLength length <;> rfl
  | spanOfRange start stop =>
      simp only [run]
      cases session.cursor.spanOfRange start stop <;> rfl

/-! ## Scripts at a cursor -/

structure LiesIn (session : Session) (text : List Char) : Prop where
  cursor_text : session.cursor.text = text
  saved_text : session.saved.text = text

theorem LiesIn.run {text : List Char} (lies : session.LiesIn text) (command : Command τ) :
    (session.run command).2.LiesIn text := by
  rcases session.run_cases command with ⟨count, next⟩ | next | ⟨-, next⟩
  · rw [next]
    exact ⟨(Cursor.forward_text count _).trans lies.cursor_text, lies.saved_text⟩
  · rw [next]
    exact ⟨lies.cursor_text, lies.cursor_text⟩
  · rw [next]
    exact ⟨lies.saved_text, lies.saved_text⟩

def runAll (session : Session) (commands : List (Command τ)) : Session :=
  commands.foldl (fun session command => (session.run command).2) session

end Session

/-! ## Scripts at a stream -/

/-- A whole script at a stream leads to where its commands lead at a cursor, and the input stays the same. -/
theorem StreamSession.carryOutAll_streams {session : Session} {text : List Char} (lies : session.LiesIn text)
    (fits : byteLength text < Position.limit) (script : List (Instruction τ)) :
    session.streams.carryOutAll script = (session.runAll (script.map Instruction.command)).streams ∧
      (session.runAll (script.map Instruction.command)).LiesIn text := by
  induction script generalizing session with
  | nil => exact ⟨rfl, lies⟩
  | cons instruction script ih =>
      have fits' : byteLength session.cursor.text < Position.limit := by
        rw [lies.cursor_text]
        exact fits
      have step := carryOut_streams fits' instruction
      have next := ih (lies.run instruction.command)
      unfold carryOutAll at next ⊢
      rw [List.foldl_cons, step]
      exact next

/-- A stream that can be looked at: it stands in a text, between two characters or at an end, what is left can
be taken, and the ways of asking whether anything is left agree. -/
structure TextStream.Sound (stream : TextStream) (text : List Char) : Prop where
  contents_eq : stream.contents = text
  offset_le : stream.offset ≤ byteLength text
  boundary : IsBoundary text stream.offset
  remaining_eq : ∃ front rest, text = front ++ rest ∧ byteLength front = stream.offset ∧
    remaining stream = (.ok rest, stream)
  atEnd_iff_peek : stream.isAtEnd = true ↔ peek stream = (.ok none, stream)
  atEnd_iff_remaining : stream.isAtEnd = true ↔ remaining stream = (.ok [], stream)

theorem Cursor.stream_sound (cursor : Cursor) : cursor.stream.Sound cursor.text := by
  have whole := cursor.byteLength_text
  have empty : cursor.atEnd = true ↔ cursor.rest = [] := List.isEmpty_iff
  refine ⟨rfl, ?_, cursor.isBoundary_position, ?_, ?_, ?_⟩
  · rw [stream_offset]
    omega
  · obtain ⟨parts, size⟩ := splitAtByte?_eq_some_iff.1 cursor.splitAtByte?_text
    exact ⟨_, _, parts, size, remaining_stream cursor⟩
  · rw [isAtEnd_stream, peek_stream, empty]
    simp [Cursor.peek]
  · rw [isAtEnd_stream, remaining_stream, empty]
    simp

/-- Whatever is done with a fresh stream of an input whose length fits into 64 bits, step after step, it can be
looked at, and so can the copy that is kept. An instruction that faults leaves both as they were, and none but
going back makes the offset smaller. All answers and places are those of the session of cursors. -/
theorem scripts_keep_streams (text : String) (fits : text.utf8ByteSize < Position.limit)
    (script : List (Instruction τ)) :
    let session := (StreamSession.ofString text).carryOutAll script
    let cursors := (Session.ofString text).runAll (script.map Instruction.command)
    session.stream.Sound text.toList ∧ session.saved.Sound text.toList ∧
      (∀ (instruction : Instruction τ) (answer : Answer τ) (next : StreamSession),
        session.carryOut instruction = (answer, next) →
        (∀ fault, answer = .fault fault → next = session) ∧
        (instruction ≠ .restore → session.stream.offset ≤ next.stream.offset) ∧
        (answer, next) = ((cursors.run instruction.command).1, (cursors.run instruction.command).2.streams)) ∧
      session = cursors.streams := by
  intro session cursors
  rw [utf8ByteSize_eq] at fits
  have start : (Session.ofString text).LiesIn text.toList := ⟨rfl, rfl⟩
  obtain ⟨same, lies⟩ := StreamSession.carryOutAll_streams start fits script
  have same : session = cursors.streams := same
  have fits' : byteLength cursors.cursor.text < Position.limit := by
    rw [lies.cursor_text]
    exact fits
  refine ⟨?_, ?_, ?_, same⟩
  · rw [same, ← lies.cursor_text]
    exact cursors.cursor.stream_sound
  · rw [same, ← lies.saved_text]
    exact cursors.saved.stream_sound
  · intro instruction answer next step
    rw [same, StreamSession.carryOut_streams fits'] at step
    cases step
    refine ⟨?_, ?_, rfl⟩
    · intro fault faults
      rw [same, Session.run_of_fault faults]
    · intro other
      have forth : instruction.command ≠ .restore := by
        intro back
        cases instruction with
        | restore => exact other rfl
        | _ => cases back
      rw [same]
      exact Session.position_le_run forth

/-- A move into a character, a matcher that strays, and a scan that is taken back and made again. -/
theorem scripts_keep_streams_back :
    let rules : List (AnyRule (Token Nat)) :=
      [.skip (.builtIn .blanks), .emit (.builtIn (.oneCharOf "(é")) (Token.ofKind 0)]
    let script : List (Instruction (Token Nat)) := [.advance 1, .parse (.scripted ⟨1, .noMatch, none⟩),
      .save, .tokenize rules, .consume 7, .restore, .tokenize rules]
    let session := (StreamSession.ofString "é (éab").carryOutAll script
    "é (éab".utf8ByteSize < Position.limit ∧
      session = ⟨⟨"é (éab".toList, 6⟩, ⟨"é (éab".toList, 2⟩⟩ ∧
      session.stream.Sound "é (éab".toList ∧
      (session.carryOut (.advance 3 : Instruction (Token Nat))).2 = session := by
  intro rules script session
  have fits : "é (éab".utf8ByteSize < Position.limit := by decide
  have place : session.stream = ⟨"é (éab".toList, 6⟩ := by decide +kernel
  have kept : session.saved = ⟨"é (éab".toList, 2⟩ := by decide +kernel
  have whole : session = ⟨⟨"é (éab".toList, 6⟩, ⟨"é (éab".toList, 2⟩⟩ := by
    rw [← place, ← kept]
  obtain ⟨sound, -, steps, -⟩ := scripts_keep_streams "é (éab" fits script
  have faults : session.carryOut (.advance 3 : Instruction (Token Nat)) =
      (.fault (.cannotAdvance 3 6), (session.carryOut (.advance 3 : Instruction (Token Nat))).2) := by
    rw [whole]
    rfl
  exact ⟨fits, whole, sound, (steps _ _ _ faults).1 _ rfl⟩

end LexKit
