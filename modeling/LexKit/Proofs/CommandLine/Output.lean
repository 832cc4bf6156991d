import LexKit.CommandLine.Run
import LexKit.Proofs.Scan.Course
import Mathlib.Control.Monad.Basic

/-!
# What a run writes

However a writer divides its offers, and wherever its room ends, it is left with all of a text or with just the
first bytes of it, as many as it has room for, and which of the two it is shows in the verdict. One piece of text
is followed offer by offer; pieces and lines are then put together at the places where writing may stop.
-/

namespace LexKit.CommandLine

open Sexpr

namespace Writer

variable {writer : Writer} {taken offered : Nat} {text more written : ByteArray} {output : Output}

/-- There is room for a number of bytes in all. -/
def Holds (writer : Writer) (bytes : Nat) : Prop := ∀ room, writer.room = some room → bytes ≤ room

/-- Writing a text leaves all of it, or the first bytes of it and a refusal. -/
inductive Writes (writer : Writer) (text : ByteArray) : Output → Prop where
  | whole : writer.Holds text.size → Writes writer text ⟨text, false⟩
  | cut {room : Nat} : writer.room = some room → room < text.size →
      Writes writer text ⟨text.extract 0 room, true⟩

/-! ## One offer -/

theorem accepts_le (writer : Writer) (taken offered : Nat) : writer.accepts taken offered ≤ offered := by
  unfold accepts
  split <;> simp only <;> omega

theorem holds_accepts (holds : writer.Holds taken) :
    writer.Holds (taken + writer.accepts taken offered) := by
  intro room limited
  have within := holds room limited
  simp only [accepts, limited]
  omega

/-- Only a writer without room refuses. -/
theorem room_le_of_accepts (refuses : writer.accepts taken offered = 0) (present : 0 < offered) :
    ∃ room, writer.room = some room ∧ room ≤ taken := by
  unfold accepts at refuses
  cases limited : writer.room with
  | none =>
      simp only [limited] at refuses
      omega
  | some room =>
      simp only [limited] at refuses
      exact ⟨room, rfl, by omega⟩

/-! ## One piece -/

theorem writeFrom_writes (holds : writer.Holds written.size) (piece : ByteArray) (start : Nat) :
    writer.Writes (written ++ piece.extract start piece.size) (writer.writeFrom piece start written) := by
  fun_induction writer.writeFrom piece start written with
  | case1 start written inside count refuses =>
      obtain ⟨room, limited, full⟩ := room_le_of_accepts refuses (by omega)
      have exactly : room = written.size := Nat.le_antisymm full (holds room limited)
      have kept : (written ++ piece.extract start piece.size).extract 0 room = written :=
        ByteArray.extract_append_eq_left exactly
      have cut : writer.Writes (written ++ piece.extract start piece.size)
          ⟨(written ++ piece.extract start piece.size).extract 0 room, true⟩ := by
        apply Writes.cut limited
        rw [ByteArray.size_append, ByteArray.size_extract]
        omega
      rwa [kept] at cut
  | case2 start written inside count accepts ih =>
      have most := writer.accepts_le written.size (piece.size - start)
      have size : (written ++ piece.extract start (start + count)).size = written.size + count := by
        rw [ByteArray.size_append, ByteArray.size_extract]
        omega
      have later := ih (by rw [size]; exact holds_accepts holds)
      have joined : piece.extract start (start + count) ++ piece.extract (start + count) piece.size =
          piece.extract start piece.size := by
        rw [ByteArray.extract_append_extract, Nat.min_eq_left (by omega), Nat.max_eq_right (by omega)]
      rwa [ByteArray.append_assoc, joined] at later
  | case3 start written outside =>
      have nothing : piece.extract start piece.size = .empty := by
        rw [ByteArray.extract_eq_empty_iff]
        omega
      rw [nothing, ByteArray.append_empty]
      exact .whole holds

/-! ## One after another -/

theorem Writes.andThen {next : ByteArray → Output} (first : writer.Writes text output)
    (later : writer.Holds text.size → writer.Writes (text ++ more) (next text)) :
    writer.Writes (text ++ more) (output.andThen next) := by
  cases first with
  | whole holds => exact later holds
  | @cut room limited short =>
      have same : (text ++ more).extract 0 room = text.extract 0 room := by
        have none : more.extract (0 - text.size) (room - text.size) = .empty := by
          rw [ByteArray.extract_eq_empty_iff]
          omega
        rw [ByteArray.extract_append, none, ByteArray.append_empty]
      have cut : writer.Writes (text ++ more) ⟨(text ++ more).extract 0 room, true⟩ := by
        apply Writes.cut limited
        rw [ByteArray.size_append]
        omega
      rwa [same] at cut

theorem writePieces_writes (holds : writer.Holds written.size) (pieces : List String) :
    writer.Writes (written ++ (String.join pieces).toUTF8) (writer.writePieces written pieces) := by
  induction pieces generalizing written with
  | nil =>
      rw [String.join_nil]
      show writer.Writes (written ++ .empty) ⟨written, false⟩
      rw [ByteArray.append_empty]
      exact .whole holds
  | cons piece pieces ih =>
      have first := writeFrom_writes holds piece.toUTF8 0
      rw [ByteArray.extract_zero_size] at first
      have joined : written ++ (String.join (piece :: pieces)).toUTF8 =
          written ++ piece.toUTF8 ++ (String.join pieces).toUTF8 := by
        rw [String.join_cons, ByteArray.append_assoc]
        exact congrArg (written ++ ·) String.toByteArray_append
      rw [joined]
      exact first.andThen ih

theorem writeLines_writes (holds : writer.Holds written.size) (lexemes : List Lexeme) :
    writer.Writes (written ++ (Lexeme.renderAll lexemes).toUTF8) (writer.writeLines written lexemes) := by
  induction lexemes generalizing written with
  | nil =>
      show writer.Writes (written ++ .empty) ⟨written, false⟩
      rw [ByteArray.append_empty]
      exact .whole holds
  | cons lexeme lexemes ih =>
      have first := writePieces_writes holds lexeme.linePieces
      have joined : written ++ (Lexeme.renderAll (lexeme :: lexemes)).toUTF8 =
          written ++ (String.join lexeme.linePieces).toUTF8 ++ (Lexeme.renderAll lexemes).toUTF8 := by
        rw [Lexeme.renderAll_cons, ← Lexeme.join_linePieces, ByteArray.append_assoc]
        exact congrArg (written ++ ·) String.toByteArray_append
      rw [joined]
      exact first.andThen ih

theorem writeLines_empty_writes (writer : Writer) (lexemes : List Lexeme) :
    writer.Writes (Lexeme.renderAll lexemes).toUTF8 (writer.writeLines .empty lexemes) := by
  have holds : writer.Holds ByteArray.empty.size := fun room _ => Nat.zero_le room
  have writes := writeLines_writes holds lexemes
  rwa [ByteArray.empty_append] at writes

/-! ## What the room decides -/

theorem Writes.of_room_none (writes : writer.Writes text output) (unlimited : writer.room = none) :
    output = ⟨text, false⟩ := by
  cases writes with
  | whole => rfl
  | cut limited => simp [unlimited] at limited

theorem Writes.of_room {room : Nat} (writes : writer.Writes text output) (limited : writer.room = some room) :
    (output.refused = true ↔ room < text.size) ∧ output.bytes = text.extract 0 (min room text.size) := by
  cases writes with
  | whole holds =>
      have fits := holds room limited
      rw [Nat.min_eq_right fits, ByteArray.extract_zero_size]
      refine ⟨⟨fun refused => ?_, fun short => ?_⟩, rfl⟩
      · cases refused
      · omega
  | @cut bound bounded short =>
      have same : bound = room := Option.some.inj (bounded.symm.trans limited)
      subst same
      rw [Nat.min_eq_left (Nat.le_of_lt short)]
      exact ⟨⟨fun _ => short, fun _ => rfl⟩, rfl⟩

end Writer

/-! ## The report -/

theorem endLine_ne_empty (text : String) : text ++ "\n" ≠ "" := by
  intro empty
  have line := (String.append_eq_empty_iff.1 empty).2
  exact absurd line (by decide)

theorem errorText_ne_empty (options : Options) (source : String) (error : ScanError) :
    errorText options source error ≠ "" := by
  unfold errorText
  split
  · exact endLine_ne_empty _
  · intro empty
    rw [Diagnostic.render, String.join_cons] at empty
    have headline := (String.append_eq_empty_iff.1 empty).1
    exact absurd headline (by decide)

theorem unreadable_errors_ne_empty (reason : String) : (unreadable reason).errors ≠ "" :=
  endLine_ne_empty _

section Run

variable (options : Options) (writer : Writer) {file : Except ReadFault ByteArray} {source : String}

theorem runTo_of_text_none (unread : file.toOption.bind String.fromUTF8? = none) :
    ∃ reason, runTo options writer file = unreadable reason := by
  cases file with
  | error fault => exact ⟨fault.reason, rfl⟩
  | ok bytes =>
      have invalid : String.fromUTF8? bytes = none := unread
      unfold runTo
      simp only [invalid]
      exact ⟨_, rfl⟩

theorem runTo_of_text (read : file.toOption.bind String.fromUTF8? = some source) :
    runTo options writer file = runOn options writer source := by
  cases file with
  | error fault => cases read
  | ok bytes =>
      have valid : String.fromUTF8? bytes = some source := read
      unfold runTo
      simp only [valid]

theorem runOn_of_scan_error {error : ScanError}
    (fails : ((Sexpr.tokenizer options.quoteStyle options.endCheck).scanString source).result = .error error) :
    (runOn options writer source).verdict = .scanError ∧ (runOn options writer source).output = .empty ∧
      (runOn options writer source).errors = errorText options source error := by
  have fails : ((Sexpr.tokenizer options.quoteStyle options.endCheck).log (Cursor.ofString source)).result =
      .error error := (Tokenizer.log_result _ _).trans fails
  unfold runOn
  simp only [fails, and_self]

/-- The output is what writing the lines leaves, and its refusal is what the verdict tells. -/
theorem runOn_of_scan_ok {lexemes : List Lexeme}
    (succeeds : ((Sexpr.tokenizer options.quoteStyle options.endCheck).scanString source).result = .ok lexemes) :
    let output := writer.writeLines .empty lexemes
    (runOn options writer source).verdict = (if output.refused then .ioError else .ok) ∧
      (runOn options writer source).output = output.bytes ∧
      ((runOn options writer source).errors = "" ↔ output.refused = false) := by
  intro output
  have succeeds : ((Sexpr.tokenizer options.quoteStyle options.endCheck).log (Cursor.ofString source)).result =
      .ok lexemes := (Tokenizer.log_result _ _).trans succeeds
  unfold runOn
  simp only [succeeds]
  cases refused : (writer.writeLines .empty lexemes).refused with
  | false => simp [output]
  | true =>
      simp only [output, if_true, true_and, Bool.true_eq_false, iff_false]
      exact endLine_ne_empty _

end Run

theorem errors_empty_iff (options : Options) (writer : Writer) (file : Except ReadFault ByteArray) :
    (runTo options writer file).errors = "" ↔ (runTo options writer file).verdict = .ok := by
  cases read : file.toOption.bind String.fromUTF8? with
  | none =>
      obtain ⟨reason, same⟩ := runTo_of_text_none options writer read
      rw [same]
      exact ⟨fun empty => absurd empty (unreadable_errors_ne_empty reason), fun ok => nomatch ok⟩
  | some source =>
      rw [runTo_of_text options writer read]
      cases scanned : ((Sexpr.tokenizer options.quoteStyle options.endCheck).scanString source).result with
      | error error =>
          obtain ⟨verdict, -, errors⟩ := runOn_of_scan_error options writer scanned
          rw [verdict, errors]
          exact ⟨fun empty => absurd empty (errorText_ne_empty options source error), fun ok => nomatch ok⟩
      | ok lexemes =>
          obtain ⟨verdict, -, errors⟩ := runOn_of_scan_ok options writer scanned
          rw [verdict, errors]
          cases (writer.writeLines .empty lexemes).refused <;> simp

/-- A run writes all or the first bytes. Nothing is written where the file is no text or its scan fails. Otherwise
what is written are the lines of all tokens, or as many bytes of them as the writer has room for, and the verdict
says which, whatever portions the writer takes. Something is reported just where the verdict is not that all
went well. -/
theorem runTo_writes_first_bytes (options : Options) (writer : Writer) (file : Except ReadFault ByteArray) :
    let report := runTo options writer file
    let text? := file.toOption.bind String.fromUTF8?
    (text? = none → report.verdict = .ioError ∧ report.output = .empty) ∧
    (∀ source, text? = some source →
      let scan := (Sexpr.tokenizer options.quoteStyle options.endCheck).scanString source
      (∀ error, scan.result = .error error → report.verdict = .scanError ∧ report.output = .empty) ∧
      ∀ lexemes, scan.result = .ok lexemes →
        let full := (Lexeme.renderAll lexemes).toUTF8
        (writer.room = none → report.verdict = .ok ∧ report.output = full) ∧
        ∀ room, writer.room = some room →
          (report.verdict = if full.size ≤ room then .ok else .ioError) ∧
          report.output = full.extract 0 (min room full.size)) ∧
    (report.errors = "" ↔ report.verdict = .ok) := by
  intro report text?
  refine ⟨?_, ?_, ?_⟩
  · intro unread
    obtain ⟨reason, same⟩ := runTo_of_text_none options writer unread
    rw [show report = _ from same]
    exact ⟨rfl, rfl⟩
  · intro source read
    rw [show report = _ from runTo_of_text options writer read]
    refine ⟨?_, ?_⟩
    · intro error fails
      obtain ⟨verdict, output, -⟩ := runOn_of_scan_error options writer fails
      exact ⟨verdict, output⟩
    · intro lexemes succeeds full
      obtain ⟨verdict, output, -⟩ := runOn_of_scan_ok options writer succeeds
      have writes := writer.writeLines_empty_writes lexemes
      rw [verdict, output]
      refine ⟨?_, ?_⟩
      · intro unlimited
        rw [writes.of_room_none unlimited]
        exact ⟨rfl, rfl⟩
      · intro room limited
        obtain ⟨refused, bytes⟩ := writes.of_room limited
        refine ⟨?_, bytes⟩
        by_cases fits : full.size ≤ room
        · rw [if_pos fits, if_neg]
          intro cut
          exact Nat.not_le_of_lt (refused.1 cut) fits
        · rw [if_neg fits, if_pos]
          exact refused.2 (Nat.lt_of_not_le fits)
  · exact errors_empty_iff options writer file

/-- A writer that takes one byte at a time and whose room ends inside a letter of two bytes, a writer without end,
a source that opens a string and does not close it, and bytes that are no text. -/
theorem runTo_cuts_letter :
    let options : Options := ⟨"a.sx", .backslash, true, true⟩
    let narrow : Writer := ⟨some 14, fun _ _ => 1, "no space"⟩
    let report := fun writer (source : String) => runTo options writer (.ok source.toUTF8)
    ((report narrow "\"é\" x").verdict = .ioError ∧
      (report narrow "\"é\" x").output = "0..4 string \"".toUTF8.push 0xC3 ∧
      (report narrow "\"é\" x").errors ≠ "") ∧
    ((report (.ofRoom none) "\"é\"").verdict = .ok ∧
      (report (.ofRoom none) "\"é\"").output = "0..4 string \"é\"\n".toUTF8 ∧
      (report (.ofRoom none) "\"é\"").errors = "") ∧
    ((report narrow "x \"").verdict = .scanError ∧ (report narrow "x \"").output = .empty) ∧
    (runTo options narrow (.ok ⟨#[0xC3]⟩)).verdict = .ioError ∧
    (runTo options narrow (.ok ⟨#[0xC3]⟩)).output = .empty := by
  intro options narrow report
  have read (source : String) : String.fromUTF8? source.toUTF8 = some source := by
    unfold String.fromUTF8?
    exact dif_pos source.isValidUTF8
  have law (writer : Writer) (source : String) := runTo_writes_first_bytes options writer (.ok source.toUTF8)
  refine ⟨?_, ?_, ?_, ?_⟩
  · have scans : ((Sexpr.tokenizer .backslash true).scanString "\"é\" x").result =
        .ok [⟨.string, "é", ⟨0, 4⟩⟩, ⟨.identifier, "x", ⟨5, 6⟩⟩] := by decide +kernel
    obtain ⟨-, texts, errors⟩ := law narrow "\"é\" x"
    obtain ⟨verdict, output⟩ := ((texts _ (read _)).2 _ scans).2 14 rfl
    have cut : (report narrow "\"é\" x").verdict = .ioError := verdict.trans (by decide +kernel)
    refine ⟨cut, output.trans (by decide +kernel), fun empty => ?_⟩
    have all := errors.1 empty
    rw [show _ = _ from cut] at all
    cases all
  · have scans : ((Sexpr.tokenizer .backslash true).scanString "\"é\"").result =
        .ok [⟨.string, "é", ⟨0, 4⟩⟩] := by decide +kernel
    obtain ⟨-, texts, errors⟩ := law (.ofRoom none) "\"é\""
    obtain ⟨verdict, output⟩ := ((texts _ (read _)).2 _ scans).1 rfl
    exact ⟨verdict, output.trans (by decide +kernel), errors.2 verdict⟩
  · have fails : ((Sexpr.tokenizer .backslash true).scanString "x \"").result =
        .error (.unterminatedDelimiter 2) := by decide +kernel
    obtain ⟨-, texts, -⟩ := law narrow "x \""
    exact (texts _ (read _)).1 _ fails
  · exact (runTo_writes_first_bytes options narrow (.ok ⟨#[0xC3]⟩)).1 (by decide +kernel)

end LexKit.CommandLine
