import LexKit.Proofs.Primitive.Contract
import LexKit.Proofs.Scan.Steps
import LexKit.TextStream.Session

/-!
# Streams do what cursors do

A stream whose offset stands between two characters is the stream of a cursor. There no look at what is left
faults, so an action comes to what is said of it in terms of cursors, and it leaves the stream of a cursor again. On
inputs whose length fits into 64 bits this makes every matcher, recognizer and scan at a stream the one at a
cursor, and none of them faults.
-/

namespace LexKit

open Text

namespace Cursor

def stream (cursor : Cursor) : TextStream := ⟨cursor.text, cursor.position⟩

/-- What is said of an action in terms of cursors, as the action comes to it. A fault moves nothing. -/
def settle {α : Type} (cursor : Cursor) : Except Fault (α × Cursor) → Except Fault α × TextStream
  | .ok (value, next) => (.ok value, next.stream)
  | .error fault => (.error fault, cursor.stream)

end Cursor

namespace TextStream

variable {α β : Type} {cursor : Cursor}

@[simp] theorem pure_apply (value : α) (stream : TextStream) :
    (pure value : Action α) stream = (.ok value, stream) := rfl

@[simp] theorem bind_apply (action : Action α) (next : α → Action β) (stream : TextStream) :
    (action >>= next) stream =
      match action stream with
      | (.ok value, stream) => next value stream
      | (.error fault, stream) => (.error fault, stream) := rfl

@[simp] theorem current_apply (stream : TextStream) : current stream = (.ok stream, stream) := rfl

@[simp] theorem stream_offset (cursor : Cursor) : cursor.stream.offset = cursor.position := rfl

@[simp] theorem stream_contents (cursor : Cursor) : cursor.stream.contents = cursor.text := rfl

/-! ## Looks and moves -/

theorem remaining_stream (cursor : Cursor) : remaining cursor.stream = (.ok cursor.rest, cursor.stream) := by
  simp [remaining, cursor.splitAtByte?_text]

theorem isAtEnd_stream (cursor : Cursor) : cursor.stream.isAtEnd = cursor.atEnd := by
  rw [Bool.eq_iff_iff, isAtEnd, beq_iff_eq, stream_offset, stream_contents]
  constructor
  · intro ends
    by_contra inside
    have before := Cursor.position_lt_of_inside (Bool.eq_false_iff.2 inside)
    omega
  · exact Cursor.position_of_atEnd

theorem peek_stream (cursor : Cursor) : peek cursor.stream = (.ok cursor.peek, cursor.stream) := by
  simp [peek, remaining_stream, Cursor.peek]

theorem spanOfLength_stream (cursor : Cursor) (length : Nat) :
    spanOfLength length cursor.stream = (cursor.spanOfLength length, cursor.stream) := by
  simp only [spanOfLength, Cursor.spanOfLength, bind_apply, current_apply, stream_offset, Action.ofExcept]
  cases Position.advance cursor.position length <;> rfl

theorem spanOfRange_stream (cursor : Cursor) (start stop : Nat) :
    spanOfRange start stop cursor.stream = (cursor.spanOfRange start stop, cursor.stream) := by
  simp only [spanOfRange, Cursor.spanOfRange, bind_apply, current_apply, stream_offset, Action.ofExcept]
  cases Position.advance cursor.position start with
  | error fault => rfl
  | ok first => cases Position.advance cursor.position stop <;> rfl

theorem eq_of_spanOfLength {length : Nat} {span : Span} (given : cursor.spanOfLength length = .ok span) :
    span = ⟨cursor.position, cursor.position + length⟩ := by
  simp only [Cursor.spanOfLength, Position.advance, Span.new?, bind, Except.bind] at given
  by_cases within : cursor.position + length < Position.limit
  · rw [if_pos within] at given
    simp only [if_pos (Nat.le_add_right _ _)] at given
    exact (Except.ok.inj given).symm
  · rw [if_neg within] at given
    cases given

theorem advance_stream (cursor : Cursor) (length : Nat) :
    advance length cursor.stream = cursor.settle (cursor.advance length) := by
  simp only [advance, Cursor.advance, bind_apply, remaining_stream]
  cases cut : splitAtByte? length cursor.rest with
  | none => rfl
  | some parts =>
      obtain ⟨taken, after⟩ := parts
      obtain ⟨opens, size⟩ := splitAtByte?_eq_some_iff.1 cut
      simp only [bind_apply, spanOfLength_stream]
      cases given : cursor.spanOfLength length with
      | error fault => rfl
      | ok span =>
          have position := (cursor.forward_over opens).2
          have text := cursor.forward_text taken.length
          have same := eq_of_spanOfLength given
          have stream : (cursor.forward taken.length).stream = { cursor.stream with offset := span.stop } := by
            rw [Cursor.stream, text, position, size, same]
            rfl
          simp only [bind, Except.bind, Cursor.settle, stream]
          rfl

theorem consume_stream (cursor : Cursor) (length : Nat) :
    consume length cursor.stream =
      cursor.settle ((cursor.consume length).map fun (text, span, next) => ((text, span), next)) := by
  simp only [consume, Cursor.consume, bind_apply, remaining_stream]
  cases headBytes? length cursor.rest with
  | none => rfl
  | some taken =>
      simp only [bind_apply, advance_stream]
      cases cursor.advance length <;> rfl

theorem pass_stream (cursor : Cursor) (length : Nat) (text : Option String) :
    pass length text cursor.stream = cursor.settle (cursor.passBytes length text) := by
  simp only [pass, Cursor.passBytes, bind_apply, advance_stream]
  cases cursor.advance length <;> rfl

theorem take_stream (cursor : Cursor) (length : Nat) :
    take length cursor.stream = cursor.settle (cursor.takeBytes length) := by
  simp only [take, Cursor.takeBytes, bind_apply, consume_stream]
  cases cursor.consume length <;> rfl

end TextStream

open TextStream

variable {cursor : Cursor}

/-! ## Matchers -/

namespace Delimiters

theorem parse_stream (delimiters : Delimiters) (cursor : Cursor) :
    delimiters.parse cursor.stream = cursor.settle (delimiters.bytewise cursor) := by
  simp only [parse, bytewise, bind_apply, remaining_stream]
  cases charOffsets 0 cursor.rest with
  | nil => rfl
  | cons first body =>
      obtain ⟨offset, char⟩ := first
      simp only
      by_cases opens : char = delimiters.opening
      · rw [if_pos opens, if_pos opens]
        cases delimiters.measureFrom (byteLength cursor.rest) body [] false with
        | none => rfl
        | some region => exact pass_stream cursor _ _
      · rw [if_neg opens, if_neg opens]
        rfl

end Delimiters

namespace Pattern

theorem parse_stream (pattern : Pattern) (cursor : Cursor) :
    pattern.parse cursor.stream = cursor.settle (pattern.bytewise cursor) := by
  simp only [parse, bytewise, bind_apply, remaining_stream]
  cases pattern.automaton.search cursor.rest with
  | none => rfl
  | some found =>
      simp only
      split
      · exact take_stream cursor _
      · rfl

end Pattern

namespace Primitive

theorem parseBlanks_stream (cursor : Cursor) :
    parseBlanks cursor.stream = cursor.settle (blanksBytewise cursor) := by
  simp only [parseBlanks, blanksBytewise, bind_apply, remaining_stream]
  split
  · rfl
  · exact pass_stream cursor _ _

theorem parseEnd_stream (cursor : Cursor) : parseEnd cursor.stream = cursor.settle (endBytewise cursor) := by
  simp only [parseEnd, endBytewise, bind_apply, current_apply]
  by_cases ends : cursor.position = byteLength cursor.text
  · have atEnd : cursor.stream.isAtEnd = true := beq_iff_eq.2 ends
    rw [if_pos atEnd, if_pos ends]
    rfl
  · have inside : ¬ cursor.stream.isAtEnd = true := fun atEnd => ends (beq_iff_eq.1 atEnd)
    rw [if_neg inside, if_neg ends]
    rfl

theorem parseChar_stream (set : String) (cursor : Cursor) :
    parseChar set cursor.stream = cursor.settle (charBytewise set cursor) := by
  simp only [parseChar, charBytewise, bind_apply, peek_stream]
  cases cursor.peek with
  | none => rfl
  | some char =>
      simp only
      split
      · exact take_stream cursor _
      · rfl

theorem parseLiteral_stream (text : String) (cursor : Cursor) :
    parseLiteral text cursor.stream = cursor.settle (literalBytewise text cursor) := by
  simp only [parseLiteral, literalBytewise, bind_apply, remaining_stream]
  split
  · rfl
  · exact take_stream cursor _

/-- Once a literal is known to stay where it does not match, the next one starts from the same place. -/
theorem parseFirst_stream (fits : byteLength cursor.text < Position.limit) (texts : List String) :
    parseFirst texts cursor.stream = cursor.settle (firstLiteralBytewise texts cursor) := by
  induction texts with
  | nil => rfl
  | cons text texts ih =>
      simp only [parseFirst, firstLiteralBytewise, parseLiteral_stream, literalBytewise_eq fits,
        Cursor.arrive, Cursor.settle, bind, Except.bind]
      by_cases declines : (literalMatcher text cursor).outcome.isNoMatch = true
      · rw [literalMatcher_noMatch declines]
        exact ih
      · rw [if_neg declines, if_neg declines]
        rfl

end Primitive

/-- At the stream of the cursor the action does not fault, and comes to what the step says. -/
def TextStream.Takes {α : Type} (action : Action (Outcome α)) (cursor : Cursor) (step : Step α) : Prop :=
  action cursor.stream = (.ok step.outcome, (step.next cursor).stream)

theorem Primitive.parse_takes (fits : byteLength cursor.text < Position.limit) (primitive : Primitive) :
    Takes primitive.parse cursor (primitive.matcher cursor) := by
  have settles : primitive.parse cursor.stream = cursor.settle (primitive.bytewise cursor) := by
    cases primitive with
    | blanks => exact parseBlanks_stream cursor
    | endOfInput => exact parseEnd_stream cursor
    | literal text => exact parseLiteral_stream text cursor
    | oneCharOf set => exact parseChar_stream set cursor
    | oneOfLiterals texts => exact parseFirst_stream fits texts
    | pattern compiled => exact compiled.parse_stream cursor
    | delimited region => exact region.parse_stream cursor
  rw [primitive.bytewise_eq fits] at settles
  exact settles

theorem Scripted.parseApplies_stream (script : Scripted) (cursor : Cursor) :
    script.parseApplies cursor.stream = (.ok (script.applies cursor), cursor.stream) := by
  unfold parseApplies applies
  cases script.onlyBefore with
  | none => rfl
  | some set =>
      simp only [bind_apply, peek_stream]
      cases cursor.peek <;> rfl

theorem Scripted.parse_takes (fits : byteLength cursor.text < Position.limit) (script : Scripted) :
    Takes script.parse cursor (script.matcher cursor) := by
  simp only [Takes, parse, matcher, bind_apply, parseApplies_stream]
  by_cases applies : script.applies cursor = true
  · rw [if_pos applies, if_pos applies]
    simp only [bind_apply, current_apply, remaining_stream, consume_stream, Cursor.consume_take fits]
    unfold step
    cases script.reply <;> rfl
  · rw [if_neg applies, if_neg applies]
    rfl

theorem AnyMatcher.parse_takes (fits : byteLength cursor.text < Position.limit) (source : AnyMatcher) :
    Takes source.parse cursor (source.matcher cursor) := by
  cases source with
  | builtIn primitive => exact primitive.parse_takes fits
  | scripted script => exact script.parse_takes fits

/-! ## Recognizers -/

variable {τ : Type}

theorem AnyRule.recognize_takes (fits : byteLength cursor.text < Position.limit) (rule : AnyRule τ) :
    Takes rule.recognize cursor (rule.recognizer cursor) := by
  cases rule with
  | emit source token | skip source =>
      have takes := source.parse_takes fits
      unfold Takes at takes ⊢
      simp only [recognize, bind_apply, takes]
      rfl

/-! ## Scans -/

def Attempt.moved : Attempt τ → Nat
  | .accepted _ moved | .halted _ moved => moved

namespace TextStream

theorem stream_eq_of_position {next : Cursor} (text : next.text = cursor.text)
    (position : next.position = cursor.position) : next.stream = cursor.stream := by
  rw [Cursor.stream, Cursor.stream, text, position]

def Round.ofAttempt : Attempt τ → Round τ
  | .accepted token _ => .goesOn token
  | .halted (.failed error) _ => .fails error
  | .halted _ _ => .stops

theorem tryRules_stream (fits : byteLength cursor.text < Position.limit) {rules : List (AnyRule τ)}
    {attempt : Attempt τ} (comes : Tokenizer.attempt cursor (rules.map AnyRule.recognizer) = attempt) :
    tryRules cursor.position rules cursor.stream =
      (.ok (.ofAttempt attempt), (cursor.forward attempt.moved).stream) := by
  subst comes
  induction rules with
  | nil =>
      simp only [tryRules, bind_apply, remaining_stream]
      rfl
  | cons rule rules ih =>
      have takes := rule.recognize_takes fits
      unfold Takes at takes
      have text : ((rule.recognizer cursor).next cursor).text = cursor.text := Cursor.forward_text _ _
      simp only [tryRules, List.map_cons, Tokenizer.attempt, bind_apply, current_apply, takes]
      by_cases still : ((rule.recognizer cursor).next cursor).position = cursor.position
      · have same := stream_eq_of_position text still
        have here : ((rule.recognizer cursor).next cursor).stream.offset = cursor.position := still
        cases (rule.recognizer cursor).outcome with
        | noMatch =>
            simp only
            rw [if_neg (not_not_intro here), if_neg (not_not_intro still), same]
            exact ih
        | matched token =>
            simp only
            rw [if_pos here, if_neg (not_not_intro still), same]
            rfl
        | failed error => rfl
      · have there : ((rule.recognizer cursor).next cursor).stream.offset ≠ cursor.position := still
        cases (rule.recognizer cursor).outcome with
        | noMatch =>
            simp only
            rw [if_pos there, if_pos still]
            rfl
        | matched token =>
            simp only
            rw [if_neg there, if_pos still]
            rfl
        | failed error => rfl

/-- A scan needs no more rounds than there are characters left. -/
theorem scanRounds_stream (fits : byteLength cursor.text < Position.limit) (rules : List (AnyRule τ))
    {rounds : Nat} (enough : cursor.rest.length ≤ rounds) (before : List τ) :
    let scan := Tokenizer.scan ⟨rules.map AnyRule.recognizer⟩ cursor
    scanRounds rules rounds before cursor.stream =
      (.ok (scan.result.map (before.reverse ++ ·)), scan.final.stream) := by
  induction rounds generalizing cursor before with
  | zero =>
      have empty : cursor.rest = [] := List.length_eq_zero_iff.1 (Nat.le_zero.1 enough)
      have atEnd : cursor.atEnd = true := List.isEmpty_iff.2 empty
      rw [Tokenizer.scan_of_atEnd atEnd]
      simp [scanRounds, Scan.result, Scan.tokens, Except.map]
  | succ rounds ih =>
      simp only [scanRounds, bind_apply, current_apply, isAtEnd_stream]
      cases inside : cursor.atEnd with
      | true =>
          rw [Tokenizer.scan_of_atEnd inside]
          simp [Scan.result, Scan.tokens, Except.map]
      | false =>
          simp only [Bool.false_eq_true, if_false, bind_apply, stream_offset]
          cases result : Tokenizer.attempt cursor (rules.map AnyRule.recognizer) with
          | halted ending moved =>
              rw [Tokenizer.scan_of_halted inside result, tryRules_stream fits result]
              cases ending <;>
                simp [Scan.result, Scan.tokens, Except.map, Round.ofAttempt, Attempt.moved]
          | accepted token moved =>
              have shorter := Cursor.length_forward_lt (Tokenizer.position_ne_of_attempt result)
              have fits' : byteLength (cursor.forward moved).text < Position.limit := by
                rw [Cursor.forward_text]
                exact fits
              have next := ih fits' (by omega) (token.toList ++ before)
              rw [Tokenizer.scan_of_accepted inside result, tryRules_stream fits result]
              simp only [Round.ofAttempt, Attempt.moved, next]
              rw [Scan.result_behind, Scan.behind_final]
              cases (Tokenizer.scan ⟨rules.map AnyRule.recognizer⟩ (cursor.forward moved)).result with
              | error error => rfl
              | ok tokens => cases token <;> simp [Except.map]

theorem scan_stream (fits : byteLength cursor.text < Position.limit) (rules : List (AnyRule τ)) :
    let scan := Tokenizer.scan ⟨rules.map AnyRule.recognizer⟩ cursor
    TextStream.scan rules cursor.stream = (.ok scan.result, scan.final.stream) := by
  intro scan
  have enough : cursor.rest.length ≤ byteLength cursor.text := by
    have left := length_le_byteLength cursor.rest
    have whole := cursor.byteLength_text
    omega
  have same : scan.result.map (([] : List τ).reverse ++ ·) = scan.result := by
    cases scan.result <;> rfl
  rw [← same]
  exact scanRounds_stream fits rules enough []

end TextStream

/-! ## Sessions -/

def Session.streams (session : Session) : StreamSession := ⟨session.cursor.stream, session.saved.stream⟩

namespace StreamSession

variable {α : Type} {action : Action α} {answer : α → Answer τ} {session : Session}

theorem perform_of_ok {value : α} {next : Cursor}
    (comes : action session.cursor.stream = (.ok value, next.stream)) :
    session.streams.perform action answer = (answer value, (session.moveTo next).streams) := by
  simp only [perform, Session.streams, comes]
  rfl

/-- Carrying out an instruction at a stream is running its command at the cursor. -/
theorem carryOut_streams (fits : byteLength session.cursor.text < Position.limit)
    (instruction : Instruction τ) :
    session.streams.carryOut instruction =
      ((session.run instruction.command).1, (session.run instruction.command).2.streams) := by
  cases instruction with
  | parse source => exact perform_of_ok (source.parse_takes fits)
  | recognize rule => exact perform_of_ok (rule.recognize_takes fits)
  | tokenize rules => exact perform_of_ok (scan_stream fits rules)
  | peek => exact perform_of_ok (peek_stream session.cursor)
  | remaining => exact perform_of_ok (remaining_stream session.cursor)
  | contents => rfl
  | advance length =>
      simp only [carryOut, perform, Session.streams, Instruction.command, Session.run, advance_stream]
      cases session.cursor.advance length <;> rfl
  | consume length =>
      simp only [carryOut, perform, Session.streams, Instruction.command, Session.run, consume_stream]
      cases session.cursor.consume length <;> rfl
  | spanOfLength length =>
      simp only [carryOut, perform, Session.streams, Instruction.command, Session.run, spanOfLength_stream]
      cases session.cursor.spanOfLength length <;> rfl
  | spanOfRange start stop =>
      simp only [carryOut, perform, Session.streams, Instruction.command, Session.run, spanOfRange_stream]
      cases session.cursor.spanOfRange start stop <;> rfl
  | save => rfl
  | restore => rfl

end StreamSession

end LexKit
