import LexKit.Proofs.Scan.Errors
import LexKit.Proofs.Sexpr.Files

/-!
# What more text behind a source cannot change

A token that ends before the source does is settled by the character behind it, so it stays the same token whatever
is put behind the source. The same holds of a place that no rule takes the scan on from, with one exception. A `#`
at the very end still waits for the letter that makes a boolean of it.
-/

namespace LexKit.Sexpr

open Text Tokenizer

/-- Two lists of tokens begin with the same ones, and what the first one has behind them reaches up to a place. -/
def SettledBefore (place : Nat) (lexemes more : List Lexeme) : Prop :=
  ∃ settled last later : List Lexeme, lexemes = settled ++ last ∧ more = settled ++ later ∧
    ∀ lexeme ∈ last, place ≤ lexeme.span.stop

variable {style : QuoteStyle} {checked endCheck : Bool} {cursor : Cursor} {place position : Nat}
  {lexemes more : List Lexeme}

namespace SettledBefore

theorem of_forall_mem (reach : ∀ lexeme ∈ lexemes, place ≤ lexeme.span.stop) (more : List Lexeme) :
    SettledBefore place lexemes more :=
  ⟨[], lexemes, more, rfl, rfl, reach⟩

theorem behind (settles : SettledBefore place lexemes more) (before : List Lexeme) :
    SettledBefore place (before ++ lexemes) (before ++ more) := by
  obtain ⟨settled, last, later, rfl, rfl, reach⟩ := settles
  exact ⟨before ++ settled, last, later, (List.append_assoc ..).symm, (List.append_assoc ..).symm, reach⟩

theorem getElem? (settles : SettledBefore place lexemes more) {index : Nat} {lexeme : Lexeme}
    (is : lexemes[index]? = some lexeme) (before : lexeme.span.stop < place) : more[index]? = some lexeme := by
  obtain ⟨settled, last, later, rfl, rfl, reach⟩ := settles
  by_cases inside : index < settled.length
  · rw [List.getElem?_append_left inside] at is ⊢
    exact is
  · rw [List.getElem?_append_right (Nat.le_of_not_lt inside)] at is
    have behind := reach lexeme (List.mem_of_getElem? is)
    omega

end SettledBefore

/-! ## Tokens -/

theorem stop_of_accepted {token : Option Lexeme} {moved : Nat} (inside : cursor.atEnd = false)
    (accepts : attempt cursor (tokenizer style checked).recognizers = .accepted token moved)
    (whole : cursor.rest.length ≤ moved) {lexeme : Lexeme} (is : token = some lexeme) :
    lexeme.span.stop = byteLength cursor.text := by
  rcases written_of_accepted inside accepts with ⟨rfl, -⟩ | ⟨kind, text, rfl, -, -⟩
  · cases is
  · cases is
    show cursor.position + byteLength (cursor.rest.take moved) = byteLength cursor.text
    rw [List.take_of_length_le whole, cursor.byteLength_text]

/-- Every token but one that goes up to the end is also a token of the longer source. -/
theorem scan_settles (endCheck : Bool) (cursor : Cursor) (more : List Char) :
    SettledBefore (byteLength cursor.text) ((tokenizer style checked).scan cursor).tokens
      ((tokenizer style endCheck).scan (cursor.extend more)).tokens := by
  induction cursor using (tokenizer style checked).scanInduct with
  | atEnd cursor atEnd =>
      rw [scan_of_atEnd atEnd]
      exact .of_forall_mem (List.forall_mem_nil _) _
  | halted cursor ending moved inside halts =>
      rw [scan_of_halted inside halts]
      exact .of_forall_mem (List.forall_mem_nil _) _
  | accepted cursor token moved inside accepts ih =>
      rw [scan_of_accepted inside accepts, Scan.tokens_behind]
      by_cases before : moved < cursor.rest.length
      · rw [Cursor.forward_text] at ih
        rw [scan_extend_of_accepted endCheck inside accepts before, Scan.tokens_behind]
        exact ih.behind _
      · -- The last piece; what comes with more text behind is left open.
        have whole : cursor.rest.length ≤ moved := Nat.le_of_not_lt before
        rw [scan_of_atEnd (Cursor.atEnd_forward whole)]
        apply SettledBefore.of_forall_mem
        intro lexeme member
        have made : token = some lexeme := by simpa [Scan.tokens] using member
        exact Nat.le_of_eq (stop_of_accepted inside accepts whole made).symm

/-! ## Trailing input -/

/-- The end check fails only where no rule looks for what comes next. -/
theorem next_of_trails {moved : Nat} (inside : cursor.atEnd = false)
    (halts : attempt cursor (tokenizer style true).recognizers =
      .halted (.failed (.unexpectedTrailingInput position)) moved) :
    next style cursor.rest = none ∧ cursor.position = position ∧ moved = 0 := by
  cases opens : cursor.rest with
  | nil => simp [Cursor.atEnd, opens] at inside
  | cons char rest =>
      cases is : next style (char :: rest) with
      | none =>
          rw [attempt_of_next_none opens is] at halts
          cases halts
          exact ⟨rfl, rfl, rfl⟩
      | some comes =>
          rw [attempt_of_next opens is] at halts
          cases comes <;> cases halts

theorem attempt_extend_of_next_none (endCheck : Bool) (inside : cursor.atEnd = false)
    (nothing : next style cursor.rest = none) (decided : cursor.rest ≠ ['#']) (more : List Char) :
    (cursor.extend more).atEnd = false ∧
      attempt (cursor.extend more) (tokenizer style endCheck).recognizers =
        .halted (if endCheck then .failed (.unexpectedTrailingInput cursor.position) else .nothingApplies) 0 := by
  cases opens : cursor.rest with
  | nil => simp [Cursor.atEnd, opens] at inside
  | cons char rest =>
      rw [opens] at nothing decided
      have nothing' := next_append_none nothing (List.cons_ne_nil char rest) decided more
      have opens' : (cursor.extend more).rest = char :: (rest ++ more) := by
        rw [Cursor.extend_rest, opens, List.cons_append]
      exact ⟨atEnd_of_cons opens', attempt_of_next_none opens' nothing'⟩

theorem final_position_of_failed {error : ScanError}
    (fails : ((tokenizer style endCheck).scan cursor).result = .error error) :
    ((tokenizer style endCheck).scan cursor).final.position = error.position := by
  obtain ⟨-, _, _, _, -, -, outcome⟩ := scan_failed fails
  exact (Rule.recognizer_failed outcome).2.1.symm

/-- Trailing input that is not the beginning of a boolean stays trailing input. -/
theorem scan_trails (cursor : Cursor)
    (trails : ((tokenizer style true).scan cursor).ending = .failed (.unexpectedTrailingInput position))
    (decided : ((tokenizer style true).scan cursor).final.rest ≠ ['#']) (more : List Char) :
    ((tokenizer style true).scan (cursor.extend more)).ending =
      .failed (.unexpectedTrailingInput position) := by
  induction cursor using (tokenizer style true).scanInduct with
  | atEnd cursor atEnd =>
      rw [scan_of_atEnd atEnd] at trails
      cases trails
  | halted cursor ending moved inside halts =>
      rw [scan_of_halted inside halts] at trails decided
      obtain rfl : ending = .failed (.unexpectedTrailingInput position) := trails
      obtain ⟨nothing, rfl, rfl⟩ := next_of_trails inside halts
      obtain ⟨inside', halts'⟩ := attempt_extend_of_next_none true inside nothing decided more
      rw [scan_of_halted inside' halts']
      rfl
  | accepted cursor token moved inside accepts ih =>
      rw [scan_of_accepted inside accepts] at trails decided
      have before : moved < cursor.rest.length := by
        by_contra beyond
        rw [scan_of_atEnd (Cursor.atEnd_forward (Nat.le_of_not_lt beyond))] at trails
        cases trails
      rw [scan_extend_of_accepted true inside accepts before]
      exact ih trails decided

/-! ## Whole sources -/

/-- More text behind a source changes no token that ends before the source does, and it does not turn trailing
input into anything else, unless the trailing input is the one character `#`. -/
theorem scanString_stable (style : QuoteStyle) (front rest : String) :
    let alone := fun endCheck => ((tokenizer style endCheck).scanString front).result
    let joined := fun endCheck => ((tokenizer style endCheck).scanString (front ++ rest)).result
    (∀ lexemes more, alone false = .ok lexemes → joined false = .ok more →
      ∀ (index : Nat) (lexeme : Lexeme), lexemes[index]? = some lexeme →
        lexeme.span.stop < front.utf8ByteSize → more[index]? = some lexeme) ∧
    (∀ position, alone true = .error (.unexpectedTrailingInput position) →
      (⟨position, front.utf8ByteSize⟩ : Span).text front.toList ≠ .ok "#" →
        joined true = .error (.unexpectedTrailingInput position)) := by
  intro alone joined
  have size : front.utf8ByteSize = byteLength front.toList := utf8ByteSize_eq front
  constructor
  · intro lexemes more tokens others index lexeme is before
    obtain ⟨rfl, -⟩ := Scan.of_result_eq_ok tokens
    obtain ⟨rfl, -⟩ := Scan.of_result_eq_ok others
    have settles : SettledBefore (byteLength front.toList) ((tokenizer style false).scanString front).tokens
        ((tokenizer style false).scan ((Cursor.ofString front).extend rest.toList)).tokens :=
      scan_settles false (Cursor.ofString front) rest.toList
    rw [← Cursor.ofString_append] at settles
    apply settles.getElem? is
    rwa [← size]
  · intro position fails decided
    have trails := Scan.ending_of_result_eq_error fails
    have stands : ((tokenizer style true).scanString front).final.position = position :=
      final_position_of_failed fails
    have text : ((tokenizer style true).scanString front).final.text = front.toList :=
      scan_final_text (tokenizer style true) (Cursor.ofString front)
    have covers := ((tokenizer style true).scanString front).final.text_upToEnd
    rw [text, stands, ← size] at covers
    have decided' : ((tokenizer style true).scanString front).final.rest ≠ ['#'] := by
      intro single
      apply decided
      rw [covers, Cursor.remaining, single]
    have stays := scan_trails (Cursor.ofString front) trails decided' rest.toList
    show ((tokenizer style true).scan (Cursor.ofString (front ++ rest))).result = _
    rw [Cursor.ofString_append, Scan.result, stays]

/-- Only the string that may go on changes, input behind `#` stays trailing input, and `#` alone does not. -/
theorem scanString_stable_waiting :
    let scan := fun endCheck source => ((tokenizer .doubled endCheck).scanString source).result
    let paren : Lexeme := ⟨.leftParen, "(", ⟨0, 1⟩⟩
    let lexemes : List Lexeme := [paren, ⟨.string, "é", ⟨1, 5⟩⟩]
    let more : List Lexeme := [paren, ⟨.string, "é\"é", ⟨1, 9⟩⟩]
    scan false "(\"é\"" = .ok lexemes ∧ scan false ("(\"é\"" ++ "\"é\"") = .ok more ∧
      more[0]? = some paren ∧
      scan true "x #é" = .error (.unexpectedTrailingInput 2) ∧
      scan true ("x #é" ++ "t") = .error (.unexpectedTrailingInput 2) ∧
      scan true "x #" = .error (.unexpectedTrailingInput 2) ∧
      scan true ("x #" ++ "t") = .ok [⟨.identifier, "x", ⟨0, 1⟩⟩, ⟨.boolean, "#t", ⟨2, 4⟩⟩] := by
  intro scan paren lexemes more
  have tokens : scan false "(\"é\"" = .ok lexemes := by decide +kernel
  have others : scan false ("(\"é\"" ++ "\"é\"") = .ok more := by decide +kernel
  have trails : scan true "x #é" = .error (.unexpectedTrailingInput 2) := by decide +kernel
  have settled : more[0]? = some paren :=
    (scanString_stable .doubled "(\"é\"" "\"é\"").1 lexemes more tokens others 0 paren rfl (by decide +kernel)
  have stays : scan true ("x #é" ++ "t") = .error (.unexpectedTrailingInput 2) :=
    (scanString_stable .doubled "x #é" "t").2 2 trails (by decide +kernel)
  exact ⟨tokens, others, settled, trails, stays, by decide +kernel, by decide +kernel⟩

end LexKit.Sexpr
