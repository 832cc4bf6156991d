import LexKit.Proofs.Sexpr.Files

/-!
# The rules as a lexer

A lexer that looks at the next character and goes one way, without trying anything else, does the same as the
ordered rules: the tokens with their spans, the error and the place where it stops are equal on every source.
So no rule hides another, and no rule stops before the end of what it looks for.
-/

namespace LexKit.Sexpr

open Text Tokenizer

/-- What a lexer makes of a source: the tokens or an error, and the position where it stops. -/
structure Lexed where
  result : Except ScanError (List Lexeme)
  stop : Nat

def Lexed.behind (before : List Lexeme) (lexed : Lexed) : Lexed :=
  { lexed with result := lexed.result.map (before ++ ·) }

/-- What is seen of a scan from outside. -/
def lexedOf (scan : Scan Lexeme) : Lexed := ⟨scan.result, scan.final.position⟩

def Next.lexeme? (position : Nat) (source : List Char) : Next → Option Lexeme
  | .gap _ | .unclosed => none
  | .plain kind count =>
      let taken := source.take count
      some ⟨kind, String.ofList taken, ⟨position, position + byteLength taken⟩⟩
  | .region kind text count =>
      some ⟨kind, String.ofList text, ⟨position, position + byteLength (source.take count)⟩⟩

variable {style : QuoteStyle} {endCheck : Bool} {char : Char} {rest source : List Char} {comes : Next}
  {cursor : Cursor}

theorem count_pos_of_next (is : next style source = some comes) (closed : comes ≠ .unclosed) :
    0 < comes.count := by
  have written := next_writtenIn is
  have taken (kind : Kind) (text : List Char) (count : Nat) (expressible : kind.Expressible style text)
      (same : kind.written style text = source.take count) : 0 < count := by
    obtain ⟨first, tail, starts, -⟩ := written_starts expressible
    rw [starts] at same
    cases count with
    | zero => cases same
    | succ count => exact Nat.succ_pos count
  cases comes with
  | unclosed => exact absurd rfl closed
  | plain kind count => exact taken kind _ count written.1 written.2
  | region kind text count => exact taken kind text count written.1 written.2
  | gap count =>
      cases source with
      | nil => cases is
      | cons char rest =>
          obtain ⟨property, size, -⟩ := run_of_next_gap is
          show 0 < count
          omega

/-! ## The lexer -/

/-- Goes on from a position with the text that is left there. -/
def lexFrom (style : QuoteStyle) (endCheck : Bool) (position : Nat) (source : List Char) : Lexed :=
  if source = [] then ⟨.ok [], position⟩
  else
    match _is : next style source with
    | none => ⟨if endCheck then .error (.unexpectedTrailingInput position) else .ok [], position⟩
    | some comes =>
        if _closed : comes = .unclosed then ⟨.error (.unterminatedDelimiter position), position⟩
        else
          (lexFrom style endCheck (position + byteLength (source.take comes.count))
            (source.drop comes.count)).behind (comes.lexeme? position source).toList
termination_by source.length
decreasing_by
  have positive := count_pos_of_next _is _closed
  have present : 0 < source.length := List.length_pos_iff.2 ‹_›
  rw [List.length_drop]
  omega

def lex (style : QuoteStyle) (endCheck : Bool) (source : String) : Lexed :=
  lexFrom style endCheck 0 source.toList

/-! ## The rules do the same -/

theorem attempt_of_closed (closed : comes ≠ .unclosed) :
    comes.attempt cursor = .accepted (comes.lexeme? cursor.position cursor.rest) comes.count := by
  cases comes with
  | unclosed => exact absurd rfl closed
  | gap | plain | region => rfl

/-- From any place on, the rules do what the lexer does. -/
theorem lexedOf_scan {position : Nat} (stands : cursor.position = position) (opens : cursor.rest = source) :
    lexedOf ((tokenizer style endCheck).scan cursor) = lexFrom style endCheck position source := by
  fun_induction lexFrom style endCheck position source generalizing cursor with
  | case1 position =>
      have atEnd : cursor.atEnd = true := List.isEmpty_iff.2 opens
      rw [scan_of_atEnd atEnd, ← stands]
      rfl
  | case2 position source present nothing =>
      obtain ⟨char, rest, rfl⟩ := List.exists_cons_of_ne_nil present
      rw [scan_of_halted (atEnd_of_cons opens) (attempt_of_next_none opens nothing), ← stands]
      cases endCheck <;> rfl
  | case3 position source present is =>
      obtain ⟨char, rest, rfl⟩ := List.exists_cons_of_ne_nil present
      rw [scan_of_halted (atEnd_of_cons opens) (attempt_of_next opens is), ← stands]
      rfl
  | case4 position source present comes is closed ih =>
      obtain ⟨char, rest, rfl⟩ := List.exists_cons_of_ne_nil present
      have accepts : attempt cursor (tokenizer style endCheck).recognizers = comes.attempt cursor :=
        attempt_of_next opens is
      rw [attempt_of_closed closed] at accepts
      have later := @ih (cursor.forward comes.count)
        (by rw [Cursor.forward_position, stands, opens]) (by rw [Cursor.forward_rest, opens])
      rw [scan_of_accepted (atEnd_of_cons opens) accepts, ← later, stands, opens]
      unfold lexedOf
      rw [Scan.result_behind]
      cases comes.lexeme? position (char :: rest) <;> rfl

/-- The rules in their order and the lexer that goes by the next character agree on every source, in either style
and with or without the end check, in tokens, spans, errors and the final position. -/
theorem scanString_eq_lex (style : QuoteStyle) (endCheck : Bool) (source : String) :
    lexedOf ((tokenizer style endCheck).scanString source) = lex style endCheck source :=
  lexedOf_scan rfl rfl

/-- The same text is one string in one style, and in the other a string in front of one that is never closed. -/
theorem scanString_eq_lex_escapes :
    let doubled := "\"a\"\"b\\\" \x7b^\x7d\x7d"
    let escaped := "\"a\"\"b\\\"c\" \x7b^\x7d\x7d"
    (lex .doubled true doubled).result =
        .ok [⟨.string, "a\"b\\", ⟨0, 7⟩⟩, ⟨.block, "\x7d", ⟨8, 12⟩⟩] ∧
      (lex .doubled true doubled).stop = 12 ∧
      (lex .backslash true doubled).result = .error (.unterminatedDelimiter 3) ∧
      (lex .backslash true doubled).stop = 3 ∧
      (lex .backslash true escaped).result =
        .ok [⟨.string, "a", ⟨0, 3⟩⟩, ⟨.string, "b\"c", ⟨3, 9⟩⟩, ⟨.block, "\x7d", ⟨10, 14⟩⟩] ∧
      (lex .backslash true escaped).stop = 14 := by
  intro doubled escaped
  rw [← scanString_eq_lex .doubled true doubled, ← scanString_eq_lex .backslash true doubled,
    ← scanString_eq_lex .backslash true escaped]
  decide +kernel

end LexKit.Sexpr
