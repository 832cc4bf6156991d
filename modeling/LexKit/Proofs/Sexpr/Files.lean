import LexKit.Proofs.Scan.Shift
import LexKit.Proofs.Sexpr.Extension
import LexKit.Proofs.Sexpr.Recovery

/-!
# One file behind another

A source that is taken to its end and whose last line is ended can be followed by any other source: the scan of
both together gives the tokens of the first, and from there on it does what the scan of the second does at a
later place. Blanks at the end of the first may be passed together with blanks at the start of the second, which
makes no difference to tokens, errors or places.
-/

namespace LexKit.Sexpr

open Text Tokenizer

variable {style : QuoteStyle} {checked endCheck : Bool} {cursor : Cursor}

/-! ## Blanks -/

theorem scan_of_blank {char : Char} {rest : List Char} (opens : cursor.rest = char :: rest)
    (blank : Unicode.isBlank char = true) :
    let run := (cursor.rest.takeWhile Unicode.isBlank).length
    (tokenizer style endCheck).scan cursor = ((tokenizer style endCheck).scan (cursor.forward run)).behind
      [⟨none, ⟨cursor.position, (cursor.forward run).position⟩⟩] := by
  intro run
  have lead : Lead.of char = .blank := Lead.of_begins blank
  have size : 1 + (rest.takeWhile Unicode.isBlank).length = run := by
    simp only [run, opens]
    rw [List.takeWhile_cons_of_pos blank, List.length_cons, Nat.add_comm]
  have comes : next style (char :: rest) = some (.gap run) := by
    simp only [next, lead, size]
  exact scan_of_accepted (atEnd_of_cons opens) (attempt_of_next opens comes)

/-- A run of blanks makes no difference but to the pieces that are passed. -/
theorem scan_goesOn_behind_run (style : QuoteStyle) (endCheck : Bool) (cursor : Cursor) :
    ((tokenizer style endCheck).scan cursor).GoesOnAs []
      ((tokenizer style endCheck).scan
        (cursor.forward (cursor.rest.takeWhile Unicode.isBlank).length)) := by
  by_cases none : cursor.rest.takeWhile Unicode.isBlank = []
  · rw [none]
    exact .refl _
  · cases opens : cursor.rest with
    | nil =>
        rw [opens] at none
        exact absurd rfl none
    | cons char rest =>
        have blank : Unicode.isBlank char = true := by
          by_contra other
          rw [opens, List.takeWhile_cons_of_neg other] at none
          exact none rfl
        rw [scan_of_blank opens blank, opens]
        exact (Scan.GoesOnAs.refl _).behind _

theorem scan_goesOn_behind_blanks (style : QuoteStyle) (endCheck : Bool) {blanks after : List Char}
    (blank : ∀ char ∈ blanks, Unicode.isBlank char = true) (opens : cursor.rest = blanks ++ after) :
    ((tokenizer style endCheck).scan cursor).GoesOnAs []
      ((tokenizer style endCheck).scan (cursor.forward blanks.length)) := by
  have whole := scan_goesOn_behind_run style endCheck cursor
  have part := scan_goesOn_behind_run style endCheck (cursor.forward blanks.length)
  rw [opens, List.takeWhile_append_of_pos blank, List.length_append] at whole
  rw [(cursor.forward_over opens).1, Cursor.forward_forward] at part
  exact whole.trans part.symm

/-! ## The scan of the first source -/

/-- What does not reach the end of a source is taken in front of any text. -/
theorem attempt_extend (endCheck : Bool) {comes : Next} (is : next style cursor.rest = some comes)
    (closed : comes ≠ .unclosed) (before : comes.count < cursor.rest.length) (more : List Char) :
    (cursor.extend more).atEnd = false ∧
      attempt (cursor.extend more) (tokenizer style endCheck).recognizers = comes.attempt cursor := by
  have same := next_append is closed before more
  cases opens : cursor.rest with
  | nil =>
      rw [opens] at is
      cases is
  | cons char rest =>
      rw [opens, List.cons_append] at same
      have opens' : (cursor.extend more).rest = char :: (rest ++ more) := by
        rw [Cursor.extend_rest, opens, List.cons_append]
      rw [attempt_of_next opens' same, Next.attempt_extend (Nat.le_of_lt before)]
      exact ⟨atEnd_of_cons opens', rfl⟩

/-- A piece that ends before the source does comes first with any text behind, too. -/
theorem scan_extend_of_accepted (endCheck : Bool) {token : Option Lexeme} {moved : Nat}
    (inside : cursor.atEnd = false)
    (accepts : attempt cursor (tokenizer style checked).recognizers = .accepted token moved)
    (before : moved < cursor.rest.length) (more : List Char) :
    (tokenizer style endCheck).scan (cursor.extend more) =
      ((tokenizer style endCheck).scan ((cursor.forward moved).extend more)).behind
        [⟨token, ⟨cursor.position, (cursor.forward moved).position⟩⟩] := by
  obtain ⟨comes, is, taken⟩ := next_of_accepted inside accepts
  obtain ⟨closed, rfl⟩ := Next.of_attempt_eq_accepted taken
  obtain ⟨inside', same⟩ := attempt_extend endCheck is closed before more
  rw [scan_of_accepted inside' (same.trans taken), Cursor.forward_extend (Nat.le_of_lt before)]
  rfl

/-- A scan that takes all the input takes the same tokens with more text behind, if the last line is ended, and
goes on with that text. -/
theorem scan_extend (endCheck : Bool) (cursor : Cursor) (line : EndsLine cursor.rest)
    (reads : ((tokenizer style checked).scan cursor).ending = .atEnd) (more : List Char) :
    ((tokenizer style endCheck).scan (cursor.extend more)).GoesOnAs
      ((tokenizer style checked).scan cursor).tokens
      ((tokenizer style endCheck).scan ((Cursor.ofList more).prepend cursor.text)) := by
  induction cursor using (tokenizer style checked).scanInduct with
  | atEnd cursor atEnd =>
      have empty : cursor.rest = [] := List.isEmpty_iff.1 atEnd
      have place := cursor.forward_length_extend more
      rw [empty] at place
      rw [scan_of_atEnd atEnd, ← place]
      exact .refl _
  | halted cursor ending moved inside halts =>
      rw [scan_of_halted inside halts] at reads
      obtain rfl : ending = .atEnd := reads
      rcases attempt_halted halts with ⟨other, -⟩ | ⟨other, -⟩ | ⟨other, -⟩ | ⟨error, other⟩ <;>
        cases other
  | accepted cursor token moved inside accepts ih =>
      obtain ⟨comes, is, taken⟩ := next_of_accepted inside accepts
      obtain ⟨closed, rfl⟩ := Next.of_attempt_eq_accepted taken
      rw [scan_of_accepted inside accepts] at reads ⊢
      rcases count_lt_or_blank is line with before | ⟨rfl, blank⟩
      · have line' : EndsLine (cursor.forward comes.count).rest := by
          rw [Cursor.forward_rest]
          exact line.drop _
        have later := ih line' reads
        rw [Cursor.forward_text] at later
        rw [scan_extend_of_accepted endCheck inside accepts before, Scan.tokens_behind]
        exact later.behind _
      · -- The blanks at the end of the source may go on behind it.
        cases taken
        have place := cursor.forward_length_extend more
        have atEnd := Cursor.atEnd_forward (Nat.le_refl cursor.rest.length)
        have passes := scan_goesOn_behind_blanks style endCheck blank (cursor.extend_rest more)
        rw [place] at passes
        rw [Next.count, scan_of_atEnd atEnd]
        exact passes

/-! ## Both sources -/

theorem allShiftInvariant_tokenizer (style : QuoteStyle) (endCheck : Bool) :
    AllShiftInvariant Token.shift (tokenizer style endCheck).recognizers := by
  have kinds : ∀ rule ∈ rules style ++ endRules endCheck,
      Recognizer.Known Token.shift rule.recognizer := by
    intro rule member
    rcases List.mem_append.1 member with inside | check
    · simp only [rules, List.mem_cons, List.not_mem_nil, or_false] at inside
      rcases inside with rfl | rfl | rfl | rfl | rfl | rfl | rfl | rfl | rfl | rfl | rfl | rfl
      · exact .skip (.builtIn _)
      · exact .skip (.builtIn _)
      all_goals exact Recognizer.known_ofKind (.builtIn _) _
    · cases endCheck with
      | false => cases check
      | true =>
          obtain rfl := List.mem_singleton.1 check
          exact .skip (.builtIn _)
  intro recognizer member
  obtain ⟨rule, inside, rfl⟩ := List.mem_map.1 member
  exact (kinds rule inside).shift

theorem endsLine_toList {source : String} (line : source = "" ∨ ∃ lines, source = lines ++ "\n") :
    EndsLine source.toList := by
  intro char last
  rcases line with rfl | ⟨lines, rfl⟩
  · cases last
  · rw [String.toList_append] at last
    have newline : "\n".toList = ['\n'] := rfl
    rw [newline, List.getLast?_append_of_ne_nil _ (List.cons_ne_nil _ _)] at last
    exact (Option.some.inj last).symm

/-- One file behind another. If the first is empty or ends a line, and is taken to its end, then the scan of
both gives the tokens of the first and then what the second gives by itself, with tokens, error and final
position moved by the length of the first. -/
theorem scanString_append (style : QuoteStyle) (endCheck : Bool) {front : String} {lexemes : List Lexeme}
    (line : front = "" ∨ ∃ lines, front = lines ++ "\n")
    (scans : ((tokenizer style true).scanString front).result = .ok lexemes) (rest : String) :
    let alone := (tokenizer style endCheck).scanString rest
    let joined := (tokenizer style endCheck).scanString (front ++ rest)
    let bytes := front.utf8ByteSize
    (∀ more, alone.result = .ok more →
      joined.result = .ok (lexemes ++ more.map (Token.shift · bytes))) ∧
    (∀ error, alone.result = .error error → joined.result = .error (error.shift bytes)) ∧
    joined.final.position = alone.final.position + bytes := by
  intro alone joined bytes
  obtain ⟨tokens, succeeds⟩ := Scan.of_result_eq_ok scans
  have reads : ((tokenizer style true).scanString front).ending = .atEnd := ending_of_endCheck succeeds
  have goesOn : joined.GoesOnAs lexemes (alone.prepend Token.shift front.toList) := by
    have place := Cursor.ofString_append front rest
    have text : (Cursor.ofString front).text = front.toList := rfl
    have goesOn := scan_extend endCheck _ (endsLine_toList line) reads rest.toList
    rw [text, scan_prepend (allShiftInvariant_tokenizer style endCheck), ← place] at goesOn
    rw [tokens]
    exact goesOn
  have size : byteLength front.toList = bytes := (utf8ByteSize_eq front).symm
  have result := goesOn.result_eq
  rw [Scan.result_prepend, size] at result
  refine ⟨?_, ?_, ?_⟩
  · intro more succeeds
    rw [result, succeeds]
    rfl
  · intro error fails
    rw [result, fails]
    rfl
  · rw [goesOn.final_eq, ← size]
    rfl

/-- A blank line between the files, in front of blanks and of a string that is never closed. -/
theorem scanString_append_blanks :
    let front := "\"a\"\"b\" ;é\n \n"
    let scan := fun rest => (tokenizer .doubled true).scanString (front ++ rest)
    ((tokenizer .doubled true).scanString front).result = .ok [⟨.string, "a\"b", ⟨0, 6⟩⟩] ∧
      (scan "  (x").result = .ok [
        ⟨.string, "a\"b", ⟨0, 6⟩⟩, ⟨.leftParen, "(", ⟨15, 16⟩⟩, ⟨.identifier, "x", ⟨16, 17⟩⟩] ∧
      (scan "\"y").result = .error (.unterminatedDelimiter 13) ∧ (scan "\"y").final.position = 13 := by
  intro front scan
  have line : front = "" ∨ ∃ lines, front = lines ++ "\n" := .inr ⟨"\"a\"\"b\" ;é\n ", by decide⟩
  have scans : ((tokenizer .doubled true).scanString front).result = .ok [⟨.string, "a\"b", ⟨0, 6⟩⟩] := by
    decide +kernel
  have names : ((tokenizer .doubled true).scanString "  (x").result =
      .ok [⟨.leftParen, "(", ⟨2, 3⟩⟩, ⟨.identifier, "x", ⟨3, 4⟩⟩] := by
    decide +kernel
  have opened : ((tokenizer .doubled true).scanString "\"y").result =
      .error (.unterminatedDelimiter 0) := by
    decide +kernel
  have stays : ((tokenizer .doubled true).scanString "\"y").final.position = 0 := by decide +kernel
  obtain ⟨taken, -, -⟩ := scanString_append .doubled true line scans "  (x"
  obtain ⟨-, fails, final⟩ := scanString_append .doubled true line scans "\"y"
  refine ⟨scans, ?_, ?_, ?_⟩
  · exact (taken _ names).trans (by decide)
  · exact (fails _ opened).trans (by decide)
  · exact final.trans (by rw [stays]; decide)

end LexKit.Sexpr
