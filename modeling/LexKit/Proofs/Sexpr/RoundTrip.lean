import LexKit.Proofs.Scan.Course
import LexKit.Proofs.Sexpr.Writing

/-!
# Scanning what was written

Tokens that are written one after another, with gaps between them, are scanned back as they were, in either
style and with or without the end check. A gap is passed piece by piece, each blank run and each comment
being one; then the next token is taken, which the gap behind it cannot prolong.
-/

namespace LexKit.Sexpr

open Text Tokenizer

/-- A token as it is to be written, and the gap behind it. -/
structure Item where
  kind : Kind
  text : String
  gap : List Char

namespace Item

def written (style : QuoteStyle) (item : Item) : List Char := item.kind.written style item.text.toList

end Item

def writtenAll (style : QuoteStyle) (items : List Item) : List Char :=
  items.flatMap fun item => item.written style ++ item.gap

/-- Each token can be written, and between any two there is a gap that is not empty. -/
def Separated (style : QuoteStyle) : List Item → Prop
  | [] => True
  | item :: items =>
      item.kind.Expressible style item.text.toList ∧ Gap item.gap ∧ (items ≠ [] → item.gap ≠ []) ∧
        Separated style items

/-- The tokens that are scanned back, where the first is written at a position. -/
def lexemesFrom (style : QuoteStyle) : Nat → List Item → List Lexeme
  | _, [] => []
  | position, item :: items =>
      let stop := position + byteLength (item.written style)
      ⟨item.kind, item.text, ⟨position, stop⟩⟩ ::
        lexemesFrom style (stop + byteLength item.gap) items

theorem map_lexemesFrom (style : QuoteStyle) (position : Nat) (items : List Item) :
    (lexemesFrom style position items).map (fun lexeme => (lexeme.kind, lexeme.text)) =
      items.map fun item => (item.kind, item.text) := by
  induction items generalizing position with
  | nil => rfl
  | cons item items ih => simp [lexemesFrom, ih]

variable {style : QuoteStyle} {endCheck : Bool} {cursor : Cursor} {tokens : List Lexeme}

theorem attempt_of_next {char : Char} {rest : List Char} (opens : cursor.rest = char :: rest) {comes : Next}
    (is : next style (char :: rest) = some comes) :
    attempt cursor (tokenizer style endCheck).recognizers = comes.attempt cursor := by
  have rules := attempt_rules opens ((endRules endCheck).map Rule.recognizer) style
  rw [opens, is] at rules
  rw [tokenizer, ofRules, List.map_append]
  exact rules

theorem atEnd_of_cons {char : Char} {rest : List Char} (opens : cursor.rest = char :: rest) :
    cursor.atEnd = false := by
  rw [Cursor.atEnd, opens]
  rfl

/-- A gap is passed up to what comes behind it, if that does not prolong its last run of blanks. -/
theorem readsAll_behind_gap {gap after : List Char} (isGap : Gap gap)
    (fresh : ∀ char, after.head? = some char → Unicode.isBlank char = false)
    (opens : cursor.rest = gap ++ after)
    (reads : (tokenizer style endCheck).ReadsAll (cursor.forward gap.length) tokens) :
    (tokenizer style endCheck).ReadsAll cursor tokens := by
  induction size : gap.length using Nat.strongRecOn generalizing gap cursor with
  | _ length ih =>
      subst size
      by_cases present : gap = []
      · subst present
        exact reads
      · obtain ⟨piece, left, rfl, some, isLeft, comes⟩ := isGap.exists_piece present fresh
        rw [List.append_assoc] at opens
        rw [List.length_append, ← Cursor.forward_forward] at reads
        have shorter : left.length < (piece ++ left).length := by
          have := List.length_pos_iff.2 some
          rw [List.length_append]
          omega
        have behind : (cursor.forward piece.length).rest = left ++ after := by
          rw [Cursor.forward_rest, opens, List.drop_left]
        have next := ih left.length shorter isLeft behind reads rfl
        cases piece with
        | nil => exact absurd rfl some
        | cons char piece => exact next.of_accepted (atEnd_of_cons opens) (attempt_of_next opens comes)

/-- A written token is taken, if what comes behind it ends it. -/
theorem readsAll_behind_written {kind : Kind} {text after : List Char}
    (expressible : kind.Expressible style text) (stops : Stops after)
    (opens : cursor.rest = kind.written style text ++ after)
    (reads : (tokenizer style endCheck).ReadsAll
      (cursor.forward (kind.written style text).length) tokens) :
    (tokenizer style endCheck).ReadsAll cursor
      (⟨kind, String.ofList text, cursor.spanOf (kind.written style text).length⟩ :: tokens) := by
  obtain ⟨first, tail, starts, -⟩ := written_starts expressible
  have comes := next_written expressible stops
  have taken : (kind.next text (kind.written style text).length).attempt cursor =
      .accepted (some ⟨kind, String.ofList text, cursor.spanOf (kind.written style text).length⟩)
        (kind.written style text).length := by
    have same : cursor.rest.take (kind.written style text).length = kind.written style text := by
      rw [opens, List.take_left]
    cases kind with
    | string | block => rfl
    | leftParen | rightParen | operator | boolean | integer | identifier =>
        simp only [Kind.next, Next.attempt, Cursor.textOf, same]
        rfl
  have accepts := taken
  have opens' : cursor.rest = first :: (tail ++ after) := by rw [opens, starts, List.cons_append]
  rw [← opens, opens'] at comes
  rw [← attempt_of_next opens' comes] at accepts
  exact reads.of_accepted (atEnd_of_cons opens') accepts

theorem writtenAll_fresh {items : List Item} (separated : Separated style items) (char : Char)
    (first : (writtenAll style items).head? = some char) : Unicode.isBlank char = false := by
  cases items with
  | nil => cases first
  | cons item items =>
      obtain ⟨head, tail, starts, fresh⟩ := written_starts separated.1
      rw [writtenAll, List.flatMap_cons, Item.written, starts] at first
      cases first
      exact fresh

/-- Tokens that are written one after another are scanned back. -/
theorem readsAll_writtenAll {items : List Item} (separated : Separated style items)
    (opens : cursor.rest = writtenAll style items) :
    (tokenizer style endCheck).ReadsAll cursor (lexemesFrom style cursor.position items) := by
  induction items generalizing cursor with
  | nil =>
      refine readsAll_of_atEnd ?_
      rw [Cursor.atEnd, opens]
      rfl
  | cons item items ih =>
      obtain ⟨expressible, isGap, apart, separated⟩ := separated
      -- Only the last gap may be empty, and behind it the input ends.
      have stops : Stops (item.gap ++ writtenAll style items) := by
        by_cases last : item.gap = []
        · have none : items = [] := by
            by_contra more
            exact apart more last
          rw [last, none]
          exact stops_nil
        · exact isGap.stops last _
      rw [writtenAll, List.flatMap_cons, List.append_assoc, ← writtenAll] at opens
      have behind : (cursor.forward (item.written style).length).rest =
          item.gap ++ writtenAll style items := by
        rw [Cursor.forward_rest, opens, List.drop_left]
      have position : ((cursor.forward (item.written style).length).forward item.gap.length).position =
          cursor.position + byteLength (item.written style) + byteLength item.gap := by
        rw [Cursor.forward_position, behind, List.take_left, Cursor.forward_position, opens,
          List.take_left]
      have rest := ih separated (by rw [Cursor.forward_rest, behind, List.drop_left])
      rw [position] at rest
      have gap := readsAll_behind_gap isGap (writtenAll_fresh separated) behind rest
      have token := readsAll_behind_written expressible stops opens gap
      rw [String.ofList_toList] at token
      have span : cursor.spanOf (item.written style).length =
          ⟨cursor.position, cursor.position + byteLength (item.written style)⟩ := by
        rw [Cursor.spanOf, opens, List.take_left]
      rw [lexemesFrom, ← span]
      exact token

/-- Printing tokens and scanning them back is the identity: whatever tokens are written, and whatever gaps
stand before, between and behind them, the scan takes all the input and gives the same kinds and texts, each
with the span of what was written for it. -/
theorem scanString_written (style : QuoteStyle) (endCheck : Bool) {lead : List Char} {items : List Item}
    (leads : Gap lead) (separated : Separated style items) :
    let source := lead ++ writtenAll style items
    let scan := (tokenizer style endCheck).scanString (String.ofList source)
    let lexemes := lexemesFrom style (byteLength lead) items
    scan.result = .ok lexemes ∧
      lexemes.map (fun lexeme => (lexeme.kind, lexeme.text)) =
        items.map (fun item => (item.kind, item.text)) ∧
      scan.final.position = byteLength source := by
  intro source scan lexemes
  have opens : (Cursor.ofString (String.ofList source)).rest = lead ++ writtenAll style items := by
    simp [Cursor.ofString, Cursor.ofList, source]
  have position : ((Cursor.ofString (String.ofList source)).forward lead.length).position =
      byteLength lead := by
    rw [Cursor.forward_position, opens, List.take_left]
    exact Nat.zero_add _
  have written : ((Cursor.ofString (String.ofList source)).forward lead.length).rest =
      writtenAll style items := by
    rw [Cursor.forward_rest, opens, List.drop_left]
  have tokens : (tokenizer style endCheck).ReadsAll _ (lexemesFrom style _ items) :=
    readsAll_writtenAll separated written
  rw [position] at tokens
  have reads := readsAll_behind_gap leads (writtenAll_fresh separated) opens tokens
  have text : (Cursor.ofString (String.ofList source)).text = source := opens
  refine ⟨reads.result_eq, map_lexemesFrom style _ items, ?_⟩
  rw [← text]
  exact reads.final_position

/-- Quotes and escapes in a string, which the styles write differently, a comment that looks like a string, and a
closing brace in a block. -/
theorem scanString_written_escapes :
    let items : List Item := [
      ⟨.string, "a\"b\\\\", ";\"x\n".toList⟩, ⟨.block, "\x7d;", [' ']⟩, ⟨.operator, "<", []⟩]
    let escaped := [' '] ++ writtenAll .backslash items
    let doubled := [' '] ++ writtenAll .doubled items
    Gap [' '] ∧ Separated .backslash items ∧ Separated .doubled items ∧
      escaped = " \"a\\\"b\\\\\";\"x\n\x7b^\x7d;\x7d <".toList ∧
      doubled = " \"a\"\"b\\\\\";\"x\n\x7b^\x7d;\x7d <".toList ∧
      ((tokenizer .backslash true).scanString (String.ofList escaped)).result = .ok [
        ⟨.string, "a\"b\\\\", ⟨1, 9⟩⟩, ⟨.block, "\x7d;", ⟨13, 18⟩⟩, ⟨.operator, "<", ⟨19, 20⟩⟩] ∧
      ((tokenizer .doubled false).scanString (String.ofList doubled)).result = .ok [
        ⟨.string, "a\"b\\\\", ⟨1, 9⟩⟩, ⟨.block, "\x7d;", ⟨13, 18⟩⟩, ⟨.operator, "<", ⟨19, 20⟩⟩] := by
  intro items escaped doubled
  have line : '\n' ∉ ['"', 'x'] := by decide
  have comment : Gap ";\"x\n".toList := .comment line .nil
  have leads : Gap [' '] := .blank rfl .nil
  have expressible (style : QuoteStyle) : ∀ item ∈ items, item.kind.Expressible style item.text.toList := by
    cases style <;> decide
  have separated (style : QuoteStyle) : Separated style items :=
    ⟨expressible style _ (.head _), comment, fun _ => by decide, expressible style _ (.tail _ (.head _)),
      .blank rfl .nil, fun _ => by decide, expressible style _ (.tail _ (.tail _ (.head _))), .nil,
      fun more => absurd rfl more, trivial⟩
  obtain ⟨result, -⟩ := scanString_written .backslash true leads (separated .backslash)
  obtain ⟨result', -⟩ := scanString_written .doubled false leads (separated .doubled)
  exact ⟨leads, separated .backslash, separated .doubled, by decide, by decide, result.trans (by decide),
    result'.trans (by decide)⟩

end LexKit.Sexpr
