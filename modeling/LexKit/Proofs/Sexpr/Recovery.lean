import LexKit.Proofs.Scan.EndCheck
import LexKit.Proofs.Sexpr.Extent
import LexKit.Proofs.Sexpr.RoundTrip

/-!
# Getting the source back

A scan of an s-expression file loses nothing: what it passed is a gap, and then for each token the one way in
which that token is written, with a gap behind it. Kinds, texts and gaps together therefore give the source
back, up to the place where the scan stopped, which with the end check is its end. Each step of the scan adds
one blank run, one comment or one token in front of what the rest of the scan stands for.
-/

namespace LexKit.Sexpr

open Text Tokenizer

/-- Each token can be written, and behind it there is a gap, up to what is left behind all of them. -/
def Laid (style : QuoteStyle) (left : List Char) : List Item → Prop
  | [] => True
  | item :: items =>
      item.kind.Expressible style item.text.toList ∧
        GapBefore (writtenAll style items ++ left) item.gap ∧ Laid style left items

/-- A text is a gap, then tokens as they are written with a gap behind each, then what is left. -/
structure SplitsInto (style : QuoteStyle) (source lead : List Char) (items : List Item)
    (left : List Char) : Prop where
  source_eq : source = lead ++ writtenAll style items ++ left
  gap : GapBefore (writtenAll style items ++ left) lead
  laid : Laid style left items

variable {style : QuoteStyle} {endCheck : Bool} {cursor : Cursor}
  {source lead left text : List Char} {items : List Item} {kind : Kind} {count : Nat}

/-! ## A text split into tokens and gaps -/

theorem written_item (kind : Kind) (text gap : List Char) :
    Item.written style ⟨kind, String.ofList text, gap⟩ = kind.written style text := by
  rw [Item.written, String.toList_ofList]

theorem splitsInto_nothing : SplitsInto style source [] [] source := ⟨rfl, .nil, trivial⟩

theorem SplitsInto.gap_behind (splits : SplitsInto style (source.drop count) lead items left)
    (comes : next style source = some (.gap count)) :
    SplitsInto style source (source.take count ++ lead) items left := by
  have behind : source.drop count = lead ++ (writtenAll style items ++ left) := by
    rw [splits.source_eq, List.append_assoc]
  refine ⟨?_, next_writtenIn comes lead _ behind splits.gap, splits.laid⟩
  rw [List.append_assoc, List.append_assoc, ← behind, List.take_append_drop]

theorem SplitsInto.token_behind (splits : SplitsInto style (source.drop count) lead items left)
    (expressible : kind.Expressible style text)
    (written : kind.written style text = source.take count) :
    SplitsInto style source [] (⟨kind, String.ofList text, lead⟩ :: items) left := by
  refine ⟨?_, .nil, ?_, splits.gap, splits.laid⟩
  · have parts := splits.source_eq
    rw [writtenAll, List.flatMap_cons, ← writtenAll, written_item, written, List.nil_append,
      List.append_assoc, List.append_assoc, ← List.append_assoc lead, ← parts, List.take_append_drop]
  · rw [String.toList_ofList]
    exact expressible

theorem Laid.cut (laid : Laid style left items) : Laid style [] items := by
  induction items with
  | nil => exact trivial
  | cons item items ih =>
      obtain ⟨expressible, gap, laid⟩ := laid
      refine ⟨expressible, ?_, ih laid⟩
      rw [List.append_nil]
      exact gap.cut

theorem SplitsInto.cut (splits : SplitsInto style source lead items left) :
    SplitsInto style (lead ++ writtenAll style items) lead items [] := by
  refine ⟨(List.append_nil _).symm, ?_, splits.laid.cut⟩
  rw [List.append_nil]
  exact splits.gap.cut

theorem Laid.expressible (laid : Laid style left items) (position : Nat) (lexeme : Lexeme)
    (member : lexeme ∈ lexemesFrom style position items) :
    lexeme.kind.Expressible style lexeme.text.toList := by
  induction items generalizing position with
  | nil => cases member
  | cons item items ih =>
      rcases List.mem_cons.1 member with rfl | later
      · exact laid.1
      · exact ih laid.2.2 _ later

/-- The spans of written tokens cover what was written for them. -/
theorem text_of_mem_lexemesFrom (opens : cursor.rest = writtenAll style items ++ left) {lexeme : Lexeme}
    (member : lexeme ∈ lexemesFrom style cursor.position items) :
    lexeme.span.text cursor.text =
      .ok (String.ofList (lexeme.kind.written style lexeme.text.toList)) := by
  induction items generalizing cursor with
  | nil => cases member
  | cons item items ih =>
      rw [writtenAll, List.flatMap_cons, ← writtenAll, List.append_assoc, List.append_assoc] at opens
      rcases List.mem_cons.1 member with rfl | later
      · have covers := cursor.text_spanOf (item.written style).length
        rw [Cursor.spanOf, Cursor.textOf, opens, List.take_left] at covers
        exact covers
      · rw [← List.append_assoc] at opens
        obtain ⟨behind, position⟩ := cursor.forward_over opens
        rw [byteLength_append, ← Nat.add_assoc] at position
        rw [← position] at later
        have covers := ih behind later
        rwa [Cursor.forward_text] at covers

/-! ## The course of the scan -/

/-- Where nothing comes that a rule looks for, the end check is asked, which accepts nothing here. -/
theorem attempt_of_next_none (opens : cursor.rest = char :: rest) (nothing : next style (char :: rest) = none) :
    attempt cursor (tokenizer style endCheck).recognizers =
      .halted (if endCheck then .failed (.unexpectedTrailingInput cursor.position) else .nothingApplies) 0 := by
  have rules := attempt_rules opens ((endRules endCheck).map Rule.recognizer) style
  rw [opens, nothing] at rules
  rw [tokenizer, ofRules, List.map_append]
  apply rules.trans
  cases endCheck with
  | false => rfl
  | true => exact attempt_endCheck (atEnd_of_cons opens) []

theorem next_of_accepted {token : Option Lexeme} {moved : Nat} (inside : cursor.atEnd = false)
    (accepts : attempt cursor (tokenizer style endCheck).recognizers = .accepted token moved) :
    ∃ comes, next style cursor.rest = some comes ∧ comes.attempt cursor = .accepted token moved := by
  cases opens : cursor.rest with
  | nil => simp [Cursor.atEnd, opens] at inside
  | cons char rest =>
      cases is : next style (char :: rest) with
      | none =>
          rw [attempt_of_next_none opens is] at accepts
          cases accepts
      | some comes => exact ⟨comes, rfl, (attempt_of_next opens is).symm.trans accepts⟩

/-- What an attempt accepts is a piece of a gap, or a token as it is written. -/
theorem written_of_accepted {token : Option Lexeme} {moved : Nat} (inside : cursor.atEnd = false)
    (accepts : attempt cursor (tokenizer style endCheck).recognizers = .accepted token moved) :
    (token = none ∧ next style cursor.rest = some (.gap moved)) ∨
      ∃ kind text, token = some ⟨kind, String.ofList text, cursor.spanOf moved⟩ ∧
        kind.Expressible style text ∧ kind.written style text = cursor.rest.take moved := by
  obtain ⟨comes, is, taken⟩ := next_of_accepted inside accepts
  have written := next_writtenIn is
  cases comes with
  | gap count =>
      cases taken
      exact .inl ⟨rfl, is⟩
  | plain kind count =>
      cases taken
      exact .inr ⟨kind, cursor.rest.take moved, rfl, written⟩
  | region kind text count =>
      cases taken
      exact .inr ⟨kind, text, rfl, written⟩
  | unclosed => cases taken

theorem scan_splits (cursor : Cursor)
    (succeeds : ∀ error, ((tokenizer style endCheck).scan cursor).ending ≠ .failed error) :
    ∃ lead items,
      SplitsInto style cursor.rest lead items ((tokenizer style endCheck).scan cursor).final.rest ∧
      ((tokenizer style endCheck).scan cursor).tokens =
        lexemesFrom style (cursor.position + byteLength lead) items := by
  induction cursor using (tokenizer style endCheck).scanInduct with
  | atEnd cursor atEnd =>
      rw [scan_of_atEnd atEnd]
      exact ⟨[], [], splitsInto_nothing, rfl⟩
  | halted cursor ending moved inside halts =>
      rw [scan_of_halted inside halts] at succeeds ⊢
      rcases attempt_halted_of_keepsRules keepsRules_of_mem_ofRules inside halts with
        ⟨rfl, rfl⟩ | ⟨error, rfl⟩
      · exact ⟨[], [], splitsInto_nothing, rfl⟩
      · exact absurd rfl (succeeds error)
  | accepted cursor token moved inside accepts ih =>
      rw [scan_of_accepted inside accepts] at succeeds ⊢
      obtain ⟨lead, items, splits, tokens⟩ := ih succeeds
      rw [Cursor.forward_rest] at splits
      rw [Cursor.forward_position] at tokens
      rcases written_of_accepted inside accepts with ⟨rfl, comes⟩ | ⟨kind, text, rfl, expressible, written⟩
      · refine ⟨_, items, splits.gap_behind comes, ?_⟩
        rw [byteLength_append, ← Nat.add_assoc]
        exact tokens
      · refine ⟨[], _, splits.token_behind expressible written, ?_⟩
        rw [byteLength_nil, Nat.add_zero, lexemesFrom, written_item, written, ← tokens]
        rfl

theorem ending_of_endCheck
    (succeeds : ∀ error, ((tokenizer style true).scan cursor).ending ≠ .failed error) :
    ((tokenizer style true).scan cursor).ending = .atEnd := by
  have checked := scan_orElse_endCheck (tokenizer style false) empty cursor
  rw [← tokenizer_checked] at checked
  have keeps : ∀ recognizer ∈ (tokenizer style true).recognizers, KeepsRules recognizer :=
    keepsRules_of_mem_ofRules
  rcases scan_ending_of_keepsRules keeps cursor with ending | ending | ⟨error, ending⟩
  · exact ending
  · rw [checked] at ending
    unfold Scan.checked Ending.checked at ending
    split at ending
    · cases ending
    · rename_i other
      exact absurd ending other
  · exact absurd ending (succeeds error)

theorem rest_eq_nil_of_endCheck
    (succeeds : ∀ error, ((tokenizer style true).scan cursor).ending ≠ .failed error) :
    ((tokenizer style true).scan cursor).final.rest = [] := by
  have ends := (tokenizer style true).scan_endsAs cursor
  rw [ending_of_endCheck succeeds] at ends
  obtain ⟨atEnd, same⟩ := ends
  rw [same]
  exact List.isEmpty_iff.1 atEnd

/-- A scan that gives tokens loses nothing. The source, up to the place where the scan stops, which with the
end check is its end, is a gap and then for each token the one way to write its kind and text, with a gap
behind it; and what is written for a token is just what its span covers. -/
theorem scanString_loses_nothing (style : QuoteStyle) (endCheck : Bool) (source : String)
    {lexemes : List Lexeme}
    (succeeds : ((tokenizer style endCheck).scanString source).result = .ok lexemes) :
    ∃ lead items left,
      SplitsInto style source.toList lead items left ∧
      SplitsInto style (lead ++ writtenAll style items) lead items [] ∧
      byteLength (lead ++ writtenAll style items) =
        ((tokenizer style endCheck).scanString source).final.position ∧
      (endCheck = true → left = []) ∧
      lexemes = lexemesFrom style (byteLength lead) items ∧
      ∀ lexeme ∈ lexemes, lexeme.kind.Expressible style lexeme.text.toList ∧
        lexeme.span.text source.toList =
          .ok (String.ofList (lexeme.kind.written style lexeme.text.toList)) := by
  let cursor := Cursor.ofString source
  let scan := (tokenizer style endCheck).scan cursor
  obtain ⟨given, ending⟩ := Scan.of_result_eq_ok succeeds
  obtain ⟨lead, items, splits, tokens⟩ := scan_splits cursor ending
  have start : cursor.position + byteLength lead = byteLength lead := Nat.zero_add _
  have same : lexemes = lexemesFrom style (byteLength lead) items := by
    rw [start] at tokens
    exact given.trans tokens
  have parts : source.toList = lead ++ writtenAll style items ++ scan.final.rest := splits.source_eq
  refine ⟨lead, items, scan.final.rest, splits, splits.cut, ?_, ?_, same, ?_⟩
  · -- Both are what is passed in front of the same rest.
    have size := scan.final.byteLength_text
    have text : scan.final.text = source.toList := scan_final_text _ cursor
    rw [text, parts, byteLength_append] at size
    exact Nat.add_right_cancel size
  · rintro rfl
    exact rest_eq_nil_of_endCheck ending
  · intro lexeme member
    rw [same] at member
    refine ⟨splits.laid.expressible _ lexeme member, ?_⟩
    obtain ⟨behind, position⟩ := cursor.forward_over (parts.trans (List.append_assoc _ _ _))
    rw [start] at position
    rw [← position] at member
    have covers := text_of_mem_lexemesFrom behind member
    rwa [Cursor.forward_text] at covers

/-- Tokens without a gap between them, closing characters inside two of them, and a comment at the end. -/
theorem scanString_loses_nothing_adjacent :
    let source := "\"a\"\"b\"\x7b^\x7d\x7d<=x?;end"
    let lexemes : List Lexeme := [
      ⟨.string, "a\"b", ⟨0, 6⟩⟩, ⟨.block, "\x7d", ⟨6, 10⟩⟩, ⟨.operator, "<=", ⟨10, 12⟩⟩,
      ⟨.identifier, "x?", ⟨12, 14⟩⟩]
    ((tokenizer .doubled true).scanString source).result = .ok lexemes ∧
      ∃ lead items, SplitsInto .doubled source.toList lead items [] ∧
        lexemes = lexemesFrom .doubled (byteLength lead) items := by
  intro source lexemes
  have succeeds : ((tokenizer .doubled true).scanString source).result = .ok lexemes := by
    decide +kernel
  obtain ⟨lead, items, left, splits, -, -, all, same, -⟩ :=
    scanString_loses_nothing .doubled true source succeeds
  rw [all rfl] at splits
  exact ⟨succeeds, lead, items, splits, same⟩

end LexKit.Sexpr
