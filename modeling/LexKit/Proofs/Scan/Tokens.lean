import LexKit.Proofs.Primitive.Attempt
import LexKit.Proofs.Scan.Discipline
import LexKit.Token

/-!
# Where tokens lie

A token made of a built-in match is told its span by the matcher, while the scan knows of a piece only how
far the cursor went for it. The two agree for every piece: whichever rule made it, at whatever place, the
match covers just what was passed. So the tokens of a scan that succeeds lie in order in the pieces that tile
the accepted input, and each of them that was not taken out of a delimited region has the text that it covers.
-/

namespace LexKit

open Text

namespace Span.Tile

variable {start stop : Nat} {spans : List Span}

theorem le (tile : Span.Tile start spans stop) : start ≤ stop := by
  induction spans generalizing start with
  | nil => exact Nat.le_of_eq tile
  | cons span spans ih =>
      obtain ⟨first, covers, rest⟩ := tile
      have later := ih rest
      omega

theorem bounds (tile : Span.Tile start spans stop) {span : Span} (member : span ∈ spans) :
    start ≤ span.start ∧ span.start < span.stop ∧ span.stop ≤ stop := by
  induction spans generalizing start with
  | nil => cases member
  | cons first spans ih =>
      obtain ⟨begins, covers, rest⟩ := tile
      rcases List.mem_cons.1 member with rfl | later
      · have := rest.le
        omega
      · have := ih rest later
        omega

theorem pairwise (tile : Span.Tile start spans stop) :
    spans.Pairwise fun first second => first.stop ≤ second.start := by
  induction spans generalizing start with
  | nil => exact .nil
  | cons span spans ih =>
      obtain ⟨-, -, rest⟩ := tile
      exact .cons (fun later member => (rest.bounds member).1) (ih rest)

theorem existsUnique (tile : Span.Tile start spans stop) {byte : Nat} (low : start ≤ byte)
    (high : byte < stop) :
    ∃! index : Nat, ∃ span : Span, spans[index]? = some span ∧ span.start ≤ byte ∧ byte < span.stop := by
  induction spans generalizing start with
  | nil =>
      have same : start = stop := tile
      omega
  | cons span spans ih =>
      obtain ⟨begins, covers, rest⟩ := tile
      by_cases inside : byte < span.stop
      · refine ⟨0, ⟨span, rfl, by omega, inside⟩, ?_⟩
        rintro (_ | index) ⟨other, found, first, last⟩
        · rfl
        · have := rest.bounds (List.mem_of_getElem? found)
          omega
      · obtain ⟨index, ⟨other, found, covered⟩, unique⟩ := ih rest (by omega)
        refine ⟨index + 1, ⟨other, found, covered⟩, ?_⟩
        rintro (_ | second) ⟨another, found, first, last⟩
        · cases found
          exact absurd last inside
        · exact congrArg (· + 1) (unique second ⟨another, found, first, last⟩)

end Span.Tile

theorem Outcome.map_eq_matched {α β : Type} {f : α → β} {outcome : Outcome α} {result : β}
    (matched : outcome.map f = .matched result) : ∃ value, outcome = .matched value ∧ f value = result := by
  cases outcome with
  | matched value =>
      cases matched
      exact ⟨value, rfl, rfl⟩
  | noMatch | failed => cases matched

namespace Tokenizer

variable {τ : Type} {rules : List (Rule τ)} {cursor place : Cursor} {rule : Rule τ} {piece : Piece τ}

/-- A rule makes a piece at a place: it is the first that does not decline there, its match says what the
token is, and the piece covers what it passed. -/
structure Makes (rules : List (Rule τ)) (place : Cursor) (rule : Rule τ) (piece : Piece τ) : Prop where
  first : ∃ before after, rules = before ++ rule :: after ∧
    ∀ other ∈ before, Declines place other.recognizer
  outcome_eq : (rule.recognizer place).outcome = .matched piece.token
  span_eq : piece.span = ⟨place.position, ((rule.recognizer place).next place).position⟩

theorem makes_of_attempt {token : Option τ} {moved : Nat}
    (accepts : attempt cursor (ofRules rules).recognizers = .accepted token moved) :
    ∃ rule, Makes rules cursor rule ⟨token, ⟨cursor.position, (cursor.forward moved).position⟩⟩ := by
  rcases attempt_ofRules_cases cursor rules with
    ⟨-, nothing⟩ | ⟨before, rule, after, parts, declines, decides⟩
  · cases accepts.symm.trans nothing
  · rw [accepts] at decides
    cases decides with
    | accepts outcome moves => exact ⟨rule, ⟨before, after, parts, declines⟩, outcome, rfl⟩

/-- Each piece of a scan is made somewhere in its input. -/
theorem exists_makes (rules : List (Rule τ)) (cursor : Cursor) (piece : Piece τ)
    (member : piece ∈ ((ofRules rules).scan cursor).pieces) :
    ∃ place rule, place.text = cursor.text ∧ Makes rules place rule piece := by
  induction cursor using (ofRules rules).scanInduct with
  | atEnd cursor atEnd =>
      rw [scan_of_atEnd atEnd] at member
      cases member
  | halted cursor ending moved inside halts =>
      rw [scan_of_halted inside halts] at member
      cases member
  | accepted cursor token moved inside accepts ih =>
      rw [scan_of_accepted inside accepts, Scan.behind_pieces] at member
      rcases List.mem_cons.1 member with rfl | later
      · obtain ⟨rule, makes⟩ := makes_of_attempt accepts
        exact ⟨cursor, rule, rfl, makes⟩
      · obtain ⟨place, rule, same, makes⟩ := ih later
        exact ⟨place, rule, same.trans (cursor.forward_text moved), makes⟩

namespace Makes

theorem boundaries (makes : Makes rules place rule piece) :
    IsBoundary place.text piece.span.start ∧ IsBoundary place.text piece.span.stop := by
  have stop := ((rule.recognizer place).next place).isBoundary_position
  have text : ((rule.recognizer place).next place).text = place.text := Cursor.forward_text _ _
  rw [text] at stop
  rw [makes.span_eq]
  exact ⟨place.isBoundary_position, stop⟩

/-- The token of a piece is made of the piece's own span, and of the text there, unless that was taken out of a
delimited region. -/
theorem token_eq (makes : Makes rules place rule piece) {token : τ} (some : piece.token = some token) :
    ∃ primitive make text, rule = .emit primitive make ∧ token = make text piece.span ∧
      ((∀ region, primitive ≠ .delimited region) → piece.span.text place.text = .ok text) := by
  have outcome := makes.outcome_eq
  have span := makes.span_eq
  rw [rule.recognizer_eq] at outcome span
  obtain ⟨extract, matched, result⟩ := Outcome.map_eq_matched outcome
  have extracts := (rule.primitive.matcher_steps place).extracts matched
  have covers : extract.span = piece.span := extracts.span_eq.trans span.symm
  rw [some] at result
  cases rule with
  | skip primitive => cases result
  | emit primitive make =>
      obtain ⟨text, taken, rfl⟩ := Option.map_eq_some_iff.1 result
      refine ⟨primitive, make, text, rfl, by rw [covers], fun plain => ?_⟩
      rw [← covers]
      exact extracts.text_eq_slice text taken plain

end Makes

/-! ## The tokens of a scan -/

def Records (rules : List (Rule τ)) (text : τ → String) (span : τ → Span) : Prop :=
  ∀ primitive make, .emit primitive make ∈ rules →
    ∀ taken covered, text (make taken covered) = taken ∧ span (make taken covered) = covered

theorem Makes.records (makes : Makes rules place rule piece) {text : τ → String} {span : τ → Span}
    (records : Records rules text span) {token : τ} (some : piece.token = some token) :
    span token = piece.span ∧ ((∀ region, rule.primitive ≠ .delimited region) →
      (span token).text place.text = .ok (text token)) := by
  obtain ⟨primitive, make, taken, rfl, rfl, slice⟩ := makes.token_eq some
  obtain ⟨before, after, parts, -⟩ := makes.first
  have member : Rule.emit primitive make ∈ rules := by simp [parts]
  obtain ⟨sameText, sameSpan⟩ := records primitive make member taken piece.span
  refine ⟨sameSpan, fun plain => ?_⟩
  rw [sameText, sameSpan]
  exact slice plain

theorem sublist_spans {span : τ → Span} {pieces : List (Piece τ)}
    (same : ∀ piece ∈ pieces, ∀ token, piece.token = some token → span token = piece.span) :
    ((pieces.filterMap (·.token)).map span).Sublist (pieces.map (·.span)) := by
  induction pieces with
  | nil => exact .slnil
  | cons piece pieces ih =>
      have rest := ih fun other member => same other (List.mem_cons_of_mem piece member)
      cases made : piece.token with
      | none =>
          rw [List.filterMap_cons_none made]
          exact rest.cons _
      | some token =>
          have here := same piece List.mem_cons_self token made
          rw [List.filterMap_cons_some made, List.map_cons, here]
          exact rest.cons_cons _

/-- The tokens of built-in rules. Where a scan gives tokens, their spans are not empty, lie between characters
of the accepted input and come in order; the accepted pieces share out every byte of it among them; and each
token has the span that the cursor passed for it and, unless its rule takes it out of a delimited region, the
text that it covers. -/
theorem tokens_lie_in_pieces {text : τ → String} {span : τ → Span} (records : Records rules text span)
    (cursor : Cursor) {tokens : List τ} (succeeds : ((ofRules rules).scan cursor).result = .ok tokens) :
    let scan := (ofRules rules).scan cursor
    let start := cursor.position
    let stop := scan.final.position
    (∀ token ∈ tokens, start ≤ (span token).start ∧ (span token).start < (span token).stop ∧
      (span token).stop ≤ stop ∧ IsBoundary cursor.text (span token).start ∧
      IsBoundary cursor.text (span token).stop) ∧
    (tokens.map span).Pairwise (fun first second => first.stop ≤ second.start) ∧
    (∀ byte, start ≤ byte → byte < stop →
      ∃! index : Nat, ∃ piece : Piece τ, scan.pieces[index]? = some piece ∧
        piece.span.start ≤ byte ∧ byte < piece.span.stop) ∧
    tokens = scan.pieces.filterMap (·.token) ∧
    ∀ piece ∈ scan.pieces, ∃ place rule, place.text = cursor.text ∧ Makes rules place rule piece ∧
      ∀ token, piece.token = some token → span token = piece.span ∧
        ((∀ region, rule.primitive ≠ .delimited region) →
          (span token).text cursor.text = .ok (text token)) := by
  intro scan start stop
  have tile : Span.Tile start (scan.pieces.map (·.span)) stop := by
    have reached := (ofRules rules).scan_tiles cursor
    rwa [← scan_final_of_keepsRules keepsRules_of_mem_ofRules succeeds] at reached
  have made : ∀ piece ∈ scan.pieces, ∃ place rule, place.text = cursor.text ∧
      Makes rules place rule piece := exists_makes rules cursor
  have tokenOf : ∀ piece ∈ scan.pieces, ∀ token, piece.token = some token →
      span token = piece.span := by
    intro piece member token some
    obtain ⟨place, rule, -, makes⟩ := made piece member
    exact (makes.records records some).1
  have same : tokens = scan.pieces.filterMap (·.token) := (Scan.of_result_eq_ok succeeds).1
  refine ⟨?_, ?_, ?_, same, ?_⟩
  · intro token member
    rw [same] at member
    obtain ⟨piece, member, some⟩ := List.mem_filterMap.1 member
    obtain ⟨low, covers, high⟩ := tile.bounds (List.mem_map_of_mem member)
    obtain ⟨place, rule, text, makes⟩ := made piece member
    obtain ⟨first, last⟩ := makes.boundaries
    rw [text] at first last
    rw [tokenOf piece member token some]
    exact ⟨low, covers, high, first, last⟩
  · rw [same]
    exact tile.pairwise.sublist (sublist_spans tokenOf)
  · intro byte low high
    obtain ⟨index, ⟨covering, found, covered⟩, unique⟩ := tile.existsUnique low high
    rw [List.getElem?_map] at found
    obtain ⟨piece, holds, rfl⟩ := Option.map_eq_some_iff.1 found
    refine ⟨index, ⟨piece, holds, covered⟩, ?_⟩
    rintro other ⟨piece, found, covered⟩
    refine unique other ⟨piece.span, ?_, covered⟩
    rw [List.getElem?_map, found]
    rfl
  · intro piece member
    obtain ⟨place, rule, text, makes⟩ := made piece member
    refine ⟨place, rule, text, makes, fun token some => ?_⟩
    rw [← text]
    exact makes.records records some

/-- A region with a closing character inside, a word and a blank, behind a character that was passed before. -/
theorem tokens_lie_in_pieces_mixed :
    let rules : List (Rule (Token Nat)) := [
      .emit (.delimited ⟨'«', '»', some '^'⟩) (Token.ofKind 0),
      .emit (.literal "ça") (Token.ofKind 1), .skip .blanks, .skip .endOfInput]
    let cursor := (Cursor.ofString "é«^»» ça").forward 1
    let scan := (ofRules rules).scan cursor
    Records rules Token.text Token.span ∧
      scan.result = .ok [⟨0, "»", ⟨2, 9⟩⟩, ⟨1, "ça", ⟨10, 13⟩⟩] ∧
      [(⟨2, 9⟩ : Span), ⟨10, 13⟩].Pairwise (fun first second => first.stop ≤ second.start) ∧
      ∃! index : Nat, ∃ piece : Piece (Token Nat), scan.pieces[index]? = some piece ∧
        piece.span.start ≤ 9 ∧ 9 < piece.span.stop := by
  intro rules cursor scan
  have records : Records rules Token.text Token.span := by
    intro primitive make member taken covered
    simp only [rules, List.mem_cons, Rule.emit.injEq, reduceCtorEq, List.not_mem_nil, or_false]
      at member
    rcases member with ⟨-, rfl⟩ | ⟨-, rfl⟩ <;> exact ⟨rfl, rfl⟩
  have succeeds : scan.result = .ok [⟨0, "»", ⟨2, 9⟩⟩, ⟨1, "ça", ⟨10, 13⟩⟩] := by decide +kernel
  have stop : scan.final.position = 13 := by decide +kernel
  obtain ⟨-, ordered, covered, -⟩ := tokens_lie_in_pieces records cursor succeeds
  exact ⟨records, succeeds, ordered, covered 9 (by decide) (by rw [stop]; decide)⟩

end Tokenizer

end LexKit
