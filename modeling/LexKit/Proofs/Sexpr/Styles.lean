import LexKit.Proofs.Delimiters.Reading
import LexKit.Proofs.Scan.Exclusion
import LexKit.Proofs.Sexpr.Dispatch

/-!
# Sources that are the same in both styles

The two styles of writing strings differ only where a double quote stands behind a backslash or behind another
double quote. A string without either ends at its first quote, whether this is seen at once or only by the character
behind it, and a string that is not closed is not closed in either style.
-/

namespace LexKit.Sexpr

open Tokenizer

/-- No double quote stands behind a character that escapes it in one of the styles. -/
def StyleFree (source : List Char) : Prop := ∀ style : QuoteStyle, ¬ [style.escape, '"'] <:+: source

variable {source : List Char} {endCheck : Bool} {cursor : Cursor}

theorem StyleFree.of_suffix {rest : List Char} (free : StyleFree source) (suffix : rest <:+ source) :
    StyleFree rest :=
  fun style pair => free style (pair.trans suffix.isInfix)

theorem StyleFree.forward (free : StyleFree cursor.rest) (count : Nat) :
    StyleFree (cursor.forward count).rest := by
  rw [Cursor.forward_rest]
  exact free.of_suffix (List.drop_suffix count cursor.rest)

theorem styleFree_of_single (noBackslash : '\\' ∉ source) (single : ¬ ['"', '"'] <:+: source) :
    StyleFree source := by
  intro style pair
  cases style with
  | backslash => exact noBackslash (pair.subset List.mem_cons_self)
  | doubled => exact single pair

theorem StyleFree.readFrom_eq {body : List Char} (free : StyleFree body) (first second : QuoteStyle) :
    first.marks.readFrom body [] 1 = second.marks.readFrom body [] 1 := by
  have unescaped (style : QuoteStyle) (escape : Char) (escapes : style.marks.escape = some escape) :
      ¬ [escape, '"'] <:+: body := by
    obtain rfl : style.escape = escape := by cases style <;> exact Option.some.inj escapes
    exact free style
  have same : first.marks.bare = second.marks.bare := rfl
  rw [Delimiters.readFrom_eq_bare (unescaped first), same, ← Delimiters.readFrom_eq_bare (unescaped second)]

theorem StyleFree.next_eq (free : StyleFree source) (first second : QuoteStyle) :
    next first source = next second source := by
  cases source with
  | nil => rfl
  | cons char body =>
      have same := (free.of_suffix (List.suffix_cons char body)).readFrom_eq first second
      simp only [next, same]

theorem StyleFree.attempt_eq (free : StyleFree cursor.rest) (inside : cursor.atEnd = false)
    (first second : QuoteStyle) :
    attempt cursor (tokenizer first endCheck).recognizers =
      attempt cursor (tokenizer second endCheck).recognizers := by
  cases opens : cursor.rest with
  | nil => simp [Cursor.atEnd, opens] at inside
  | cons char rest =>
      rw [tokenizer, tokenizer, ofRules, ofRules, List.map_append, List.map_append, attempt_rules opens,
        attempt_rules opens, free.next_eq first second]

/-- A source without a backslash and without two double quotes side by side is scanned alike in both styles, with
the end check or without: the same pieces and tokens or the same error, the same final place, and the same
events. -/
theorem scanString_eq_of_single (endCheck : Bool) {source : String} (noBackslash : '\\' ∉ source.toList)
    (single : ¬ ['"', '"'] <:+: source.toList) :
    let escaping := tokenizer .backslash endCheck
    let doubling := tokenizer .doubled endCheck
    escaping.scanString source = doubling.scanString source ∧
      escaping.events (Cursor.ofString source) = doubling.events (Cursor.ofString source) := by
  intro escaping doubling
  have free : StyleFree (Cursor.ofString source).rest := styleFree_of_single noBackslash single
  have same : escaping.scanString source = doubling.scanString source :=
    scan_congr_on (fun cursor => StyleFree cursor.rest) (fun _ count free => free.forward count)
      (fun _ free inside => free.attempt_eq inside .backslash .doubled) free
  exact ⟨same, events_congr same rfl⟩

/-- A quote in a comment, a quote as the last character, and a string that is never closed. -/
theorem scanString_eq_of_single_last :
    let closed := "\x7b^\x7d\x7d ;\"\n(x? \"é ü\""
    let opened := "x \"a b"
    let lexemes : List Lexeme := [⟨.block, "\x7d", ⟨0, 4⟩⟩, ⟨.leftParen, "(", ⟨8, 9⟩⟩,
      ⟨.identifier, "x?", ⟨9, 11⟩⟩, ⟨.string, "é ü", ⟨12, 19⟩⟩]
    '\\' ∉ closed.toList ∧ ¬ ['"', '"'] <:+: closed.toList ∧
      ((tokenizer .backslash true).scanString closed).result = .ok lexemes ∧
      ((tokenizer .doubled true).scanString closed).result = .ok lexemes ∧
      ((tokenizer .backslash true).scanString opened).result = .error (.unterminatedDelimiter 2) ∧
      ((tokenizer .doubled true).scanString opened).result = .error (.unterminatedDelimiter 2) := by
  intro closed opened lexemes
  have noBackslash : '\\' ∉ closed.toList := by decide +kernel
  have single : ¬ ['"', '"'] <:+: closed.toList := by decide +kernel
  have alike : (tokenizer .backslash true).scanString closed = (tokenizer .doubled true).scanString closed :=
    (scanString_eq_of_single true noBackslash single).1
  have alike' : (tokenizer .backslash true).scanString opened = (tokenizer .doubled true).scanString opened :=
    (scanString_eq_of_single true (by decide +kernel) (by decide +kernel)).1
  have tokens : ((tokenizer .backslash true).scanString closed).result = .ok lexemes := by decide +kernel
  have fails : ((tokenizer .backslash true).scanString opened).result = .error (.unterminatedDelimiter 2) := by
    decide +kernel
  exact ⟨noBackslash, single, tokens, (congrArg Scan.result alike).symm.trans tokens, fails,
    (congrArg Scan.result alike').symm.trans fails⟩

end LexKit.Sexpr
