import LexKit.Proofs.Scan.Exclusion
import LexKit.Proofs.Sexpr.Dispatch

/-!
# The order of the rules

No two of the twelve rules apply at one place. Eleven kinds of first characters keep them apart, and the second
character the two booleans. So the rules can be tried in any order, as long as the end check stays behind them:
tokens, errors, places and all that a scan tells are the same.
-/

namespace LexKit.Sexpr

open Tokenizer

/-- What decides which rule applies: the kind of the first character and, behind a hash, the second character. -/
def key (char : Char) (rest : List Char) : Lead × Option Char :=
  (Lead.of char, if Lead.of char = .hash then rest.head? else none)

def keys : List (Lead × Option Char) := [
  (.blank, none), (.semicolon, none), (.quote, none), (.brace, none), (.leftParen, none),
  (.rightParen, none), (.hash, some 't'), (.hash, some 'f'), (.comparison, none), (.sign, none),
  (.digit, none), (.letter, none)]

theorem keys_nodup : keys.Nodup := by decide

variable {cursor : Cursor} {char : Char} {rest : List Char}

theorem key_of_lead {lead : Lead} (starts : Lead.of char = lead) (other : lead ≠ .hash) :
    key char rest = (lead, none) := by
  rw [key, starts, if_neg other]

theorem key_of_hash {second : Char} (starts : Lead.of char = .hash ∧ rest.head? = some second) :
    key char rest = (.hash, some second) := by
  rw [key, starts.1, if_pos rfl, starts.2]

theorem declines_of_ite {recognizer : Recognizer Lexeme} {applies : Prop} [Decidable applies]
    {decided : Attempt Lexeme}
    (tries : attempt cursor [recognizer] = if applies then decided else attempt cursor [])
    (fails : ¬ applies) : Declines cursor recognizer := by
  rw [if_neg fails] at tries
  exact (declines_of_nothingApplies tries).2 recognizer List.mem_cons_self

/-- Each rule declines where something else stands than what it looks for. -/
theorem declines_of_key_ne (style : QuoteStyle) (opens : cursor.rest = char :: rest) :
    List.Forall₂ (fun recognizer looksFor => key char rest ≠ looksFor → Declines cursor recognizer)
      ((rules style).map Rule.recognizer) keys := by
  have quote : Lead.of char = .quote ↔ char = (stringRegion style).opening :=
    Lead.of_eq_iff (by decide)
  have brace : Lead.of char = .brace ↔ char = blockRegion.opening := Lead.of_eq_iff (by decide)
  have leftParen : Lead.of char = .leftParen ↔ char ∈ "(".toList := by
    rw [show "(".toList = ['('] from rfl, List.mem_singleton]
    exact Lead.of_eq_iff (by decide)
  have rightParen : Lead.of char = .rightParen ↔ char ∈ ")".toList := by
    rw [show ")".toList = [')'] from rfl, List.mem_singleton]
    exact Lead.of_eq_iff (by decide)
  have sign : Lead.of char = .sign ↔ char ∈ "+-*/".toList := Lead.of_eq_iff (by decide)
  refine .cons ?blank <| .cons ?comment <| .cons ?string <| .cons ?block <| .cons ?leftParen <|
    .cons ?rightParen <| .cons ?truth <| .cons ?falsehood <| .cons ?comparison <| .cons ?sign <|
    .cons ?integer <| .cons ?identifier .nil
  all_goals intro other
  case blank =>
    exact declines_of_ite (attempt_blanks opens []) fun lead => other (key_of_lead lead nofun)
  case comment =>
    exact declines_of_ite (attempt_comment opens []) fun lead => other (key_of_lead lead nofun)
  case string =>
    exact declines_of_ite (attempt_region opens [] _ _)
      fun lead => other (key_of_lead (quote.2 lead) nofun)
  case block =>
    exact declines_of_ite (attempt_region opens [] _ _)
      fun lead => other (key_of_lead (brace.2 lead) nofun)
  case leftParen =>
    exact declines_of_ite (attempt_oneCharOf opens [] _ _)
      fun lead => other (key_of_lead (leftParen.2 lead) nofun)
  case rightParen =>
    exact declines_of_ite (attempt_oneCharOf opens [] _ _)
      fun lead => other (key_of_lead (rightParen.2 lead) nofun)
  case truth =>
    exact declines_of_ite (attempt_boolean opens [] rfl) fun starts => other (key_of_hash starts)
  case falsehood =>
    exact declines_of_ite (attempt_boolean opens [] rfl) fun starts => other (key_of_hash starts)
  case comparison =>
    exact declines_of_ite (attempt_comparison opens []) fun lead => other (key_of_lead lead nofun)
  case sign =>
    exact declines_of_ite (attempt_oneCharOf opens [] _ _)
      fun lead => other (key_of_lead (sign.2 lead) nofun)
  case integer =>
    exact declines_of_ite (attempt_integer opens []) fun lead => other (key_of_lead lead nofun)
  case identifier =>
    exact declines_of_ite (attempt_identifier opens []) fun lead => other (key_of_lead lead nofun)

theorem exclusive_rules (style : QuoteStyle) (inside : cursor.atEnd = false) :
    Exclusive cursor ((rules style).map Rule.recognizer) := by
  cases opens : cursor.rest with
  | nil => simp [Cursor.atEnd, opens] at inside
  | cons char rest => exact exclusive_of_keys (declines_of_key_ne style opens) keys_nodup

/-- The rules in any other order, with the end check behind them if there is one, do the same on every source: the
same pieces and tokens or the same error, the same final place, and the same events. -/
theorem scanString_perm (style : QuoteStyle) (endCheck : Bool) {order : List (Rule Lexeme)}
    (perm : order.Perm (rules style)) (source : String) :
    let permuted := ofRules (order ++ endRules endCheck)
    let ordered := tokenizer style endCheck
    permuted.scanString source = ordered.scanString source ∧
      permuted.events (Cursor.ofString source) = ordered.events (Cursor.ofString source) := by
  intro permuted ordered
  have same := scan_perm (perm.symm.map Rule.recognizer) (fun _ => exclusive_rules style)
    ((endRules endCheck).map Rule.recognizer) (Cursor.ofString source)
  have split (list : List (Rule Lexeme)) : ofRules (list ++ endRules endCheck) =
      ⟨list.map Rule.recognizer ++ (endRules endCheck).map Rule.recognizer⟩ := by
    rw [ofRules, List.map_append]
  have permuted_eq : permuted = _ := split order
  have ordered_eq : ordered = _ := split (rules style)
  rw [scanString, scanString, permuted_eq, ordered_eq]
  exact ⟨same.1.symm, same.2.symm⟩

theorem scanString_perm_reversed :
    let order := (rules .doubled).reverse
    let source := "(<= #f \"a\"\"b\" x1 \x7b^\x7d\x7d) ;;\n#"
    order.Perm (rules .doubled) ∧
      ((ofRules (order ++ endRules true)).scanString source).result =
        .error (.unexpectedTrailingInput 26) ∧
      ((ofRules (order ++ endRules false)).scanString source).tokens.map (·.kind) =
        [.leftParen, .operator, .boolean, .string, .identifier, .block, .rightParen] := by
  intro order source
  have perm : order.Perm (rules .doubled) := List.reverse_perm _
  have checked : ((tokenizer .doubled true).scanString source).result =
      .error (.unexpectedTrailingInput 26) := by decide +kernel
  have kinds : ((tokenizer .doubled false).scanString source).tokens.map (·.kind) =
      [.leftParen, .operator, .boolean, .string, .identifier, .block, .rightParen] := by
    decide +kernel
  have same := (scanString_perm .doubled true perm source).1
  have same' := (scanString_perm .doubled false perm source).1
  refine ⟨perm, ?_, ?_⟩
  · rw [same, checked]
  · rw [same', kinds]

end LexKit.Sexpr
