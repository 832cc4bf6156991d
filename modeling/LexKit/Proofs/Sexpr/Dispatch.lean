import LexKit.Proofs.Primitive.Attempt
import LexKit.Proofs.Sexpr.Lead

/-!
# One rule for each first character

An attempt of the s-expression rules, without the list: the next character says which rule decides, and
what comes behind it how much that rule takes.
-/

namespace LexKit.Sexpr

open Regex Tokenizer

inductive Next where
  /-- A number of characters that make no token. -/
  | gap (count : Nat)
  /-- A token whose text is the next characters as they are. -/
  | plain (kind : Kind) (count : Nat)
  /-- A token whose text is taken out of a region. -/
  | region (kind : Kind) (text : List Char) (count : Nat)
  /-- A region that is never closed. -/
  | unclosed
deriving Repr, DecidableEq

namespace Next

def ofRegion (kind : Kind) : Option (List Char × Nat) → Next
  | some (text, count) => .region kind text count
  | none => .unclosed

def attempt (cursor : Cursor) : Next → Attempt Lexeme
  | .gap count => .accepted none count
  | .plain kind count => .accepted (some ⟨kind, cursor.textOf count, cursor.spanOf count⟩) count
  | .region kind text count =>
      .accepted (some ⟨kind, String.ofList text, cursor.spanOf count⟩) count
  | .unclosed => .halted (.failed (.unterminatedDelimiter cursor.position)) 0

end Next

/-- Strings stand between double quotes; a double quote inside comes behind a backslash, or twice. -/
def QuoteStyle.marks (style : QuoteStyle) : Delimiters :=
  ⟨'"', '"', some (match style with
    | .backslash => '\\'
    | .doubled => '"')⟩

/-- Blocks stand between braces; a closing brace inside comes behind a caret. -/
def blockMarks : Delimiters := ⟨'\x7b', '\x7d', some '^'⟩

theorem stringRegion_eq (style : QuoteStyle) : stringRegion style = style.marks := by
  cases style <;> rfl

theorem blockRegion_eq : blockRegion = blockMarks := rfl

def isNameChar (char : Char) : Bool := char.isAlphanum || char ∈ ['_', '-', '?', '!']

/-- What comes next in a text, if any rule looks for it. -/
def next (style : QuoteStyle) : List Char → Option Next
  | [] => none
  | char :: rest =>
      match Lead.of char with
      | .blank => some (.gap (1 + (rest.takeWhile Unicode.isBlank).length))
      | .semicolon => some (.gap (1 + (rest.takeWhile (· != '\n')).length))
      | .quote => some (.ofRegion .string (style.marks.readFrom rest [] 1))
      | .brace => some (.ofRegion .block (blockMarks.readFrom rest [] 1))
      | .leftParen => some (.plain .leftParen 1)
      | .rightParen => some (.plain .rightParen 1)
      | .hash =>
          if rest.head? = some 't' ∨ rest.head? = some 'f' then some (.plain .boolean 2) else none
      | .comparison => some (.plain .operator (if rest.head? = some '=' then 2 else 1))
      | .sign => some (.plain .operator 1)
      | .digit => some (.plain .integer (1 + (rest.takeWhile Char.isDigit).length))
      | .letter => some (.plain .identifier (1 + (rest.takeWhile isNameChar).length))
      | .other => none

/-! ## The patterns -/

theorem comment_takesRun :
    comment.automaton.TakesRun (.range ';' ';') (.compl (.range '\n' '\n')) := by
  have automaton : comment.automaton = ⟨#[.accept, .split 2 0, .consume (.compl (.range '\n' '\n')) 1,
      .consume (.range ';' ';') 1, .look .textStart 3], 4⟩ := by decide +kernel
  rw [automaton]
  exact ⟨rfl, rfl, rfl, 3, rfl, rfl⟩

theorem integer_takesRun : integer.automaton.TakesRun (.range '0' '9') (.range '0' '9') := by
  have automaton : integer.automaton = ⟨#[.accept, .split 2 0, .consume (.range '0' '9') 1,
      .look .textStart 2], 3⟩ := by decide +kernel
  rw [automaton]
  exact ⟨rfl, rfl, rfl, 2, rfl, rfl⟩

def nameStart : CharClass := .ofRanges [('A', 'Z'), ('a', 'z'), ('_', '_')]

def nameRest : CharClass :=
  .ofRanges [('A', 'Z'), ('a', 'z'), ('0', '9'), ('_', '_'), ('-', '-'), ('?', '?'), ('!', '!')]

theorem identifier_takesRun : identifier.automaton.TakesRun nameStart nameRest := by
  have automaton : identifier.automaton = ⟨#[.accept, .split 2 0, .consume nameRest 1,
      .consume nameStart 1, .look .textStart 3], 4⟩ := by decide +kernel
  rw [automaton]
  exact ⟨rfl, rfl, rfl, 3, rfl, rfl⟩

/-! ## Their classes -/

theorem mem_single (only : Char) : (CharClass.range only only).mem = (· == only) := by
  funext char
  rw [Bool.eq_iff_iff, beq_iff_eq]
  simp only [CharClass.mem, Bool.and_eq_true, decide_eq_true_eq]
  constructor
  · rintro ⟨low, high⟩
    exact Char.le_antisymm high low
  · rintro rfl
    exact ⟨Char.le_refl _, Char.le_refl _⟩

theorem mem_upper : (CharClass.range 'A' 'Z').mem = Char.isUpper := by
  funext char
  exact (Bool.decide_and _ _).symm

theorem mem_lower : (CharClass.range 'a' 'z').mem = Char.isLower := rfl

theorem mem_digit : (CharClass.range '0' '9').mem = Char.isDigit := rfl

theorem mem_union (first second : CharClass) (char : Char) :
    (CharClass.union first second).mem char = (first.mem char || second.mem char) := rfl

theorem mem_nameStart (char : Char) :
    nameStart.mem char = true ↔ char.isAlpha = true ∨ char = '_' := by
  simp only [nameStart, CharClass.ofRanges, CharClass.ofList, List.map_cons, List.map_nil, mem_union,
    mem_single, mem_upper, mem_lower, Lead.isAlpha_eq, Bool.or_eq_true, beq_iff_eq, or_assoc]

theorem mem_nameRest : nameRest.mem = isNameChar := by
  funext char
  rw [Bool.eq_iff_iff]
  simp only [nameRest, CharClass.ofRanges, CharClass.ofList, List.map_cons, List.map_nil, mem_union,
    mem_single, mem_upper, mem_lower, mem_digit, isNameChar, Lead.isAlphanum_eq, Lead.isAlpha_eq,
    Bool.or_eq_true, beq_iff_eq, or_assoc, decide_eq_true_eq, List.mem_cons, List.not_mem_nil, or_false]

theorem mem_comment : (CharClass.compl (.range '\n' '\n')).mem = (· != '\n') := by
  funext char
  have inside : (CharClass.compl (.range '\n' '\n')).mem char =
      !(CharClass.range '\n' '\n').mem char := rfl
  rw [inside, mem_single]
  rfl

/-! ## The rules one by one -/

section Rules

variable {cursor : Cursor} {char : Char} {rest : List Char} (opens : cursor.rest = char :: rest)
  (later : List (Recognizer Lexeme))
include opens

theorem attempt_blanks :
    attempt cursor ((Rule.skip .blanks : Rule Lexeme).recognizer :: later) =
      if Lead.of char = .blank then
        (Next.gap (1 + (rest.takeWhile Unicode.isBlank).length)).attempt cursor
      else attempt cursor later := by
  have step := Primitive.blanksMatcher_cons opens
  have lead : Lead.of char = .blank ↔ Unicode.isBlank char = true := Lead.of_eq_iff (by decide)
  rw [if_congr lead rfl rfl]
  exact attempt_of_ite (.skip .blanks) step nofun later

theorem attempt_comment :
    attempt cursor ((Rule.skip (.pattern comment) : Rule Lexeme).recognizer :: later) =
      if Lead.of char = .semicolon then
        (Next.gap (1 + (rest.takeWhile (· != '\n')).length)).attempt cursor
      else attempt cursor later := by
  have step := Pattern.matcher_cons_of_takesRun comment_takesRun opens
  have lead : Lead.of char = .semicolon ↔ (CharClass.range ';' ';').mem char = true := by
    rw [mem_single, beq_iff_eq]
    exact Lead.of_eq_iff (by decide)
  rw [if_congr lead rfl rfl, ← mem_comment]
  exact attempt_of_ite (.skip (.pattern comment)) step nofun later

theorem attempt_region (region : Delimiters) (kind : Kind) :
    attempt cursor
        ((Rule.emit (.delimited region) (Token.ofKind kind) : Rule Lexeme).recognizer :: later) =
      if char = region.opening then
        (Next.ofRegion kind (region.readFrom rest [] 1)).attempt cursor
      else attempt cursor later := by
  have step := region.matcher_cons opens
  by_cases same : char = region.opening
  · rw [if_pos same] at step ⊢
    cases found : region.readFrom rest [] 1 with
    | none =>
        rw [found] at step
        exact attempt_of_failed (.emit (.delimited region) (Token.ofKind kind)) step later
    | some result =>
        obtain ⟨text, count⟩ := result
        rw [found] at step
        exact attempt_of_take (.emit (.delimited region) (Token.ofKind kind)) step nofun later
  · rw [if_neg same] at step ⊢
    exact attempt_of_noMatch (.emit (.delimited region) (Token.ofKind kind)) step later

theorem attempt_oneCharOf (set : String) (kind : Kind) :
    attempt cursor
        ((Rule.emit (.oneCharOf set) (Token.ofKind kind) : Rule Lexeme).recognizer :: later) =
      if char ∈ set.toList then (Next.plain kind 1).attempt cursor
      else attempt cursor later :=
  attempt_of_ite (.emit (.oneCharOf set) (Token.ofKind kind))
    (Primitive.charMatcher_cons set opens) nofun later

theorem attempt_boolean {text : String} {second : Char} (pair : text.toList = ['#', second]) :
    attempt cursor
        ((Rule.emit (.literal text) (Token.ofKind .boolean) : Rule Lexeme).recognizer :: later) =
      if Lead.of char = .hash ∧ rest.head? = some second then (Next.plain .boolean 2).attempt cursor
      else attempt cursor later := by
  have step := Primitive.literalMatcher_eq text cursor
  have lead : Lead.of char = .hash ↔ char = '#' := Lead.of_eq_iff (by decide)
  have applies : Lead.of char = .hash ∧ rest.head? = some second ↔
      text.toList ≠ [] ∧ text.toList <+: cursor.rest := by
    rw [lead, pair, opens, List.cons_prefix_cons, List.cons_prefix_iff]
    constructor
    · rintro ⟨rfl, comes⟩
      obtain ⟨tail, rfl⟩ := List.head?_eq_some_iff.1 comes
      exact ⟨List.cons_ne_nil _ _, rfl, tail, rfl, List.nil_prefix⟩
    · rintro ⟨-, rfl, tail, rfl, -⟩
      exact ⟨rfl, rfl⟩
  rw [if_congr applies rfl rfl]
  have size : text.toList.length = 2 := by
    rw [pair]
    rfl
  rw [size] at step
  exact attempt_of_ite (.emit (.literal text) (Token.ofKind .boolean)) step nofun later

theorem attempt_comparison :
    attempt cursor ((Rule.emit (.oneOfLiterals ["<=", ">=", "==", "<", ">", "="])
        (Token.ofKind .operator) : Rule Lexeme).recognizer :: later) =
      if Lead.of char = .comparison then
        (Next.plain .operator (if rest.head? = some '=' then 2 else 1)).attempt cursor
      else attempt cursor later := by
  have lead : Lead.of char = .comparison ↔ char ∈ ['<', '>', '='] := Lead.of_eq_iff (by decide)
  have step : Primitive.firstLiteral ["<=", ">=", "==", "<", ">", "="] cursor =
      if char ∈ ['<', '>', '='] then cursor.takeText (if rest.head? = some '=' then 2 else 1)
      else .still .noMatch := by
    rw [Primitive.firstLiteral_eq, opens]
    by_cases member : char ∈ ['<', '>', '=']
    · rw [if_pos member]
      simp only [List.mem_cons, List.not_mem_nil, or_false] at member
      by_cases double : rest.head? = some '='
      · obtain ⟨tail, rfl⟩ := List.head?_eq_some_iff.1 double
        rcases member with rfl | rfl | rfl <;> simp [List.find?]
      · have alone : ¬ ['='] <+: rest := by
          intro comes
          obtain ⟨tail, rfl⟩ := comes
          exact double rfl
        rcases member with rfl | rfl | rfl <;> simp [List.find?, double, alone]
    · rw [if_neg member]
      simp only [List.mem_cons, List.not_mem_nil, or_false, not_or] at member
      obtain ⟨less, greater, equal⟩ := member
      simp [List.find?, Ne.symm less, Ne.symm greater, Ne.symm equal]
  rw [if_congr lead rfl rfl]
  exact attempt_of_ite (.emit (.oneOfLiterals ["<=", ">=", "==", "<", ">", "="])
    (Token.ofKind .operator)) step nofun later

theorem attempt_integer :
    attempt cursor ((Rule.emit (.pattern integer) (Token.ofKind .integer) : Rule Lexeme).recognizer ::
        later) =
      if Lead.of char = .digit then
        (Next.plain .integer (1 + (rest.takeWhile Char.isDigit).length)).attempt cursor
      else attempt cursor later := by
  have step := Pattern.matcher_cons_of_takesRun integer_takesRun opens
  have lead : Lead.of char = .digit ↔ (CharClass.range '0' '9').mem char = true :=
    Lead.of_eq_iff (by decide)
  rw [if_congr lead rfl rfl]
  exact attempt_of_ite (.emit (.pattern integer) (Token.ofKind .integer)) step nofun later

theorem attempt_identifier :
    attempt cursor ((Rule.emit (.pattern identifier) (Token.ofKind .identifier) :
        Rule Lexeme).recognizer :: later) =
      if Lead.of char = .letter then
        (Next.plain .identifier (1 + (rest.takeWhile isNameChar).length)).attempt cursor
      else attempt cursor later := by
  have step := Pattern.matcher_cons_of_takesRun identifier_takesRun opens
  have lead : Lead.of char = .letter ↔ nameStart.mem char = true := by
    rw [mem_nameStart]
    exact Lead.of_eq_iff (by decide)
  rw [if_congr lead rfl rfl, ← mem_nameRest]
  exact attempt_of_ite (.emit (.pattern identifier) (Token.ofKind .identifier)) step nofun later

/-- The rules in order do what the next character says; where it says nothing, the rules behind them are
tried. -/
theorem attempt_rules (style : QuoteStyle) :
    attempt cursor ((rules style).map Rule.recognizer ++ later) =
      match next style cursor.rest with
      | some next => next.attempt cursor
      | none => attempt cursor later := by
  have quote : Lead.of char = .quote ↔ char = (stringRegion style).opening :=
    Lead.of_eq_iff (by decide)
  have brace : Lead.of char = .brace ↔ char = blockRegion.opening := Lead.of_eq_iff (by decide)
  have leftParen : Lead.of char = .leftParen ↔ char ∈ "(".toList := by
    rw [show "(".toList = ['('] from rfl, List.mem_singleton]
    exact Lead.of_eq_iff (by decide)
  have rightParen : Lead.of char = .rightParen ↔ char ∈ ")".toList := by
    rw [show ")".toList = [')'] from rfl, List.mem_singleton]
    exact Lead.of_eq_iff (by decide)
  have sign : Lead.of char = .sign ↔ char ∈ "+-*/".toList := Lead.of_eq_iff (by decide)
  have truth : "#t".toList = ['#', 't'] := rfl
  have falsehood : "#f".toList = ['#', 'f'] := rfl
  simp only [rules, List.map_cons, List.map_nil, List.cons_append, List.nil_append]
  rw [attempt_blanks opens, attempt_comment opens, attempt_region opens, attempt_region opens,
    attempt_oneCharOf opens, attempt_oneCharOf opens, attempt_boolean opens _ truth,
    attempt_boolean opens _ falsehood, attempt_comparison opens, attempt_oneCharOf opens,
    attempt_integer opens, attempt_identifier opens, opens]
  simp only [← quote, ← brace, ← leftParen, ← rightParen, ← sign, next, ← stringRegion_eq,
    ← blockRegion_eq]
  cases Lead.of char with
  | hash =>
      by_cases isTrue : rest.head? = some 't'
      · simp [isTrue]
      · by_cases isFalse : rest.head? = some 'f' <;> simp [isTrue, isFalse]
  | _ => rfl

end Rules

end LexKit.Sexpr
