import LexKit.Sexpr.Tokenizer
import Mathlib.Tactic.ByContra

/-!
# What a character begins

The next character alone says which of the rules for s-expressions can apply, since no character begins
what two of them look for.
-/

namespace LexKit.Sexpr

/-- The kinds of input that are told apart by their first character. -/
inductive Lead where
  | blank
  | semicolon
  | quote
  | brace
  | leftParen
  | rightParen
  | hash
  | comparison
  | sign
  | digit
  | letter
  | other
deriving Repr, DecidableEq

namespace Lead

def of (char : Char) : Lead :=
  if char.isDigit then .digit
  else if char.isAlpha ∨ char = '_' then .letter
  else if Unicode.isBlank char then .blank
  else
    match char with
    | ';' => .semicolon
    | '"' => .quote
    | '\x7b' => .brace
    | '(' => .leftParen
    | ')' => .rightParen
    | '#' => .hash
    | '<' | '>' | '=' => .comparison
    | '+' | '-' | '*' | '/' => .sign
    | _ => .other

/-- The characters that begin something, by what they begin. -/
def Begins : Lead → Char → Prop
  | .blank, char => Unicode.isBlank char = true
  | .semicolon, char => char = ';'
  | .quote, char => char = '"'
  | .brace, char => char = '\x7b'
  | .leftParen, char => char = '('
  | .rightParen, char => char = ')'
  | .hash, char => char = '#'
  | .comparison, char => char ∈ ['<', '>', '=']
  | .sign, char => char ∈ ['+', '-', '*', '/']
  | .digit, char => char.isDigit = true
  | .letter, char => char.isAlpha = true ∨ char = '_'
  | .other, _ => False

variable {lead : Lead} {char : Char}

/-! ## Codes -/

theorem code_of_isDigit (digit : char.isDigit = true) : 48 ≤ char.toNat ∧ char.toNat ≤ 57 :=
  Char.isDigit_iff_toNat.1 digit

theorem isAlpha_eq (char : Char) : char.isAlpha = (char.isUpper || char.isLower) := rfl

theorem isAlphanum_eq (char : Char) : char.isAlphanum = (char.isAlpha || char.isDigit) := rfl

theorem code_of_letter (letter : char.isAlpha = true ∨ char = '_') :
    65 ≤ char.toNat ∧ char.toNat ≤ 122 := by
  rcases letter with letter | rfl
  · rw [isAlpha_eq, Bool.or_eq_true] at letter
    rcases letter with upper | lower
    · have range : 65 ≤ char.toNat ∧ char.toNat ≤ 90 := of_decide_eq_true upper
      omega
    · obtain ⟨low, high⟩ := (Bool.and_eq_true _ _).mp lower
      have low : 97 ≤ char.toNat := of_decide_eq_true low
      have high : char.toNat ≤ 122 := of_decide_eq_true high
      omega
  · decide

theorem code_of_isBlank (blank : Unicode.isBlank char = true) :
    char.toNat ≤ 32 ∨ 133 ≤ char.toNat := by
  unfold Unicode.isBlank Unicode.blankRanges at blank
  by_contra inside
  simp only [Unicode.inRanges] at blank
  grind

/-! ## The first character decides -/

theorem begins_of (known : of char ≠ .other) : (of char).Begins char := by
  unfold of at known ⊢
  split at known
  · rename_i digit
    rw [if_pos digit]
    exact digit
  split at known
  · rename_i digit letter
    rw [if_neg digit, if_pos letter]
    exact letter
  split at known
  · rename_i digit letter blank
    rw [if_neg digit, if_neg letter, if_pos blank]
    exact blank
  · rename_i digit letter blank
    rw [if_neg digit, if_neg letter, if_neg blank]
    split <;> simp_all [Begins]

theorem of_begins (begins : lead.Begins char) : of char = lead := by
  cases lead with
  | blank =>
      have blank : Unicode.isBlank char = true := begins
      have code := code_of_isBlank blank
      have digit : ¬ char.isDigit = true := by
        intro digit
        have := code_of_isDigit digit
        omega
      have letter : ¬ (char.isAlpha = true ∨ char = '_') := by
        intro letter
        have := code_of_letter letter
        omega
      unfold of
      rw [if_neg digit, if_neg letter, if_pos blank]
  | digit =>
      have digit : char.isDigit = true := begins
      unfold of
      rw [if_pos digit]
  | letter =>
      have letter : char.isAlpha = true ∨ char = '_' := begins
      have code := code_of_letter letter
      have digit : ¬ char.isDigit = true := by
        intro digit
        have := code_of_isDigit digit
        omega
      unfold of
      rw [if_neg digit, if_pos letter]
  | semicolon | quote | brace | leftParen | rightParen | hash =>
      have same : char = _ := begins
      subst same
      rfl
  | comparison | sign =>
      simp only [Begins, List.mem_cons, List.not_mem_nil, or_false] at begins
      rcases begins with rfl | rfl | rfl | rfl <;> rfl
  | other => exact begins.elim

theorem of_eq_iff (known : lead ≠ .other) : of char = lead ↔ lead.Begins char := by
  constructor
  · rintro rfl
    exact begins_of known
  · exact of_begins

end Lead

end LexKit.Sexpr
