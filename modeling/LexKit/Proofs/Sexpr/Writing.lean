import LexKit.Proofs.Delimiters.Writing
import LexKit.Proofs.Sexpr.Dispatch

/-!
# Writing s-expressions

How a token is written, which texts the tokens of each kind can have, and what may stand between two
tokens. What follows a token, the end of the input, a blank or a comment, can never be taken for a part of
it, so what comes next in a text that begins with a written token is that token.
-/

namespace LexKit.Sexpr

open Text

namespace Kind

/-- The characters that stand for a token. -/
def written (style : QuoteStyle) (text : List Char) : Kind → List Char
  | .string => style.marks.written text
  | .block => blockMarks.written text
  | _ => text

def operators : List (List Char) :=
  [['<', '='], ['>', '='], ['=', '='], ['<'], ['>'], ['='], ['+'], ['-'], ['*'], ['/']]

def booleans : List (List Char) := [['#', 't'], ['#', 'f']]

/-- The texts that tokens of a kind can have. -/
def Expressible (style : QuoteStyle) (text : List Char) : Kind → Prop
  | .leftParen => text = ['(']
  | .rightParen => text = [')']
  | .operator => text ∈ operators
  | .boolean => text ∈ booleans
  | .integer => text ≠ [] ∧ ∀ char ∈ text, char.isDigit = true
  | .identifier =>
      match text with
      | [] => False
      | first :: rest =>
          (first.isAlpha = true ∨ first = '_') ∧ ∀ char ∈ rest, isNameChar char = true
  | .string => style.marks.Expressible text
  | .block => blockMarks.Expressible text

instance (style : QuoteStyle) (text : List Char) (kind : Kind) :
    Decidable (kind.Expressible style text) :=
  match kind, text with
  | .leftParen, text => inferInstanceAs (Decidable (text = ['(']))
  | .rightParen, text => inferInstanceAs (Decidable (text = [')']))
  | .operator, text => inferInstanceAs (Decidable (text ∈ operators))
  | .boolean, text => inferInstanceAs (Decidable (text ∈ booleans))
  | .integer, text =>
      inferInstanceAs (Decidable (text ≠ [] ∧ ∀ char ∈ text, char.isDigit = true))
  | .identifier, [] => inferInstanceAs (Decidable False)
  | .identifier, first :: rest =>
      inferInstanceAs (Decidable ((first.isAlpha = true ∨ first = '_') ∧
        ∀ char ∈ rest, isNameChar char = true))
  | .string, text => inferInstanceAs (Decidable (style.marks.Expressible text))
  | .block, text => inferInstanceAs (Decidable (blockMarks.Expressible text))

def next (text : List Char) (count : Nat) : Kind → Next
  | .string => .region .string text count
  | .block => .region .block text count
  | kind => .plain kind count

end Kind

/-- What may stand between two tokens: blanks, and comments up to the end of their lines. -/
inductive Gap : List Char → Prop where
  | nil : Gap []
  | blank {char : Char} {rest : List Char} : Unicode.isBlank char = true → Gap rest → Gap (char :: rest)
  | comment {body rest : List Char} : '\n' ∉ body → Gap rest → Gap (';' :: body ++ '\n' :: rest)

/-- No token goes on in this text: it is empty, or it begins with a blank or a comment. -/
def Stops (text : List Char) : Prop :=
  ∀ char, text.head? = some char → Unicode.isBlank char = true ∨ char = ';'

theorem stops_nil : Stops [] := nofun

theorem Gap.stops {gap : List Char} (isGap : Gap gap) (present : gap ≠ []) (rest : List Char) :
    Stops (gap ++ rest) := by
  intro char first
  cases isGap with
  | nil => exact absurd rfl present
  | blank blank _ =>
      cases first
      exact .inl blank
  | comment _ _ =>
      cases first
      exact .inr rfl

theorem Gap.dropWhile {gap : List Char} (isGap : Gap gap) :
    Gap (gap.dropWhile Unicode.isBlank) := by
  induction isGap with
  | nil => exact .nil
  | blank blank _ ih => rwa [List.dropWhile_cons_of_pos blank]
  | comment line rest _ => exact .comment line rest

/-! ## Runs end with the token -/

variable {style : QuoteStyle} {rest : List Char}

theorem takeWhile_eq_nil {property : Char → Bool}
    (other : ∀ char, rest.head? = some char → property char = false) :
    rest.takeWhile property = [] := by
  cases rest with
  | nil => rfl
  | cons char rest => exact List.takeWhile_cons_of_neg (by simp [other char rfl])

theorem takeWhile_append {property : Char → Bool} {run : List Char}
    (members : ∀ char ∈ run, property char = true)
    (other : ∀ char, rest.head? = some char → property char = false) :
    (run ++ rest).takeWhile property = run := by
  rw [List.takeWhile_append_of_pos members, takeWhile_eq_nil other, List.append_nil]

/-- What ends a token, a semicolon apart, is no character between the blanks of ASCII and those beyond. -/
theorem Stops.code (stops : Stops rest) {char : Char} (first : rest.head? = some char) :
    char = ';' ∨ char.toNat ≤ 32 ∨ 133 ≤ char.toNat := by
  rcases stops char first with blank | semicolon
  · exact .inr (Lead.code_of_isBlank blank)
  · exact .inl semicolon

theorem Stops.head?_ne (stops : Stops rest) {char : Char} (semicolon : char ≠ ';')
    (printable : 32 < char.toNat ∧ char.toNat < 133) : rest.head? ≠ some char := by
  intro first
  rcases stops.code first with same | code
  · exact semicolon same
  · omega

theorem Stops.excludes (stops : Stops rest) {property : Char → Bool} (semicolon : property ';' = false)
    (printable : ∀ char, property char = true → 32 < char.toNat ∧ char.toNat < 133)
    (char : Char) (first : rest.head? = some char) : property char = false := by
  rw [Bool.eq_false_iff]
  intro holds
  have between := printable char holds
  rcases stops.code first with rfl | code
  · rw [semicolon] at holds
    cases holds
  · omega

theorem Stops.not_isDigit (stops : Stops rest) (char : Char) (first : rest.head? = some char) :
    char.isDigit = false := by
  refine stops.excludes (by decide) (fun other digit => ?_) char first
  have code := Lead.code_of_isDigit digit
  omega

theorem Stops.not_isNameChar (stops : Stops rest) (char : Char) (first : rest.head? = some char) :
    isNameChar char = false := by
  refine stops.excludes (by decide) (fun other member => ?_) char first
  simp only [isNameChar, Lead.isAlphanum_eq, Bool.or_eq_true, decide_eq_true_eq, List.mem_cons,
    List.not_mem_nil, or_false] at member
  rcases member with (letter | digit) | rfl | rfl | rfl | rfl
  · have code := Lead.code_of_letter (.inl letter)
    omega
  · have code := Lead.code_of_isDigit digit
    omega
  all_goals decide

/-! ## Reading a written token -/

theorem ofRegion_written (kind : Kind) {region : Delimiters} {text : List Char}
    (expressible : region.Expressible text) (stops : Stops rest) (semicolon : region.closing ≠ ';')
    (printable : 32 < region.closing.toNat ∧ region.closing.toNat < 133) :
    Next.ofRegion kind (region.readFrom ((region.written text).tail ++ rest) [] 1) =
      .region kind text (region.written text).length := by
  have alone := stops.head?_ne semicolon printable
  rw [Delimiters.readFrom_written expressible fun _ => alone]
  rfl

/-- A comparison of one character is not the beginning of one of two. -/
theorem next_comparison {char : Char} (begins : char ∈ ['<', '>', '=']) (stops : Stops rest) :
    next style (char :: rest) = some (.plain .operator 1) := by
  have lead : Lead.of char = .comparison := Lead.of_begins begins
  have single : rest.head? ≠ some '=' := stops.head?_ne (by decide) (by decide)
  simp only [next, lead, if_neg single]

/-- What comes next in a text that begins with a written token is that token. -/
theorem next_written {kind : Kind} {text : List Char} (expressible : kind.Expressible style text)
    (stops : Stops rest) :
    next style (kind.written style text ++ rest) =
      some (kind.next text (kind.written style text).length) := by
  cases kind with
  | leftParen =>
      obtain rfl : text = ['('] := expressible
      rfl
  | rightParen =>
      obtain rfl : text = [')'] := expressible
      rfl
  | operator =>
      simp only [Kind.Expressible, Kind.operators, List.mem_cons, List.not_mem_nil, or_false]
        at expressible
      rcases expressible with rfl | rfl | rfl | rfl | rfl | rfl | rfl | rfl | rfl | rfl
      · rfl
      · rfl
      · rfl
      · exact next_comparison (by decide) stops
      · exact next_comparison (by decide) stops
      · exact next_comparison (by decide) stops
      all_goals rfl
  | boolean =>
      simp only [Kind.Expressible, Kind.booleans, List.mem_cons, List.not_mem_nil, or_false]
        at expressible
      rcases expressible with rfl | rfl
      · rfl
      · rfl
  | integer =>
      obtain ⟨present, digits⟩ := expressible
      cases text with
      | nil => exact absurd rfl present
      | cons first text =>
          have lead : Lead.of first = .digit := Lead.of_begins (digits first (by simp))
          have inside (char : Char) (member : char ∈ text) : char.isDigit = true :=
            digits char (List.mem_cons_of_mem first member)
          have run := takeWhile_append inside stops.not_isDigit
          simp only [Kind.written, List.cons_append, next, lead, run]
          rw [List.length_cons, Nat.add_comm]
          rfl
  | identifier =>
      cases text with
      | nil => exact expressible.elim
      | cons first text =>
          obtain ⟨letter, names⟩ := expressible
          have lead : Lead.of first = .letter := Lead.of_begins letter
          have run := takeWhile_append names stops.not_isNameChar
          simp only [Kind.written, List.cons_append, next, lead, run]
          rw [List.length_cons, Nat.add_comm]
          rfl
  | string =>
      have closing : style.marks.closing = '"' := rfl
      refine congrArg some (ofRegion_written .string expressible stops ?_ ?_) <;> rw [closing] <;> decide
  | block =>
      exact congrArg some (ofRegion_written .block expressible stops (by decide) (by decide))

/-- A written token begins with a character that is not a blank. -/
theorem written_starts {kind : Kind} {text : List Char} (expressible : kind.Expressible style text) :
    ∃ first tail, kind.written style text = first :: tail ∧ Unicode.isBlank first = false := by
  have comes := next_written expressible stops_nil
  rw [List.append_nil] at comes
  cases starts : kind.written style text with
  | nil =>
      rw [starts] at comes
      cases comes
  | cons first tail =>
      refine ⟨first, tail, rfl, ?_⟩
      rw [Bool.eq_false_iff]
      intro blank
      have lead : Lead.of first = .blank := Lead.of_begins blank
      rw [starts] at comes
      simp only [next, lead] at comes
      cases kind <;> cases comes

/-! ## Passing a gap -/

theorem Gap.exists_piece {gap : List Char} (isGap : Gap gap) (present : gap ≠ []) {after : List Char}
    (fresh : ∀ char, after.head? = some char → Unicode.isBlank char = false) :
    ∃ piece left, gap = piece ++ left ∧ piece ≠ [] ∧ Gap left ∧
      next style (piece ++ (left ++ after)) = some (.gap piece.length) := by
  cases isGap with
  | nil => exact absurd rfl present
  | @blank char rest blank isGap =>
      -- The run may go on beyond this blank, but not into what comes behind the gap.
      have lead : Lead.of char = .blank := Lead.of_begins blank
      have other (next : Char) (first : (rest.dropWhile Unicode.isBlank ++ after).head? = some next) :
          Unicode.isBlank next = false := by
        cases left : rest.dropWhile Unicode.isBlank with
        | nil =>
            rw [left] at first
            exact fresh next first
        | cons head tail =>
            have stops := List.head?_dropWhile_not Unicode.isBlank rest
            rw [left] at stops first
            cases first
            simpa using stops
      have members (char : Char) (member : char ∈ rest.takeWhile Unicode.isBlank) :
          Unicode.isBlank char = true := List.mem_takeWhile_imp member
      have run := takeWhile_append members other
      refine ⟨char :: rest.takeWhile Unicode.isBlank, rest.dropWhile Unicode.isBlank, ?_,
        List.cons_ne_nil _ _, isGap.dropWhile, ?_⟩
      · rw [List.cons_append, List.takeWhile_append_dropWhile]
      · simp only [List.cons_append, next, lead, run]
        rw [List.length_cons, Nat.add_comm]
  | @comment body rest line isGap =>
      -- A comment leaves the end of its line, which begins what is left of the gap.
      have lead : Lead.of ';' = .semicolon := rfl
      have members (char : Char) (member : char ∈ body) : (char != '\n') = true := by
        rw [bne_iff_ne]
        rintro rfl
        exact line member
      have run : (body ++ ('\n' :: rest ++ after)).takeWhile (· != '\n') = body := by
        refine takeWhile_append members fun char first => ?_
        cases first
        rfl
      refine ⟨';' :: body, '\n' :: rest, rfl, List.cons_ne_nil _ _, .blank rfl isGap, ?_⟩
      simp only [List.cons_append] at run
      simp only [List.cons_append, next, lead, run]
      rw [List.length_cons, Nat.add_comm]

end LexKit.Sexpr
