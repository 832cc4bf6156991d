import LexKit.Proofs.Scan.Extension
import LexKit.Proofs.Sexpr.Extent

/-!
# Tokens and what is put behind them

Where more text is put behind a source, only what reaches up to the old end can change: every other token, gap
or comment is settled by a character that is there already. A source whose last line is ended leaves even less
open. No token and no comment goes up to the end of the line, so only the last run of blanks can grow.
-/

namespace LexKit.Sexpr

variable {style : QuoteStyle} {char : Char} {source body : List Char} {kind : Kind} {text : List Char}
  {comes : Next} {cursor : Cursor}

namespace Next

def count : Next → Nat
  | .gap count | .plain _ count | .region _ _ count => count
  | .unclosed => 0

theorem attempt_extend (within : comes.count ≤ cursor.rest.length) (more : List Char) :
    comes.attempt (cursor.extend more) = comes.attempt cursor := by
  cases comes with
  | gap count | unclosed => rfl
  | plain kind count =>
      have within : count ≤ cursor.rest.length := within
      rw [attempt, attempt, Cursor.textOf_extend within, Cursor.spanOf_extend within]
  | region kind text count =>
      have within : count ≤ cursor.rest.length := within
      rw [attempt, attempt, Cursor.spanOf_extend within]

theorem of_attempt_eq_accepted {token : Option Lexeme} {moved : Nat}
    (accepts : comes.attempt cursor = .accepted token moved) :
    comes ≠ .unclosed ∧ comes.count = moved := by
  cases comes with
  | unclosed => cases accepts
  | gap | plain | region =>
      cases accepts
      exact ⟨nofun, rfl⟩

end Next

/-! ## More text behind -/

theorem takeWhile_append_of_lt {property : Char → Bool}
    (shorter : 1 + (body.takeWhile property).length < (char :: body).length) (more : List Char) :
    (body ++ more).takeWhile property = body.takeWhile property := by
  rw [List.length_cons] at shorter
  rw [List.takeWhile_append, if_neg (by omega)]

theorem head?_append_of_lt (longer : 1 < (char :: body).length) (more : List Char) :
    (body ++ more).head? = body.head? := by
  cases body with
  | nil => exact absurd longer (Nat.lt_irrefl 1)
  | cons second body => rfl

theorem ofRegion_append {region : Delimiters} (is : Next.ofRegion kind (region.readFrom body [] 1) = comes)
    (closed : comes ≠ .unclosed) (before : comes.count < (char :: body).length) (more : List Char) :
    Next.ofRegion kind (region.readFrom (body ++ more) [] 1) = comes := by
  subst is
  cases found : region.readFrom body [] 1 with
  | none =>
      rw [found] at closed
      exact absurd rfl closed
  | some result =>
      obtain ⟨text, count⟩ := result
      rw [found] at before
      have shorter : count < 1 + body.length := by
        rw [Nat.add_comm]
        exact before
      rw [Delimiters.readFrom_append found fun _ => shorter]

/-- What comes next and does not reach up to the end of a source comes next with any text behind. -/
theorem next_append (is : next style source = some comes) (closed : comes ≠ .unclosed)
    (before : comes.count < source.length) (more : List Char) :
    next style (source ++ more) = some comes := by
  cases source with
  | nil => cases is
  | cons char body =>
      rw [List.cons_append]
      cases lead : Lead.of char <;> simp only [next, lead] at is ⊢
      case blank | semicolon | digit | letter =>
          cases is
          rw [takeWhile_append_of_lt before]
      case quote | brace => rw [ofRegion_append (Option.some.inj is) closed before]
      case leftParen | rightParen | sign => exact is
      case hash =>
          split at is
          · cases is
            have longer : 1 < (char :: body).length := Nat.lt_of_succ_lt before
            rwa [head?_append_of_lt longer, if_pos]
          · cases is
      case comparison =>
          cases is
          have longer : 1 < (char :: body).length := by
            refine Nat.lt_of_le_of_lt ?_ before
            simp only [Next.count]
            split <;> decide
          rw [head?_append_of_lt longer]
      case other => cases is

/-- What no rule looks for is not looked for with any text behind it, unless a boolean can come of it. -/
theorem next_append_none (nothing : next style source = none) (present : source ≠ [])
    (decided : source ≠ ['#']) (more : List Char) : next style (source ++ more) = none := by
  obtain ⟨char, body, rfl⟩ := List.exists_cons_of_ne_nil present
  rw [List.cons_append]
  cases lead : Lead.of char <;> simp only [next, lead, reduceCtorEq] at nothing ⊢
  case hash =>
      obtain rfl : char = '#' := (Lead.of_eq_iff (by decide)).1 lead
      have longer : 1 < ('#' :: body).length := by
        cases body with
        | nil => exact absurd rfl decided
        | cons second body => exact Nat.succ_lt_succ (Nat.succ_pos _)
      rwa [head?_append_of_lt longer]

/-! ## Sources whose last line is ended -/

def EndsLine (text : List Char) : Prop := ∀ char, text.getLast? = some char → char = '\n'

theorem EndsLine.drop (line : EndsLine source) (count : Nat) : EndsLine (source.drop count) := by
  intro char last
  rw [List.getLast?_drop] at last
  split at last
  · cases last
  · exact line char last

theorem EndsLine.newline_mem (line : EndsLine source) (present : source ≠ []) : '\n' ∈ source := by
  have last := List.getLast?_eq_some_getLast present
  have same := line _ last
  rw [same] at last
  exact List.mem_of_getLast? last

theorem not_endsLine_written (expressible : kind.Expressible style text)
    (written : kind.written style text = source) : ¬ EndsLine source := by
  subst written
  intro line
  obtain ⟨first, tail, starts, -⟩ := written_starts expressible
  have present : kind.written style text ≠ [] := by
    rw [starts]
    exact List.cons_ne_nil first tail
  have member := line.newline_mem present
  cases kind with
  | leftParen =>
      obtain rfl : text = ['('] := expressible
      simp [Kind.written] at member
  | rightParen =>
      obtain rfl : text = [')'] := expressible
      simp [Kind.written] at member
  | operator =>
      have none : ∀ text ∈ Kind.operators, '\n' ∉ text := by decide
      exact none text expressible member
  | boolean =>
      have none : ∀ text ∈ Kind.booleans, '\n' ∉ text := by decide
      exact none text expressible member
  | integer => exact absurd (expressible.2 _ member) (by decide)
  | identifier =>
      cases text with
      | nil => exact expressible
      | cons first rest =>
          rcases List.mem_cons.1 member with rfl | inside
          · exact absurd expressible.1 (by decide)
          · exact absurd (expressible.2 _ inside) (by decide)
  | string =>
      have last : (Kind.string.written style text).getLast? = some '"' :=
        List.getLast?_append_of_ne_nil _ (List.cons_ne_nil _ _)
      exact absurd (line _ last) (by decide)
  | block =>
      have last : (Kind.block.written style text).getLast? = some '\x7d' :=
        List.getLast?_append_of_ne_nil _ (List.cons_ne_nil _ _)
      exact absurd (line _ last) (by decide)

/-- A piece of a gap is a run of blanks, or a semicolon and what is left of its line. -/
theorem run_of_next_gap {count : Nat} (is : next style (char :: body) = some (.gap count)) :
    ∃ property : Char → Bool, count = 1 + (body.takeWhile property).length ∧
      (property = Unicode.isBlank ∧ property char = true ∨ property = (· != '\n') ∧ char = ';') := by
  have begins (lead : Lead) (known : lead ≠ .other) (same : Lead.of char = lead) :
      lead.Begins char := (Lead.of_eq_iff known).1 same
  cases lead : Lead.of char <;> simp only [next, lead, Option.some.injEq, reduceCtorEq] at is
  case blank =>
      cases is
      exact ⟨Unicode.isBlank, rfl, .inl ⟨rfl, begins .blank (by decide) lead⟩⟩
  case semicolon =>
      cases is
      exact ⟨(· != '\n'), rfl, .inr ⟨rfl, begins .semicolon (by decide) lead⟩⟩
  case quote =>
      cases found : style.marks.readFrom body [] 1 <;> rw [found] at is <;> cases is
  case brace =>
      cases found : blockMarks.readFrom body [] 1 <;> rw [found] at is <;> cases is
  case hash => split at is <;> cases is

/-- What comes next in such a source ends before it does, unless the source is a run of blanks. -/
theorem count_lt_or_blank (is : next style source = some comes) (line : EndsLine source) :
    comes.count < source.length ∨
      comes = .gap source.length ∧ ∀ char ∈ source, Unicode.isBlank char = true := by
  by_cases before : comes.count < source.length
  · exact .inl before
  have whole : source.take comes.count = source := List.take_of_length_le (Nat.le_of_not_lt before)
  have present : source ≠ [] := by
    rintro rfl
    cases is
  have written := next_writtenIn is
  cases comes with
  | unclosed => exact absurd (List.length_pos_iff.2 present) before
  | plain | region =>
      obtain ⟨expressible, same⟩ := written
      exact absurd line (not_endsLine_written expressible (same.trans whole))
  | gap count =>
      cases source with
      | nil => cases is
      | cons char body =>
          have member := line.newline_mem present
          obtain ⟨property, size, known⟩ := run_of_next_gap is
          have taken : char :: body = char :: body.takeWhile property := by
            rw [← (take_run property char body).1, ← size]
            exact whole.symm
          rcases known with ⟨rfl, first⟩ | ⟨rfl, rfl⟩
          · refine .inr ⟨?_, ?_⟩
            · rw [size, taken, List.length_cons, Nat.add_comm, ← (List.cons.inj taken).2]
            · rw [taken]
              exact forall_mem_run first
          · -- A comment stops before the end of its line.
            rw [taken] at member
            have inside : ∀ char ∈ ';' :: body.takeWhile (· != '\n'), (char != '\n') = true :=
              forall_mem_run rfl
            exact absurd (inside '\n' member) (by decide)

end LexKit.Sexpr
