import LexKit.Proofs.Delimiters.Reading
import LexKit.Proofs.Sexpr.Writing

/-!
# What comes next was written so

The other direction of writing tokens. Whatever a rule takes is there as it would be written: a piece of a gap,
or a token of its kind. One lemma for each rule says how far the rule goes, and the next character tells which
of them is asked.
-/

namespace LexKit.Sexpr

open Text

/-- What is passed without a token in front of a text: blanks, and comments up to the end of a line or of the
input. -/
inductive GapBefore (after : List Char) : List Char → Prop where
  | nil : GapBefore after []
  | blank {char : Char} {rest : List Char} :
      Unicode.isBlank char = true → GapBefore after rest → GapBefore after (char :: rest)
  | comment {body rest : List Char} : '\n' ∉ body →
      (∀ char, (rest ++ after).head? = some char → char = '\n') → GapBefore after rest →
      GapBefore after (';' :: body ++ rest)

/-- What comes next is written in the source: a piece of a gap in front of any gap behind it, or a token. -/
def Next.WrittenIn (style : QuoteStyle) (source : List Char) : Next → Prop
  | .gap count => ∀ rest after, source.drop count = rest ++ after → GapBefore after rest →
      GapBefore after (source.take count ++ rest)
  | .plain kind count =>
      kind.Expressible style (source.take count) ∧
        kind.written style (source.take count) = source.take count
  | .region kind text count =>
      kind.Expressible style text ∧ kind.written style text = source.take count
  | .unclosed => True

variable {style : QuoteStyle} {char : Char} {body source rest after left : List Char}

/-! ## Gaps -/

namespace GapBefore

theorem blanks {run : List Char} (blank : ∀ char ∈ run, Unicode.isBlank char = true)
    (gap : GapBefore after rest) : GapBefore after (run ++ rest) := by
  induction run with
  | nil => exact gap
  | cons char run ih =>
      have here := blank char List.mem_cons_self
      exact .blank here (ih fun other member => blank other (List.mem_cons_of_mem char member))

/-- A comment that goes up to the end of a line still does so where the text behind is cut. -/
theorem cut (gap : GapBefore (after ++ left) rest) : GapBefore after rest := by
  induction gap with
  | nil => exact .nil
  | blank blank _ ih => exact .blank blank ih
  | comment line ends _ ih =>
      refine .comment line (fun char first => ends char ?_) ih
      rw [← List.append_assoc, List.head?_append, first]
      rfl

end GapBefore

/-! ## Runs -/

theorem take_run (property : Char → Bool) (char : Char) (rest : List Char) :
    (char :: rest).take (1 + (rest.takeWhile property).length) = char :: rest.takeWhile property ∧
      (char :: rest).drop (1 + (rest.takeWhile property).length) = rest.dropWhile property := by
  have parts : char :: rest = (char :: rest.takeWhile property) ++ rest.dropWhile property := by
    rw [List.cons_append, List.takeWhile_append_dropWhile]
  have size : 1 + (rest.takeWhile property).length = (char :: rest.takeWhile property).length := by
    rw [List.length_cons, Nat.add_comm]
  rw [size]
  constructor
  · conv_lhs => rw [parts]
    exact List.take_left
  · conv_lhs => rw [parts]
    exact List.drop_left

theorem forall_mem_run {property : Char → Bool} (first : property char = true) (other : Char)
    (member : other ∈ char :: body.takeWhile property) : property other = true := by
  rcases List.mem_cons.1 member with rfl | inside
  · exact first
  · exact List.mem_takeWhile_imp inside

theorem blanks_writtenIn (first : Unicode.isBlank char = true) :
    (Next.gap (1 + (body.takeWhile Unicode.isBlank).length)).WrittenIn style (char :: body) := by
  intro rest after parts gap
  rw [(take_run Unicode.isBlank char body).1]
  exact .blanks (forall_mem_run first) gap

theorem comment_writtenIn :
    (Next.gap (1 + (body.takeWhile (· != '\n')).length)).WrittenIn style (';' :: body) := by
  obtain ⟨taken, dropped⟩ := take_run (· != '\n') ';' body
  intro rest after parts gap
  rw [taken]
  refine .comment (fun member => ?_) (fun other first => ?_) gap
  · have inside := List.mem_takeWhile_imp member
    simp at inside
  · -- What stands behind the comment is what its run leaves.
    rw [← parts, dropped] at first
    have stops := List.head?_dropWhile_not (· != '\n') body
    rw [first] at stops
    simpa using stops

theorem integer_writtenIn (first : char.isDigit = true) :
    (Next.plain .integer (1 + (body.takeWhile Char.isDigit).length)).WrittenIn style (char :: body) := by
  refine ⟨?_, rfl⟩
  rw [(take_run Char.isDigit char body).1]
  exact ⟨List.cons_ne_nil _ _, forall_mem_run first⟩

theorem identifier_writtenIn (first : char.isAlpha = true ∨ char = '_') :
    (Next.plain .identifier (1 + (body.takeWhile isNameChar).length)).WrittenIn style (char :: body) := by
  refine ⟨?_, rfl⟩
  rw [(take_run isNameChar char body).1]
  exact ⟨first, fun other member => List.mem_takeWhile_imp member⟩

/-! ## Fixed texts -/

theorem boolean_writtenIn (second : body.head? = some 't' ∨ body.head? = some 'f') :
    (Next.plain .boolean 2).WrittenIn style ('#' :: body) := by
  refine ⟨?_, rfl⟩
  rcases second with second | second
  all_goals
    obtain ⟨tail, rfl⟩ := List.head?_eq_some_iff.1 second
    simp [Kind.Expressible, Kind.booleans]

theorem comparison_writtenIn (first : char ∈ ['<', '>', '=']) :
    (Next.plain .operator (if body.head? = some '=' then 2 else 1)).WrittenIn style (char :: body) := by
  refine ⟨?_, rfl⟩
  simp only [List.mem_cons, List.not_mem_nil, or_false] at first
  by_cases double : body.head? = some '='
  · obtain ⟨tail, rfl⟩ := List.head?_eq_some_iff.1 double
    rcases first with rfl | rfl | rfl <;> simp [Kind.Expressible, Kind.operators]
  · rcases first with rfl | rfl | rfl <;> simp [Kind.Expressible, Kind.operators, double]

theorem sign_writtenIn (first : char ∈ ['+', '-', '*', '/']) :
    (Next.plain .operator 1).WrittenIn style (char :: body) := by
  refine ⟨?_, rfl⟩
  simp only [List.mem_cons, List.not_mem_nil, or_false] at first
  rcases first with rfl | rfl | rfl | rfl <;> simp [Kind.Expressible, Kind.operators]

/-! ## All of them -/

theorem ofRegion_writtenIn {kind : Kind} {region : Delimiters}
    (expressible : ∀ text, region.Expressible text → kind.Expressible style text)
    (written : ∀ text, kind.written style text = region.written text) :
    (Next.ofRegion kind (region.readFrom body [] 1)).WrittenIn style (region.opening :: body) := by
  cases found : region.readFrom body [] 1 with
  | none => trivial
  | some result =>
      obtain ⟨text, count⟩ := result
      obtain ⟨can, taken⟩ := Delimiters.written_of_readFrom found
      exact ⟨expressible text can, (written text).trans taken.symm⟩

theorem next_writtenIn {next : Next} (comes : Sexpr.next style source = some next) :
    next.WrittenIn style source := by
  cases source with
  | nil => cases comes
  | cons char body =>
      have begins (lead : Lead) (known : lead ≠ .other) (same : Lead.of char = lead) :
          lead.Begins char := (Lead.of_eq_iff known).1 same
      cases lead : Lead.of char <;> simp only [Sexpr.next, lead] at comes
      case blank =>
          cases comes
          exact blanks_writtenIn (begins .blank (by decide) lead)
      case semicolon =>
          cases comes
          obtain rfl : char = ';' := begins .semicolon (by decide) lead
          exact comment_writtenIn
      case quote =>
          cases comes
          obtain rfl : char = '"' := begins .quote (by decide) lead
          exact ofRegion_writtenIn (fun _ => id) fun _ => rfl
      case brace =>
          cases comes
          obtain rfl : char = '\x7b' := begins .brace (by decide) lead
          exact ofRegion_writtenIn (fun _ => id) fun _ => rfl
      case leftParen =>
          cases comes
          obtain rfl : char = '(' := begins .leftParen (by decide) lead
          exact ⟨rfl, rfl⟩
      case rightParen =>
          cases comes
          obtain rfl : char = ')' := begins .rightParen (by decide) lead
          exact ⟨rfl, rfl⟩
      case hash =>
          obtain rfl : char = '#' := begins .hash (by decide) lead
          split at comes
          · rename_i second
            cases comes
            exact boolean_writtenIn second
          · cases comes
      case comparison =>
          cases comes
          exact comparison_writtenIn (begins .comparison (by decide) lead)
      case sign =>
          cases comes
          exact sign_writtenIn (begins .sign (by decide) lead)
      case digit =>
          cases comes
          exact integer_writtenIn (begins .digit (by decide) lead)
      case letter =>
          cases comes
          exact identifier_writtenIn (begins .letter (by decide) lead)
      case other => cases comes

end LexKit.Sexpr
