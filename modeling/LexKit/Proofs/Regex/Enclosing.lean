import LexKit.Regex.Bracket
import Mathlib.Data.List.TakeDrop
import Mathlib.Tactic.SplitIfs

/-!
# Reading in front of a closing parenthesis

What is read at the start of a text is read in the same way with a closing parenthesis behind the text, and the
parenthesis is left: no reader of flags, escapes or brackets takes it, and where one comes to the end of the text, it
gives up. Only blanks and comments can go on to the end, and they belong to nothing.
-/

namespace LexKit.Regex

/-- What a reader gives for a text it gives in front of the parenthesis too. -/
inductive Keeps {α : Type} : Option (α × List Char) → Option (α × List Char) → Prop
  | fails (enclosed : Option (α × List Char)) : Keeps none enclosed
  | reads (value : α) (rest : List Char) : Keeps (some (value, rest)) (some (value, rest ++ [')']))

variable {α β : Type} {text more rest : List Char} {char : Char}

namespace Keeps

theorem bind {first first' : Option (α × List Char)} {next next' : α × List Char → Option (β × List Char)}
    (keeps : Keeps first first')
    (goesOn : ∀ value rest, Keeps (next (value, rest)) (next' (value, rest ++ [')']))) :
    Keeps (first.bind next) (first'.bind next') := by
  cases keeps with
  | fails => exact .fails _
  | reads value rest => exact goesOn value rest

theorem guard {value : Option β} {next next' : β → Option (α × List Char)}
    (goesOn : ∀ value, Keeps (next value) (next' value)) : Keeps (value.bind next) (value.bind next') := by
  cases value with
  | none => exact .fails _
  | some value => exact goesOn value

theorem map (value : Option β) (result : β → α) (rest : List Char) :
    Keeps (value.map fun one => (result one, rest)) (value.map fun one => (result one, rest ++ [')'])) := by
  cases value with
  | none => exact .fails _
  | some one => exact .reads (result one) rest

end Keeps

theorem head?_parenthesis (other : char ≠ ')') (text : List Char) :
    (text ++ [')']).head? = some char ↔ text.head? = some char := by
  cases text <;> simp [Ne.symm other]

/-! ## Flags -/

theorem skipVerbose_append {comment : Bool} (left : skipVerbose comment text ≠ []) (more : List Char) :
    skipVerbose comment (text ++ more) = skipVerbose comment text ++ more := by
  induction text generalizing comment with
  | nil => cases comment <;> exact (left rfl).elim
  | cons char text ih =>
      cases comment with
      | true => exact ih left
      | false =>
          simp only [skipVerbose, List.cons_append] at left ⊢
          split_ifs at left ⊢
          · exact ih left
          · exact ih left
          · rfl

theorem Flags.skip_append (flags : Flags) (left : flags.skip text ≠ []) (more : List Char) :
    flags.skip (text ++ more) = flags.skip text ++ more := by
  unfold Flags.skip at left ⊢
  split_ifs at left ⊢
  · exact skipVerbose_append left more
  · rfl

theorem Flags.skip_of_cons {flags : Flags} (starts : flags.skip text = char :: rest) (more : List Char) :
    flags.skip (text ++ more) = char :: (rest ++ more) := by
  rw [flags.skip_append (by simp [starts]), starts, List.cons_append]

/-- Where nothing is left of a text, the parenthesis is all that is left behind it, if a comment does not take it in. -/
theorem skipVerbose_of_nil {comment : Bool} (ends : skipVerbose comment text = []) :
    skipVerbose comment (text ++ [')']) = [] ∨ skipVerbose comment (text ++ [')']) = [')'] := by
  have blank : Unicode.isBlank ')' = false := by decide
  induction text generalizing comment with
  | nil => cases comment <;> simp [skipVerbose, blank]
  | cons char text ih =>
      cases comment with
      | true => exact ih ends
      | false =>
          simp only [skipVerbose, List.cons_append] at ends ⊢
          split_ifs at ends ⊢
          · exact ih ends
          · exact ih ends

theorem Flags.skip_of_nil {flags : Flags} (ends : flags.skip text = []) :
    flags.skip (text ++ [')']) = [] ∨ flags.skip (text ++ [')']) = [')'] := by
  unfold Flags.skip at ends ⊢
  split_ifs at ends ⊢
  · exact skipVerbose_of_nil ends
  · rw [ends]
    exact .inr rfl

theorem Flags.skip_keeps (flags : Flags) {read : List Char → Option (α × List Char)} (nothing : read [] = none)
    (keeps : ∀ text, Keeps (read text) (read (text ++ [')']))) (text : List Char) :
    Keeps (read (flags.skip text)) (read (flags.skip (text ++ [')']))) := by
  cases ahead : flags.skip text with
  | nil =>
      rw [nothing]
      exact .fails _
  | cons char rest =>
      rw [Flags.skip_of_cons ahead]
      exact keeps (char :: rest)

theorem spanVerbose_append {kind : Char → Bool} {comment : Bool} (left : (spanVerbose kind comment text).2 ≠ [])
    (more : List Char) :
    spanVerbose kind comment (text ++ more) =
      ((spanVerbose kind comment text).1, (spanVerbose kind comment text).2 ++ more) := by
  induction text generalizing comment with
  | nil => cases comment <;> exact (left rfl).elim
  | cons char text ih =>
      cases comment with
      | true => exact ih left
      | false =>
          simp only [spanVerbose, List.cons_append] at left ⊢
          split_ifs at left ⊢
          · exact ih left
          · exact ih left
          · rw [ih left]
          · rfl

theorem takeWhile_append {kind : Char → Bool} (left : text.dropWhile kind ≠ []) (more : List Char) :
    (text ++ more).takeWhile kind = text.takeWhile kind ∧
      (text ++ more).dropWhile kind = text.dropWhile kind ++ more := by
  induction text with
  | nil => exact (left rfl).elim
  | cons char text ih =>
      simp only [List.cons_append, List.dropWhile_cons, List.takeWhile_cons] at left ⊢
      split_ifs at left ⊢
      · exact (ih left).imp_left (congrArg (char :: ·))
      · exact ⟨rfl, rfl⟩

theorem Flags.span_of_stop {flags : Flags} {kind : Char → Bool} {taken : List Char}
    (run : flags.span kind text = (taken, char :: rest)) (more : List Char) :
    flags.span kind (text ++ more) = (taken, char :: (rest ++ more)) := by
  have left : (flags.span kind text).2 ≠ [] := by simp [run]
  have append : flags.span kind (text ++ more) =
      ((flags.span kind text).1, (flags.span kind text).2 ++ more) := by
    unfold Flags.span at left ⊢
    split_ifs at left ⊢
    · exact spanVerbose_append left more
    · exact Prod.ext (takeWhile_append left more).1 (takeWhile_append left more).2
  rw [append, run, List.cons_append]

theorem dropWhile_parenthesis (text : List Char) :
    (text ++ [')']).dropWhile Unicode.isBlank = text.dropWhile Unicode.isBlank ++ [')'] := by
  have blank : Unicode.isBlank ')' = false := by decide
  rw [List.dropWhile_append]
  split_ifs with nothing
  · rw [List.isEmpty_iff.1 nothing, List.dropWhile_cons_of_neg (by simp [blank]), List.nil_append]
  · rfl

/-- A look ahead sees the same, but for the parenthesis where there is nothing else. -/
theorem Flags.lookAhead_parenthesis (flags : Flags) (other : char ≠ ')') (text : List Char) :
    flags.lookAhead (text ++ [')']) = some char ↔ flags.lookAhead text = some char := by
  unfold Flags.lookAhead
  split
  · rw [dropWhile_parenthesis]
    cases text.dropWhile Unicode.isBlank with
    | nil => simp [Ne.symm other]
    | cons first rest =>
        by_cases mark : first = '#'
        · subst mark
          simp only [List.cons_append, dropWhile_parenthesis]
          exact head?_parenthesis other _
        · simp [mark]
  · exact head?_parenthesis other text

theorem Flags.read?_append (flags : Flags) (letters : List Char) {read : Flags}
    (reads : flags.read? letters text = some (read, char, rest)) (more : List Char) :
    flags.read? letters (text ++ more) = some (read, char, rest ++ more) := by
  induction text generalizing flags letters with
  | nil => cases reads
  | cons first text ih =>
      rw [List.cons_append]
      unfold Flags.read? at reads ⊢
      split_ifs at reads ⊢ with stop minus
      · cases reads
        rfl
      · exact ih flags _ reads
      · obtain ⟨set, sets, reads⟩ := Option.bind_eq_some_iff.1 reads
        exact Option.bind_eq_some_iff.2 ⟨set, sets, ih set _ reads⟩

/-! ## Escapes -/

namespace Atom

theorem readHexFixed?_keeps (flags : Flags) (count : Nat) (digits : List Nat) (text : List Char) :
    Keeps (readHexFixed? flags count digits text) (readHexFixed? flags count digits (text ++ [')'])) := by
  induction count generalizing digits text with
  | zero => exact .reads _ text
  | succ count ih =>
      unfold readHexFixed?
      cases ahead : flags.skip text with
      | nil => exact .fails _
      | cons char rest =>
          rw [Flags.skip_of_cons ahead]
          exact .guard fun digit => ih (digit :: digits) rest

theorem readHex?_keeps (flags : Flags) (count : Nat) (text : List Char) :
    Keeps (readHex? flags count text) (readHex? flags count (text ++ [')'])) := by
  have digitsOnly : Keeps
      ((readHexFixed? flags count [] text).bind fun read =>
        (scalar? (ofDigits 16 read.1)).bind fun char => some (literal char (count == 2), read.2))
      ((readHexFixed? flags count [] (text ++ [')'])).bind fun read =>
        (scalar? (ofDigits 16 read.1)).bind fun char => some (literal char (count == 2), read.2)) :=
    (readHexFixed?_keeps flags count [] text).bind fun _ _ => .guard fun _ => .reads _ _
  unfold readHex?
  cases ahead : flags.skip text with
  | nil => rcases Flags.skip_of_nil ahead with ahead' | ahead' <;> rw [ahead'] <;> exact digitsOnly
  | cons char rest =>
      rw [Flags.skip_of_cons ahead]
      by_cases brace : char = '\x7b'
      · subst brace
        simp only
        split
        · rename_i digits rest run
          rw [Flags.span_of_stop run]
          simp only
          split
          · exact .fails _
          · exact .guard fun _ => .reads _ rest
        · exact .fails _
      · simpa [brace] using digitsOnly

theorem readWordSide?_keeps (flags : Flags) (text : List Char) :
    Keeps (readWordSide? flags text) (readWordSide? flags (text ++ [')'])) := by
  unfold readWordSide?
  simp only
  cases text with
  | nil => exact .reads _ []
  | cons char rest =>
      by_cases brace : char = '\x7b'
      · subst brace
        simp only [List.cons_append]
        cases ahead : flags.skip rest with
        | nil => exact .fails _
        | cons first inner =>
            rw [Flags.skip_of_cons ahead]
            simp only
            split
            · split
              · rename_i word rest run
                rw [← List.cons_append, Flags.span_of_stop run]
                exact .map _ _ _
              · exact .fails _
            · exact .reads _ _
      · simpa [brace] using .reads _ (char :: rest)

theorem readProperty?_keeps (flags : Flags) (negated : Bool) (text : List Char) :
    Keeps (readProperty? flags negated text) (readProperty? flags negated (text ++ [')'])) := by
  unfold readProperty?
  cases ahead : flags.skip text with
  | nil => exact .fails _
  | cons char rest =>
      rw [Flags.skip_of_cons ahead]
      by_cases brace : char = '\x7b'
      · subst brace
        simp only
        split
        · exact .fails _
        · rename_i name stop rest run
          rw [Flags.span_of_stop run]
          exact .map _ _ _
      · simpa [brace] using Keeps.map _ _ rest

theorem readEscape?_keeps (flags : Flags) (text : List Char) :
    Keeps (readEscape? flags text) (readEscape? flags (text ++ [')'])) := by
  cases text with
  | nil => exact .fails _
  | cons char rest =>
      rw [List.cons_append]
      unfold readEscape?
      simp only
      split
      case h_1 | h_2 | h_3 => exact readHex?_keeps flags _ rest
      case h_10 | h_11 => exact readProperty?_keeps flags _ rest
      case h_20 => exact readWordSide?_keeps flags rest
      case h_24 =>
        split
        · exact .reads _ rest
        · exact .fails _
      all_goals exact .reads _ rest

end Atom

/-! ## Bracketed classes -/

namespace Bracket

theorem openBehind?_keeps (flags : Flags) (negated : Bool) (text : List Char) :
    Keeps (openBehind? flags negated text) (openBehind? flags negated (text ++ [')'])) := by
  unfold openBehind?
  cases run : flags.span (· == '-') text with
  | mk dashes left =>
    cases left with
    | nil => cases dashes <;> exact .fails _
    | cons char rest =>
        rw [Flags.span_of_stop run]
        cases dashes with
        | cons dash dashes => simpa using .reads _ (char :: rest)
        | nil =>
            by_cases mark : char = ']'
            · subst mark
              simp only
              cases after : flags.skip rest with
              | nil => exact .fails _
              | cons next rest =>
                  rw [Flags.skip_of_cons after]
                  exact .reads _ (next :: rest)
            · simpa [mark] using .reads _ (char :: rest)

theorem open?_keeps (flags : Flags) (text : List Char) :
    Keeps (open? flags text) (open? flags (text ++ [')'])) := by
  have plain := openBehind?_keeps flags false text
  unfold open?
  cases ahead : flags.skip text with
  | nil => rcases Flags.skip_of_nil ahead with ahead' | ahead' <;> rw [ahead'] <;> exact plain
  | cons char rest =>
      rw [Flags.skip_of_cons ahead]
      by_cases mark : char = '^'
      · subst mark
        exact openBehind?_keeps flags true rest
      · simpa [mark] using plain

/-- The name of a class of ASCII characters ends before the parenthesis, or there is none. -/
theorem readPosixName?_append (negated : Bool) (text : List Char) :
    readPosixName? negated (text ++ [')']) =
      (readPosixName? negated text).map fun (negated, members, rest) => (negated, members, rest ++ [')']) := by
  unfold readPosixName?
  rw [List.span_eq_takeWhile_dropWhile, List.span_eq_takeWhile_dropWhile]
  by_cases colon : text.dropWhile (· != ':') = []
  · have none : (text ++ [')']).dropWhile (· != ':') = [] := by
      rw [List.dropWhile_append, colon]
      rfl
    rw [colon, none]
    rfl
  · obtain ⟨same, behind⟩ := takeWhile_append colon [')']
    rw [same, behind]
    cases after : text.dropWhile (· != ':') with
    | nil => exact (colon after).elim
    | cons first rest =>
        by_cases ends : first = ':'
        · subst ends
          cases rest with
          | nil => rfl
          | cons second rest =>
              by_cases bracket : second = ']'
              · subst bracket
                simp [Function.comp_def]
              · simp [bracket]
        · simp [ends]

theorem readPosix?_append (text : List Char) :
    readPosix? (text ++ [')']) =
      (readPosix? text).map fun (negated, members, rest) => (negated, members, rest ++ [')']) := by
  cases text with
  | nil => rfl
  | cons char rest =>
      by_cases colon : char = ':'
      · subst colon
        cases rest with
        | nil => rfl
        | cons mark rest =>
            by_cases negates : mark = '^'
            · subst negates
              exact readPosixName?_append true rest
            · simpa [readPosix?, negates] using readPosixName?_append false (mark :: rest)
      · simp [readPosix?, colon]

theorem readAtom?_keeps (flags : Flags) (text : List Char) :
    Keeps (readAtom? flags text) (readAtom? flags (text ++ [')'])) := by
  cases text with
  | nil => exact .fails _
  | cons char rest =>
      by_cases escape : char = '\\'
      · subst escape
        exact Atom.readEscape?_keeps flags rest
      · simpa [readAtom?, escape] using .reads _ rest

theorem readRange?_keeps (flags : Flags) (text : List Char) :
    Keeps (readRange? flags text) (readRange? flags (text ++ [')'])) := by
  unfold readRange?
  refine (readAtom?_keeps flags text).bind fun atom text => ?_
  simp only
  cases ahead : flags.skip text with
  | nil => exact .fails _
  | cons char rest =>
      rw [Flags.skip_of_cons ahead]
      by_cases minus : char = '-'
      · subst minus
        simp only [flags.lookAhead_parenthesis (show ']' ≠ ')' by decide),
          flags.lookAhead_parenthesis (show '-' ≠ ')' by decide)]
        split
        · exact .guard fun _ => .reads _ ('-' :: rest)
        · refine (flags.skip_keeps rfl (readAtom?_keeps flags) rest).bind fun last rest => ?_
          refine .guard fun low => .guard fun high => ?_
          split
          · exact .reads _ rest
          · exact .fails _
      · simpa [minus] using .guard fun _ => .reads _ (char :: rest)

theorem readFrom?_keeps (flags : Flags) {fuel fuel' : Nat} (enough : fuel ≤ fuel') (bracket : Bracket)
    (outer : List Bracket) (text : List Char) :
    Keeps (readFrom? flags fuel bracket outer text) (readFrom? flags fuel' bracket outer (text ++ [')'])) := by
  induction fuel generalizing fuel' bracket outer text with
  | zero => exact .fails _
  | succ fuel ih =>
      obtain ⟨fuel', rfl⟩ : ∃ less, fuel' = less + 1 := ⟨fuel' - 1, by omega⟩
      replace enough := Nat.le_of_succ_le_succ enough
      unfold readFrom?
      cases ahead : flags.skip text with
      | nil => exact .fails _
      | cons char rest =>
          rw [Flags.skip_of_cons ahead]
          have range : Keeps
              ((readRange? flags (char :: rest)).bind fun read =>
                readFrom? flags fuel (bracket.add ⟨read.1, 0⟩) outer read.2)
              ((readRange? flags (char :: (rest ++ [')']))).bind fun read =>
                readFrom? flags fuel' (bracket.add ⟨read.1, 0⟩) outer read.2) :=
            (readRange?_keeps flags (char :: rest)).bind fun members rest => ih enough _ outer rest
          by_cases opens : char = '['
          · subst opens
            simp only [readPosix?_append]
            cases readPosix? rest with
            | some read => exact .guard fun _ => ih enough _ outer read.2.2
            | none => exact (open?_keeps flags rest).bind fun inner rest => ih enough inner _ rest
          by_cases ends : char = ']'
          · subst ends
            refine .guard fun nested => ?_
            cases outer with
            | nil => exact .reads nested rest
            | cons parent outer => exact ih enough _ outer rest
          -- An operator takes two characters, and the parenthesis is never the second of them.
          cases rest with
          | nil => simpa [opens, ends] using range
          | cons second rest =>
              by_cases inter : char = '&'
              · subst inter
                by_cases twice : second = '&'
                · subst twice
                  exact ih enough _ outer rest
                · simpa [twice] using range
              by_cases diff : char = '-'
              · subst diff
                by_cases twice : second = '-'
                · subst twice
                  exact ih enough _ outer rest
                · simpa [twice] using range
              by_cases symmDiff : char = '~'
              · subst symmDiff
                by_cases twice : second = '~'
                · subst twice
                  exact ih enough _ outer rest
                · simpa [twice] using range
              simpa [opens, ends, inter, diff, symmDiff] using range

theorem read?_keeps (flags : Flags) (text : List Char) :
    Keeps (read? flags text) (read? flags (text ++ [')'])) := by
  have enough : text.length + 1 ≤ (text ++ [')']).length + 1 := by simp
  exact (open?_keeps flags text).bind fun bracket rest => readFrom?_keeps flags enough bracket [] rest

end Bracket

end LexKit.Regex
