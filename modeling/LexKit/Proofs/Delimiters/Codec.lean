import LexKit.Proofs.Delimiters.Reading

/-!
# Regions and the texts they stand for

Writing and reading regions undo each other. A match has passed just what is written for the text that it gives,
and whatever is written for a text is matched as that text, behind anything and in front of anything that does
not prolong it. With an escape of its own the texts that can be written are those in which no run of escapes
acts on what is behind it; with doubling all texts can, but a further closing character would go on as a pair.
-/

namespace LexKit.Delimiters

open Text

/-- The matcher takes a region off the input as a text, and leaves the rest. -/
structure Takes (delimiters : Delimiters) (cursor : Cursor) (text : String) (region rest : List Char) :
    Prop where
  opens : cursor.rest = region ++ rest
  outcome : (delimiters.matcher cursor).outcome =
    .matched ⟨some text, ⟨cursor.position, cursor.position + byteLength region⟩⟩
  passed : ((delimiters.matcher cursor).next cursor).passed = region.reverse ++ cursor.passed
  leaves : ((delimiters.matcher cursor).next cursor).rest = rest

variable {delimiters : Delimiters} {cursor : Cursor} {text : String} {rest : List Char}
  {extract : Extract} {escape closing : Char}

/-! ## One match -/

theorem takes_written (expressible : delimiters.Expressible text.toList)
    (alone : delimiters.escape = some delimiters.closing → rest.head? ≠ some delimiters.closing)
    (opens : cursor.rest = delimiters.written text.toList ++ rest) :
    delimiters.Takes cursor text (delimiters.written text.toList) rest := by
  have read := readFrom_written expressible alone
  have first : cursor.rest =
      delimiters.opening :: ((delimiters.written text.toList).tail ++ rest) := opens
  have taken : cursor.rest.take (delimiters.written text.toList).length =
      delimiters.written text.toList := by
    rw [opens]
    exact List.take_left
  have step : delimiters.matcher cursor =
      cursor.take (delimiters.written text.toList).length (some text) := by
    simp only [matcher, first, if_true, read, String.ofList_toList]
  refine ⟨opens, ?_, ?_, ?_⟩
  · rw [step]
    simp only [Cursor.take, Cursor.spanOf, taken]
  · rw [step]
    show (cursor.forward (delimiters.written text.toList).length).passed = _
    rw [Cursor.forward_passed, taken]
  · rw [step]
    exact (cursor.forward_over opens).1

theorem takes_of_matched (matched : (delimiters.matcher cursor).outcome = .matched extract) :
    ∃ (text : String) (rest : List Char), extract.text = some text ∧
      delimiters.Expressible text.toList ∧
      (delimiters.escape = some delimiters.closing → rest.head? ≠ some delimiters.closing) ∧
      delimiters.Takes cursor text (delimiters.written text.toList) rest := by
  by_cases first : cursor.rest.head? = some delimiters.opening
  · obtain ⟨body, opens⟩ := List.head?_eq_some_iff.1 first
    cases found : delimiters.readFrom body [] 1 with
    | none =>
        simp only [matcher, opens, if_true, found] at matched
        cases matched
    | some result =>
        obtain ⟨inner, count⟩ := result
        obtain ⟨chars, rest, -, rfl, -, expressible, alone⟩ := readFrom_eq_some found
        obtain ⟨text, rfl⟩ : ∃ text : String, text.toList = chars := ⟨_, String.toList_ofList⟩
        have whole : cursor.rest = delimiters.written text.toList ++ rest := by
          rw [opens]
          simp [written]
        have takes := takes_written expressible alone whole
        have same := Outcome.matched.inj (matched.symm.trans takes.outcome)
        exact ⟨text, rest, congrArg Extract.text same, expressible, alone, takes⟩
  · rw [matcher_of_head_ne first] at matched
    cases matched

theorem take_moved_of_matched (matched : (delimiters.matcher cursor).outcome = .matched extract)
    (given : extract.text = some text) :
    cursor.rest.take (delimiters.matcher cursor).moved = delimiters.written text.toList := by
  obtain ⟨other, rest, same, -, -, takes⟩ := takes_of_matched matched
  obtain rfl : text = other := Option.some.inj (given.symm.trans same)
  have passed := takes.passed
  rw [Step.next, Cursor.forward_passed] at passed
  exact List.reverse_injective (List.append_cancel_right passed)

/-! ## An escape of its own -/

/-- Every run of escapes that ends the text or stands before a closing character has an even length. -/
def EvenRuns (escape closing : Char) (text : List Char) : Prop :=
  ∀ front count back, text = front ++ List.replicate count escape ++ back →
    front.getLast? ≠ some escape → (back = [] ∨ back.head? = some closing) → Even count

theorem expressible_iff_evenRuns (opening : Char) (own : escape ≠ closing) (text : List Char) :
    (⟨opening, closing, some escape⟩ : Delimiters).Expressible text ↔ EvenRuns escape closing text := by
  constructor
  · intro expressible front count back parts maximal stops
    have even := expressible.parity rfl own _ parts stops
    rwa [endRun_append_replicate maximal] at even
  · intro runs
    right
    intro before after parts stops
    obtain ⟨front, run, maximal⟩ := exists_eq_append_endRun escape before
    apply runs front _ after _ maximal stops
    rw [← run]
    exact parts

/-- With an escape of its own, a text is taken out of some region just if no run of escapes in it is odd where
the text ends or a closing character follows. Such a text is read from what is written for it, which is all that
any match with this text passes. -/
theorem escaped_regions_stand_for_texts (opening closing escape : Char) (own : escape ≠ closing) :
    let delimiters : Delimiters := ⟨opening, closing, some escape⟩
    (∀ text : String,
      (∃ cursor span, (delimiters.matcher cursor).outcome = .matched ⟨some text, span⟩) ↔
        EvenRuns escape closing text.toList) ∧
    (∀ (text : String) (cursor : Cursor) (rest : List Char), EvenRuns escape closing text.toList →
      cursor.rest = delimiters.written text.toList ++ rest →
        delimiters.Takes cursor text (delimiters.written text.toList) rest) ∧
    (∀ (cursor : Cursor) (extract : Extract), (delimiters.matcher cursor).outcome = .matched extract →
      ∃ (text : String) (rest : List Char), extract.text = some text ∧
        delimiters.Takes cursor text (delimiters.written text.toList) rest) ∧
    ∀ (first second : Cursor) (text : String) (span other : Span),
      (delimiters.matcher first).outcome = .matched ⟨some text, span⟩ →
      (delimiters.matcher second).outcome = .matched ⟨some text, other⟩ →
        first.rest.take (delimiters.matcher first).moved =
          second.rest.take (delimiters.matcher second).moved := by
  intro delimiters
  have alone (rest : List Char) : delimiters.escape = some delimiters.closing →
      rest.head? ≠ some delimiters.closing :=
    fun doubles => absurd (Option.some.inj doubles) own
  have takes (text : String) (cursor : Cursor) (rest : List Char)
      (runs : EvenRuns escape closing text.toList)
      (opens : cursor.rest = delimiters.written text.toList ++ rest) :
      delimiters.Takes cursor text (delimiters.written text.toList) rest :=
    takes_written ((expressible_iff_evenRuns opening own _).2 runs) (alone rest) opens
  refine ⟨?_, takes, ?_, ?_⟩
  · intro text
    constructor
    · rintro ⟨cursor, span, matched⟩
      obtain ⟨other, rest, same, expressible, -⟩ := takes_of_matched matched
      obtain rfl : text = other := Option.some.inj same
      exact (expressible_iff_evenRuns opening own _).1 expressible
    · intro runs
      exact ⟨_, _, (takes text (Cursor.ofList (delimiters.written text.toList)) [] runs
        (List.append_nil _).symm).outcome⟩
  · intro cursor extract matched
    obtain ⟨text, rest, same, -, -, takes⟩ := takes_of_matched matched
    exact ⟨text, rest, same, takes⟩
  · intro first second text span other matched again
    rw [take_moved_of_matched matched rfl, take_moved_of_matched again rfl]

/-- A closing character and two escapes at the end, in front of an escape and a closing character that are left.
No region stands for a single escape. -/
theorem escaped_regions_stand_for_runs :
    let delimiters : Delimiters := ⟨'«', '»', some '^'⟩
    let cursor := (Cursor.ofString "é«ç^»^^»^»").forward 1
    '^' ≠ '»' ∧ EvenRuns '^' '»' "ç»^^".toList ∧
      cursor.rest = delimiters.written "ç»^^".toList ++ "^»".toList ∧
      delimiters.Takes cursor "ç»^^" "«ç^»^^»".toList "^»".toList ∧
      ¬ ∃ other span, (delimiters.matcher other).outcome = .matched ⟨some "^", span⟩ := by
  intro delimiters cursor
  have own : '^' ≠ '»' := by decide
  have even : EvenRuns '^' '»' "ç»^^".toList :=
    (expressible_iff_evenRuns '«' own _).1 (by decide)
  have odd : ¬ EvenRuns '^' '»' "^".toList :=
    fun runs => absurd ((expressible_iff_evenRuns '«' own _).2 runs) (by decide)
  have opens : cursor.rest = delimiters.written "ç»^^".toList ++ "^»".toList := by decide
  obtain ⟨texts, takes, -, -⟩ := escaped_regions_stand_for_texts '«' '»' '^' own
  exact ⟨own, even, opens, takes _ cursor _ even opens, fun found => odd ((texts "^").1 found)⟩

/-! ## Doubling -/

def doubled (closing : Char) (text : List Char) : List Char :=
  text.flatMap fun char => if char = closing then [char, char] else [char]

theorem written_doubling (opening closing : Char) (text : List Char) :
    (⟨opening, closing, some closing⟩ : Delimiters).written text =
      opening :: doubled closing text ++ [closing] := by
  have same : (⟨opening, closing, some closing⟩ : Delimiters).guarded text = doubled closing text := by
    apply List.flatMap_congr
    intro char _
    by_cases closes : char = closing
    · subst closes
      simp
    · simp [closes]
  rw [written, same]

/-- With doubling, every text is read from its region, whatever characters it is made of, if no closing character
comes behind. A match has passed the region of its text, and no closing character comes behind it. -/
theorem doubled_regions_stand_for_texts (opening closing : Char) :
    let delimiters : Delimiters := ⟨opening, closing, some closing⟩
    (∀ (text : String) (cursor : Cursor) (rest : List Char),
      cursor.rest = opening :: doubled closing text.toList ++ closing :: rest →
      rest.head? ≠ some closing →
        delimiters.Takes cursor text (opening :: doubled closing text.toList ++ [closing]) rest) ∧
    ∀ (cursor : Cursor) (extract : Extract), (delimiters.matcher cursor).outcome = .matched extract →
      ∃ (text : String) (rest : List Char), extract.text = some text ∧ rest.head? ≠ some closing ∧
        delimiters.Takes cursor text (opening :: doubled closing text.toList ++ [closing]) rest := by
  intro delimiters
  constructor
  · intro text cursor rest opens alone
    have expressible : delimiters.Expressible text.toList := .inl rfl
    rw [← written_doubling]
    apply takes_written expressible (fun _ => alone)
    rw [written_doubling, opens]
    simp
  · intro cursor extract matched
    obtain ⟨text, rest, same, -, alone, takes⟩ := takes_of_matched matched
    rw [written_doubling] at takes
    exact ⟨text, rest, same, alone rfl, takes⟩

/-- A text that begins and ends with a mark which also opens the region. -/
theorem doubled_regions_stand_for_marks :
    let delimiters : Delimiters := ⟨'\'', '\'', some '\''⟩
    let cursor := (Cursor.ofString "é'''é'''x").forward 1
    cursor.rest = '\'' :: doubled '\'' "'é'".toList ++ '\'' :: ['x'] ∧ ['x'].head? ≠ some '\'' ∧
      delimiters.Takes cursor "'é'" "'''é'''".toList ['x'] := by
  intro delimiters cursor
  have opens : cursor.rest = '\'' :: doubled '\'' "'é'".toList ++ '\'' :: ['x'] := by decide
  have alone : ['x'].head? ≠ some '\'' := by decide
  exact ⟨opens, alone, (doubled_regions_stand_for_texts '\'' '\'').1 "'é'" cursor ['x'] opens alone⟩

end LexKit.Delimiters
