import LexKit.Delimiters
import LexKit.Proofs.Text.Runs

/-!
# Where a delimited region ends

Which character of a body closes the region is said by position and parity: without an escape the first
closing character; with an escape of its own the first that an even run of escapes precedes; with doubling
the last of the first run of closing characters whose length is odd. The reader decides the same with one
character of lookahead. While it is not in the middle of a pair, the run of escapes behind it is even and
nothing that it passed closes the region.
-/

namespace LexKit.Delimiters

open Text

/-- The character at an index of a body closes the region, unless one before it does. -/
def ClosesAt (delimiters : Delimiters) (body : List Char) (index : Nat) : Prop :=
  body[index]? = some delimiters.closing ∧
    match delimiters.escape with
    | none => True
    | some escape =>
        if escape = delimiters.closing then
          body[index + 1]? ≠ some delimiters.closing ∧
            Odd (endRun delimiters.closing (body.take (index + 1)))
        else Even (endRun escape (body.take index))

/-- The region ends with the character at an index of the body. -/
def EndsAt (delimiters : Delimiters) (body : List Char) (index : Nat) : Prop :=
  delimiters.ClosesAt body index ∧ ∀ earlier < index, ¬ delimiters.ClosesAt body earlier

instance (delimiters : Delimiters) (body : List Char) (index : Nat) :
    Decidable (delimiters.ClosesAt body index) :=
  match h : delimiters.escape with
  | none => decidable_of_iff (body[index]? = some delimiters.closing) (by simp [ClosesAt, h])
  | some escape =>
      decidable_of_iff
        (body[index]? = some delimiters.closing ∧
          if escape = delimiters.closing then
            body[index + 1]? ≠ some delimiters.closing ∧
              Odd (endRun delimiters.closing (body.take (index + 1)))
          else Even (endRun escape (body.take index)))
        (by simp [ClosesAt, h])

instance (delimiters : Delimiters) (body : List Char) (index : Nat) :
    Decidable (delimiters.EndsAt body index) :=
  inferInstanceAs (Decidable (_ ∧ _))

/-- The text that a part of a body stands for: escapes are dropped before closing characters, and runs of
doubled closing characters are halved. -/
def plainText (delimiters : Delimiters) (part : List Char) : List Char :=
  match delimiters.escape with
  | none => part
  | some escape =>
      if escape = delimiters.closing then halveRuns delimiters.closing part
      else dropBefore escape delimiters.closing part

/-- The text of a region that ends at an index of its body. With doubling, the run that closes the region
counts with its last character. -/
def content (delimiters : Delimiters) (body : List Char) (index : Nat) : List Char :=
  if delimiters.escape = some delimiters.closing then
    delimiters.plainText (body.take (index + 1))
  else delimiters.plainText (body.take index)

/-- Behind this part of a body no escape waits for the character that it acts on. -/
def Settled (delimiters : Delimiters) (part : List Char) : Prop :=
  ∀ escape, delimiters.escape = some escape → Even (endRun escape part)

variable {delimiters : Delimiters} {before rest : List Char} {char second : Char}

/-! ## What is settled stays settled -/

theorem settled_nil : delimiters.Settled [] := fun _ _ => by simp

theorem Settled.snoc (other : delimiters.escape ≠ some char) :
    delimiters.Settled (before ++ [char]) := by
  intro escape same
  have different : char ≠ escape := by
    rintro rfl
    exact other same
  simp [endRun_append_of_ne different]

theorem Settled.pair (settled : delimiters.Settled before) (escapes : delimiters.escape = some char)
    (second : Char) : delimiters.Settled (before ++ [char, second]) := by
  intro escape same
  obtain rfl : char = escape := Option.some.inj (escapes.symm.trans same)
  by_cases again : second = char
  · subst again
    exact even_endRun_pair (settled _ escapes)
  · rw [List.append_cons, endRun_append_of_ne again]
    exact Even.zero

/-! ## Which characters close -/

/-- Behind a settled part a closing character closes, except that with doubling it must stand alone. -/
theorem closesAt_length_iff (settled : delimiters.Settled before) :
    delimiters.ClosesAt (before ++ char :: rest) before.length ↔
      char = delimiters.closing ∧
        (delimiters.escape = some delimiters.closing → rest.head? ≠ some delimiters.closing) := by
  have here : (before ++ char :: rest)[before.length]? = some char := by simp
  have next : (before ++ char :: rest)[before.length + 1]? = rest.head? := by
    rw [List.getElem?_append_right (by omega)]
    simp [List.head?_eq_getElem?]
  simp only [ClosesAt, here, next, Option.some.injEq, List.take_left']
  refine and_congr_right fun closes => ?_
  subst closes
  cases escapes : delimiters.escape with
  | none => simp
  | some escape =>
      have even := settled escape escapes
      by_cases same : escape = delimiters.closing
      · subst same
        have upTo : (before ++ delimiters.closing :: rest).take (before.length + 1) =
            before ++ [delimiters.closing] := List.take_length_add_append 1
        simp [upTo, even.add_one]
      · simp [same, even]

theorem not_closesAt_pair (settled : delimiters.Settled before)
    (escapes : delimiters.escape = some char) :
    ¬ delimiters.ClosesAt (before ++ char :: second :: rest) (before.length + 1) := by
  have here : (before ++ char :: second :: rest)[before.length + 1]? = some second := by
    rw [List.getElem?_append_right (by omega)]
    simp
  have upTo : (before ++ char :: second :: rest).take (before.length + 1) = before ++ [char] :=
    List.take_length_add_append 1
  have past : (before ++ char :: second :: rest).take (before.length + 1 + 1) =
      before ++ [char, second] := List.take_length_add_append 2
  have even := settled char escapes
  simp only [ClosesAt, here, upTo, past, escapes, Option.some.injEq, endRun_append_self]
  rintro ⟨rfl, parity⟩
  split at parity
  · rename_i same
    rw [← same] at parity
    exact Nat.not_even_iff_odd.2 parity.2 (even_endRun_pair even)
  · exact Nat.not_even_iff_odd.2 even.add_one parity

/-! ## What passed characters stand for -/

@[simp] theorem plainText_nil : delimiters.plainText [] = [] := by
  unfold plainText
  cases delimiters.escape with
  | none => rfl
  | some escape => simp [dropBefore]

theorem plainText_snoc (inside : char ≠ delimiters.closing) :
    delimiters.plainText (before ++ [char]) = delimiters.plainText before ++ [char] := by
  unfold plainText
  cases escapes : delimiters.escape with
  | none => rfl
  | some escape =>
      by_cases same : escape = delimiters.closing
      · simp only [if_pos same, halveRuns_append_of_ne inside]
      · simp only [if_neg same]
        rw [dropBefore_append before (by simpa using inside)]
        simp [dropBefore]

theorem plainText_pair_closing (settled : delimiters.Settled before)
    (escapes : delimiters.escape = some char) :
    delimiters.plainText (before ++ [char, delimiters.closing]) =
      delimiters.plainText before ++ [delimiters.closing] := by
  simp only [plainText, escapes]
  by_cases same : char = delimiters.closing
  · subst same
    simp only [if_true, halveRuns_append_pair (settled _ escapes)]
  · simp only [if_neg same]
    rw [dropBefore_append before (by simpa using same)]
    simp [dropBefore]

/-- The text of a region that ends behind a settled part. -/
theorem content_length (settled : delimiters.Settled before) :
    delimiters.content (before ++ delimiters.closing :: rest) before.length =
      delimiters.plainText before := by
  unfold content
  split
  · rename_i doubles
    have upTo : (before ++ delimiters.closing :: rest).take (before.length + 1) =
        before ++ [delimiters.closing] := List.take_length_add_append 1
    simp [upTo, plainText, doubles, halveRuns_append_self (settled _ doubles)]
  · simp

/-! ## The reader finds the end -/

theorem EndsAt.unique {body : List Char} {first second : Nat} (ends : delimiters.EndsAt body first)
    (other : delimiters.EndsAt body second) : first = second := by
  rcases Nat.lt_trichotomy first second with less | same | greater
  · exact absurd ends.1 (other.2 first less)
  · exact same
  · exact absurd other.1 (ends.2 second greater)

/-- Nothing in a part of a text closes the region. -/
def OpenThrough (delimiters : Delimiters) (before rest : List Char) : Prop :=
  ∀ index < before.length, ¬ delimiters.ClosesAt (before ++ rest) index

theorem OpenThrough.snoc (inside : delimiters.OpenThrough before (char :: rest))
    (settled : delimiters.Settled before) (other : char ≠ delimiters.closing) :
    delimiters.OpenThrough (before ++ [char]) rest := by
  intro index within
  rw [← List.append_cons]
  rw [List.length_append, List.length_singleton] at within
  rcases Nat.lt_succ_iff_lt_or_eq.1 within with less | rfl
  · exact inside index less
  · exact fun closes => other ((closesAt_length_iff settled).1 closes).1

theorem OpenThrough.pair (inside : delimiters.OpenThrough before (char :: second :: rest))
    (settled : delimiters.Settled before) (escapes : delimiters.escape = some char)
    (together : char = delimiters.closing → second = delimiters.closing) :
    delimiters.OpenThrough (before ++ [char, second]) rest := by
  intro index within
  have same : before ++ [char, second] ++ rest = before ++ char :: second :: rest := by simp
  rw [same]
  rw [List.length_append] at within
  rcases Nat.lt_succ_iff_lt_or_eq.1 within with less | rfl
  · rcases Nat.lt_succ_iff_lt_or_eq.1 less with less | rfl
    · exact inside index less
    · intro closes
      obtain ⟨rfl, alone⟩ := (closesAt_length_iff settled).1 closes
      exact alone escapes (by simp [together rfl])
  · exact not_closesAt_pair settled escapes

theorem OpenThrough.whole (inside : delimiters.OpenThrough before []) (index : Nat) :
    ¬ delimiters.ClosesAt before index := by
  intro closes
  have within : index < before.length := (List.getElem?_eq_some_iff.1 closes.1).1
  exact inside index within (by simpa using closes)

theorem endsAt_length (inside : delimiters.OpenThrough before (delimiters.closing :: rest))
    (settled : delimiters.Settled before)
    (alone : delimiters.escape = some delimiters.closing → rest.head? ≠ some delimiters.closing) :
    delimiters.EndsAt (before ++ delimiters.closing :: rest) before.length :=
  ⟨(closesAt_length_iff settled).2 ⟨rfl, alone⟩, inside⟩

/-- What reading on comes to, behind a part of a body that has been passed. -/
def Reads (delimiters : Delimiters) (before rest : List Char) (passed : Nat) :
    Option (List Char × Nat) → Prop
  | some (text, count) => ∃ index, delimiters.EndsAt (before ++ rest) index ∧
      text = delimiters.content (before ++ rest) index ∧ count + before.length = passed + index + 1
  | none => ∀ index, ¬ delimiters.ClosesAt (before ++ rest) index

/-- What is read behind more of the body is read behind less of it. -/
theorem Reads.behind {result : Option (List Char × Nat)} (taken : List Char) {passed : Nat}
    (reads : delimiters.Reads (before ++ taken) rest (passed + taken.length) result) :
    delimiters.Reads before (taken ++ rest) passed result := by
  cases result with
  | none => simpa [Reads] using reads
  | some found =>
      obtain ⟨index, ends, text, count⟩ := reads
      rw [List.append_assoc] at ends text
      rw [List.length_append] at count
      exact ⟨index, ends, text, by omega⟩

theorem reads_here (inside : delimiters.OpenThrough before (delimiters.closing :: rest))
    (settled : delimiters.Settled before)
    (alone : delimiters.escape = some delimiters.closing → rest.head? ≠ some delimiters.closing)
    (passed : Nat) :
    delimiters.Reads before (delimiters.closing :: rest) passed
      (some (delimiters.plainText before, passed + 1)) :=
  ⟨before.length, endsAt_length inside settled alone, (content_length settled).symm, by omega⟩

/-- Behind a settled part that the region does not end in, the reader goes on to the end of the region and
keeps its text, or says that there is no end. -/
theorem readFrom_reads (rest kept : List Char) (passed : Nat) (before : List Char)
    (settled : delimiters.Settled before) (keeps : kept.reverse = delimiters.plainText before)
    (inside : delimiters.OpenThrough before rest) :
    delimiters.Reads before rest passed (delimiters.readFrom rest kept passed) := by
  fun_induction delimiters.readFrom rest kept passed generalizing before with
  | case1 kept passed => simpa [Reads] using inside.whole
  | case2 kept passed escapes =>
      -- doubling, and the input ends behind a single closing character
      rw [keeps]
      exact reads_here inside settled (by simp) passed
  | case3 char kept passed escapes own =>
      simpa [Reads] using (inside.snoc settled own).whole
  | case4 char kept passed escapes rest ih =>
      have next := ih (before ++ [char, delimiters.closing]) (settled.pair escapes _)
        (by rw [plainText_pair_closing settled escapes, List.reverse_cons, keeps])
        (inside.pair settled escapes fun _ => rfl)
      exact next.behind [char, delimiters.closing]
  | case5 kept passed second rest other escapes =>
      rw [keeps]
      exact reads_here inside settled (fun _ => by simpa using other) passed
  | case6 char kept passed escapes second rest other own ih =>
      have next := ih (before ++ [char, second]) (settled.pair escapes _)
        (by rw [List.append_cons, plainText_snoc other, plainText_snoc own]; simp [keeps])
        (inside.pair settled escapes fun same => absurd same own)
      exact next.behind [char, second]
  | case7 rest kept passed other =>
      rw [keeps]
      exact reads_here inside settled (fun escapes => absurd escapes other) passed
  | case8 char rest kept passed other inner ih =>
      have next := ih (before ++ [char]) (Settled.snoc other)
        (by rw [plainText_snoc inner, List.reverse_cons, keeps]) (inside.snoc settled inner)
      exact next.behind [char]

theorem region_reads (delimiters : Delimiters) (body : List Char) :
    delimiters.Reads [] body 1 (delimiters.readFrom body [] 1) :=
  readFrom_reads body [] 1 [] settled_nil plainText_nil.symm fun _ within => absurd within (by simp)

/-! ## The matcher -/

theorem matcher_of_head_ne {cursor : Cursor} (other : cursor.rest.head? ≠ some delimiters.opening) :
    delimiters.matcher cursor = .still .noMatch := by
  unfold matcher
  cases rest : cursor.rest with
  | nil => rfl
  | cons char body =>
      have different : char ≠ delimiters.opening := by
        rintro rfl
        exact other (by simp [rest])
      simp [different]

theorem matcher_of_endsAt {cursor : Cursor} {body : List Char} {index : Nat}
    (opens : cursor.rest = delimiters.opening :: body) (ends : delimiters.EndsAt body index) :
    delimiters.matcher cursor =
      cursor.take (index + 2) (some (String.ofList (delimiters.content body index))) := by
  have reads := delimiters.region_reads body
  simp only [matcher, opens, if_true]
  cases found : delimiters.readFrom body [] 1 with
  | none =>
      rw [found] at reads
      exact absurd ends.1 (reads index)
  | some region =>
      obtain ⟨text, count⟩ := region
      rw [found] at reads
      obtain ⟨last, lastEnds, rfl, length⟩ := reads
      obtain rfl : index = last := ends.unique lastEnds
      simp only [List.length_nil] at length
      obtain rfl : count = index + 2 := by omega
      rfl

theorem matcher_of_not_endsAt {cursor : Cursor} {body : List Char}
    (opens : cursor.rest = delimiters.opening :: body) (never : ∀ index, ¬ delimiters.EndsAt body index) :
    delimiters.matcher cursor = .still (.failed (.unterminatedDelimiter cursor.position)) := by
  have reads := delimiters.region_reads body
  simp only [matcher, opens, if_true]
  cases found : delimiters.readFrom body [] 1 with
  | none => rfl
  | some region =>
      obtain ⟨text, count⟩ := region
      rw [found] at reads
      obtain ⟨last, ends, -⟩ := reads
      exact absurd ends (never last)

/-- The matcher takes regions and nothing else: from the opening character through the one that ends the
region, with the region's text, if there is such a character; otherwise it fails where it stands, and it
does not apply where no region opens. -/
theorem matcher_takes_exactly_regions (delimiters : Delimiters) (cursor : Cursor) :
    (cursor.rest.head? ≠ some delimiters.opening →
      (delimiters.matcher cursor).outcome = .noMatch ∧
        (delimiters.matcher cursor).next cursor = cursor) ∧
    ∀ body, cursor.rest = delimiters.opening :: body →
      (∀ index, delimiters.EndsAt body index →
        let region := delimiters.opening :: body.take (index + 1)
        let stop := cursor.position + byteLength region
        (delimiters.matcher cursor).outcome =
            .matched ⟨some (String.ofList (delimiters.content body index)), ⟨cursor.position, stop⟩⟩ ∧
          ((delimiters.matcher cursor).next cursor).position = stop ∧
          ((delimiters.matcher cursor).next cursor).passed = region.reverse ++ cursor.passed ∧
          ((delimiters.matcher cursor).next cursor).rest = body.drop (index + 1)) ∧
      ((∀ index, ¬ delimiters.EndsAt body index) →
        (delimiters.matcher cursor).outcome = .failed (.unterminatedDelimiter cursor.position) ∧
          (delimiters.matcher cursor).next cursor = cursor) := by
  refine ⟨fun other => ?_, fun body opens => ⟨fun index ends => ?_, fun never => ?_⟩⟩
  · rw [matcher_of_head_ne other]
    exact ⟨rfl, rfl⟩
  · have region : cursor.rest.take (index + 2) = delimiters.opening :: body.take (index + 1) := by
      rw [opens, List.take_succ_cons]
    rw [matcher_of_endsAt opens ends]
    refine ⟨?_, ?_, ?_, ?_⟩
    · simp only [Cursor.take, Cursor.spanOf, region]
    · simp only [Step.next, Cursor.take, Cursor.forward_position, region]
    · simp only [Step.next, Cursor.take, Cursor.forward_passed, region]
    · simp only [Step.next, Cursor.take, Cursor.forward_rest, opens, List.drop_succ_cons]
  · rw [matcher_of_not_endsAt opens never]
    exact ⟨rfl, rfl⟩

/-- Pairs before the end and a run of three at the end, behind two characters that were passed before. -/
theorem matcher_takes_doubled_region :
    let delimiters := quotes '\'' (some '\'')
    let cursor := (Cursor.ofString "é 'it''s''' x").forward 2
    cursor.rest = '\'' :: "it''s''' x".toList ∧ delimiters.EndsAt "it''s''' x".toList 7 ∧
      (delimiters.matcher cursor).outcome = .matched ⟨some "it's'", ⟨3, 12⟩⟩ ∧
      ((delimiters.matcher cursor).next cursor).rest = " x".toList := by
  intro delimiters cursor
  have opens : cursor.rest = '\'' :: "it''s''' x".toList := by decide
  have ends : delimiters.EndsAt "it''s''' x".toList 7 := by decide
  obtain ⟨outcome, -, -, rest⟩ :=
    ((matcher_takes_exactly_regions delimiters cursor).2 _ opens).1 7 ends
  exact ⟨opens, ends, outcome.trans (by decide), rest.trans (by decide)⟩

end LexKit.Delimiters
