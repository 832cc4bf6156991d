import LexKit.Proofs.Delimiters.Writing

/-!
# What a region was written for

The other direction of writing regions: whatever the reader takes is the written form of the text that it
gives, so no two regions are read alike. Each step of the reader undoes one step of the writer. A closing
character that is kept was guarded, an escape before another character stands for itself, and so the text is
one that can be written.
-/

namespace LexKit.Delimiters

open Text

variable {delimiters : Delimiters} {char second : Char} {text body kept : List Char} {passed count : Nat}

/-! ## More in front of an expressible text -/

theorem Expressible.nil : delimiters.Expressible [] := by
  unfold Expressible
  cases delimiters.escape with
  | none => simp
  | some escape =>
      right
      intro before after parts _
      rw [(List.append_eq_nil_iff.1 parts.symm).1]
      exact Even.zero

/-- A character that does not escape the next one can be put in front, a closing one only if there is an
escape for it. -/
theorem Expressible.cons (left : delimiters.Expressible text)
    (escapable : char = delimiters.closing → delimiters.escape ≠ none)
    (other : char ≠ delimiters.closing → delimiters.escape ≠ some char) :
    delimiters.Expressible (char :: text) := by
  cases escapes : delimiters.escape with
  | none =>
      have outside : char ≠ delimiters.closing := fun closes => escapable closes escapes
      simp only [Expressible, escapes] at left ⊢
      simp [left, outside.symm]
  | some escape =>
      by_cases own : escape = delimiters.closing
      · simp [Expressible, escapes, own]
      · have different : char ≠ escape := by
          rintro rfl
          exact other own escapes
        have run : Even (endRun escape [char]) := by
          rw [← List.nil_append [char], endRun_append_of_ne different]
          exact Even.zero
        simp only [Expressible, escapes, own, false_or]
        intro before after parts stops
        cases before with
        | nil => exact Even.zero
        | cons first before =>
            obtain ⟨rfl, rest⟩ := List.cons_eq_cons.1 parts
            have even := left.parity escapes own before rest stops
            exact (even_endRun_append run before).2 even

theorem Expressible.cons_pair (left : delimiters.Expressible text)
    (escapes : delimiters.escape = some char) (inside : second ≠ delimiters.closing) :
    delimiters.Expressible (char :: second :: text) := by
  by_cases own : char = delimiters.closing
  · simp [Expressible, escapes, own]
  · have run : Even (endRun char [char, second]) := Settled.pair settled_nil escapes second char escapes
    simp only [Expressible, escapes, own, false_or]
    intro before after parts stops
    match before with
    | [] => exact Even.zero
    | [first] =>
        -- The cut between the two would have to end the text or to stand before a closing character.
        obtain ⟨rfl, rfl⟩ := List.cons_eq_cons.1 parts
        simp [inside] at stops
    | first :: next :: before =>
        simp only [List.cons_append, List.cons.injEq] at parts
        obtain ⟨rfl, rfl, rest⟩ := parts
        have even := left.parity escapes own before rest stops
        exact (even_endRun_append run before).2 even

/-! ## What was read -/

theorem readFrom_eq_some (found : delimiters.readFrom body kept passed = some (text, count)) :
    ∃ inner after, text = kept.reverse ++ inner ∧
      body = delimiters.guarded inner ++ delimiters.closing :: after ∧
      count = passed + (delimiters.guarded inner).length + 1 ∧ delimiters.Expressible inner ∧
      (delimiters.escape = some delimiters.closing → after.head? ≠ some delimiters.closing) := by
  fun_induction delimiters.readFrom body kept passed with
  | case1 => cases found
  | case2 kept passed escapes =>
      cases found
      exact ⟨[], [], by simp, rfl, rfl, .nil, fun _ => by simp⟩
  | case3 => cases found
  | case4 char kept passed escapes rest ih =>
      obtain ⟨inner, after, rfl, rfl, rfl, left, alone⟩ := ih found
      refine ⟨delimiters.closing :: inner, after, ?_, ?_, ?_, ?_, alone⟩
      · rw [List.reverse_cons, List.append_assoc, List.singleton_append]
      · simp [guarded_cons_closing, escapes]
      · simp only [guarded_cons_closing, escapes, Option.toList_some, List.length_append,
          List.length_cons, List.length_nil]
        omega
      · exact left.cons (fun _ => by simp [escapes]) fun own => absurd rfl own
  | case5 kept passed second rest other escapes =>
      cases found
      exact ⟨[], second :: rest, by simp, rfl, rfl, .nil, fun _ => by simpa using other⟩
  | case6 char kept passed escapes second rest other own ih =>
      obtain ⟨inner, after, rfl, rfl, rfl, left, alone⟩ := ih found
      refine ⟨char :: second :: inner, after, ?_, ?_, ?_, left.cons_pair escapes other, alone⟩
      · simp only [List.reverse_cons, List.append_assoc, List.cons_append,
          List.nil_append]
      · rw [guarded_cons_of_ne own, guarded_cons_of_ne other]
        rfl
      · rw [guarded_cons_of_ne own, guarded_cons_of_ne other, List.length_cons, List.length_cons]
        omega
  | case7 rest kept passed other =>
      cases found
      exact ⟨[], rest, by simp, rfl, rfl, .nil, fun doubles => absurd doubles other⟩
  | case8 char rest kept passed other inside ih =>
      obtain ⟨inner, after, rfl, rfl, rfl, left, alone⟩ := ih found
      refine ⟨char :: inner, after, ?_, ?_, ?_, ?_, alone⟩
      · rw [List.reverse_cons, List.append_assoc, List.singleton_append]
      · rw [guarded_cons_of_ne inside]
        rfl
      · rw [guarded_cons_of_ne inside, List.length_cons]
        omega
      · exact left.cons (fun closes => absurd closes inside) fun _ => other

/-- A region that is read is the one that is written for its text. -/
theorem written_of_readFrom (found : delimiters.readFrom body [] 1 = some (text, count)) :
    delimiters.Expressible text ∧
      (delimiters.opening :: body).take count = delimiters.written text := by
  obtain ⟨inner, after, same, rfl, rfl, expressible, -⟩ := readFrom_eq_some found
  rw [List.reverse_nil, List.nil_append] at same
  subst same
  have whole : delimiters.opening :: (delimiters.guarded text ++ delimiters.closing :: after) =
      delimiters.written text ++ after := by
    simp [written]
  have size : 1 + (delimiters.guarded text).length + 1 = (delimiters.written text).length := by
    rw [length_written]
    omega
  rw [whole, size, List.take_left]
  exact ⟨expressible, rfl⟩

/-! ## More text behind -/

/-- A region that is read stays the same with more text behind. Only a closing character that might go on as a
pair has to be settled by a character that is there already. -/
theorem readFrom_append (found : delimiters.readFrom body kept passed = some (text, count))
    (settled : delimiters.escape = some delimiters.closing → count < passed + body.length)
    (more : List Char) : delimiters.readFrom (body ++ more) kept passed = some (text, count) := by
  fun_induction delimiters.readFrom body kept passed with
  | case1 => cases found
  | case2 kept passed escapes =>
      -- The end of the text closed the region, so nothing settled its closing character.
      cases found
      have short := settled escapes
      simp only [List.length_cons, List.length_nil] at short
      omega
  | case3 => cases found
  | case4 char kept passed escapes rest ih =>
      have shorter (own : delimiters.escape = some delimiters.closing) :
          count < passed + 2 + rest.length := by
        have short := settled own
        simp only [List.length_cons] at short
        omega
      rw [List.cons_append, List.cons_append, readFrom_guard escapes]
      exact ih found shorter
  | case5 kept passed second rest other escapes =>
      rw [List.cons_append, readFrom_closing fun _ => by simpa using other]
      exact found
  | case6 char kept passed escapes second rest other own ih =>
      have shorter (own : delimiters.escape = some delimiters.closing) :
          count < passed + 2 + rest.length := by
        have short := settled own
        simp only [List.length_cons] at short
        omega
      rw [List.cons_append, List.cons_append, readFrom_pair escapes own other]
      exact ih found shorter
  | case7 rest kept passed other =>
      rw [List.cons_append, readFrom_closing fun doubles => absurd doubles other]
      exact found
  | case8 char rest kept passed other inside ih =>
      have shorter (own : delimiters.escape = some delimiters.closing) :
          count < passed + 1 + rest.length := by
        have short := settled own
        rw [List.length_cons] at short
        omega
      rw [List.cons_append, readFrom_plain other inside]
      exact ih found shorter

/-! ## Nothing escaped -/

def bare (delimiters : Delimiters) : Delimiters := { delimiters with escape := none }

/-- Where no closing character stands behind an escape, the escape plays no part. -/
theorem readFrom_eq_bare
    (unescaped : ∀ escape, delimiters.escape = some escape → ¬ [escape, delimiters.closing] <:+: body)
    (kept : List Char) (passed : Nat) :
    delimiters.readFrom body kept passed = delimiters.bare.readFrom body kept passed := by
  have noEscape (char : Char) : delimiters.bare.escape ≠ some char := fun same => nomatch same
  have closes (rest kept : List Char) (passed : Nat) :
      some (kept.reverse, passed + 1) = delimiters.bare.readFrom (delimiters.closing :: rest) kept passed :=
    (readFrom_closing (fun doubles => absurd doubles (noEscape _)) kept passed).symm
  -- What holds of a body holds of what is left of it.
  have left {front rest : List Char} {escape : Char}
      (absent : ¬ [escape, delimiters.closing] <:+: front ++ rest) :
      ¬ [escape, delimiters.closing] <:+: rest :=
    fun pair => absent (pair.trans (List.suffix_append front rest).isInfix)
  fun_induction delimiters.readFrom body kept passed with
  | case1 => rfl
  | case2 kept passed escapes => exact closes [] kept passed
  | case3 char kept passed escapes inside =>
      rw [readFrom_plain (noEscape char) inside]
      rfl
  | case4 char kept passed escapes rest =>
      have pair : [char, delimiters.closing] <:+: char :: delimiters.closing :: rest :=
        (List.prefix_append [char, delimiters.closing] rest).isInfix
      exact absurd pair (unescaped char escapes)
  | case5 kept passed second rest other escapes => exact closes (second :: rest) kept passed
  | case6 char kept passed escapes second rest other inside ih =>
      have rest_unescaped := ih fun escape same => @left [char, second] rest escape (unescaped escape same)
      rw [rest_unescaped, readFrom_plain (noEscape char) inside, readFrom_plain (noEscape second) other]
  | case7 rest kept passed other => exact closes rest kept passed
  | case8 char rest kept passed other inside ih =>
      have rest_unescaped := ih fun escape same => @left [char] rest escape (unescaped escape same)
      rw [rest_unescaped, readFrom_plain (noEscape char) inside]

end LexKit.Delimiters
