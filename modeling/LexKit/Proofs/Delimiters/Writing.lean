import LexKit.Proofs.Delimiters.Closing

/-!
# Writing regions

A text is written as a region by putting an escape before each of its closing characters. With doubling
every text can be written so. With an escape of its own a text can be written if no escape in it would act
on the closing character behind it, so every run of escapes before a closing character or at the end of the
text has to be even. Reading what was written gives the text back.
-/

namespace LexKit.Delimiters

open Text

def guarded (delimiters : Delimiters) (text : List Char) : List Char :=
  text.flatMap fun char =>
    if char = delimiters.closing then delimiters.escape.toList ++ [char] else [char]

def written (delimiters : Delimiters) (text : List Char) : List Char :=
  delimiters.opening :: delimiters.guarded text ++ [delimiters.closing]

def Expressible (delimiters : Delimiters) (text : List Char) : Prop :=
  match delimiters.escape with
  | none => delimiters.closing ∉ text
  | some escape =>
      escape = delimiters.closing ∨
        ∀ before after, text = before ++ after →
          (after = [] ∨ after.head? = some delimiters.closing) → Even (endRun escape before)

theorem forall_append_iff {text : List Char} {property : List Char → List Char → Prop} :
    (∀ before after, text = before ++ after → property before after) ↔
      ∀ index ≤ text.length, property (text.take index) (text.drop index) := by
  constructor
  · intro all index _
    exact all _ _ (List.take_append_drop index text).symm
  · intro all before after parts
    subst parts
    have here := all before.length (by simp)
    rwa [List.take_left, List.drop_left] at here

instance (delimiters : Delimiters) (text : List Char) : Decidable (delimiters.Expressible text) :=
  match h : delimiters.escape with
  | none => decidable_of_iff (delimiters.closing ∉ text) (by simp [Expressible, h])
  | some escape =>
      decidable_of_iff
        (escape = delimiters.closing ∨
          ∀ index ≤ text.length,
            (text.drop index = [] ∨ (text.drop index).head? = some delimiters.closing) →
              Even (endRun escape (text.take index)))
        (by simp only [Expressible, h, forall_append_iff])

variable {delimiters : Delimiters} {escape char second : Char} {text rest kept : List Char}

@[simp] theorem guarded_nil : delimiters.guarded [] = [] := rfl

theorem guarded_cons_of_ne (inside : char ≠ delimiters.closing) (text : List Char) :
    delimiters.guarded (char :: text) = char :: delimiters.guarded text := by
  simp [guarded, inside]

theorem guarded_cons_closing (text : List Char) :
    delimiters.guarded (delimiters.closing :: text) =
      delimiters.escape.toList ++ delimiters.closing :: delimiters.guarded text := by
  simp [guarded]

/-! ## What is left of an expressible text -/

theorem Expressible.parity (expressible : delimiters.Expressible text)
    (escapes : delimiters.escape = some escape) (own : escape ≠ delimiters.closing)
    (before : List Char) {after : List Char} (parts : text = before ++ after)
    (stops : after = [] ∨ after.head? = some delimiters.closing) : Even (endRun escape before) := by
  simp only [Expressible, escapes, own, false_or] at expressible
  exact expressible before after parts stops

/-- Behind an even run of escapes what is left of an expressible text is expressible. -/
theorem Expressible.of_append (front : List Char) {back : List Char}
    (expressible : delimiters.Expressible (front ++ back))
    (even : ∀ escape, delimiters.escape = some escape → escape ≠ delimiters.closing →
      Even (endRun escape front)) : delimiters.Expressible back := by
  unfold Expressible
  cases escapes : delimiters.escape with
  | none =>
      simp only [Expressible, escapes] at expressible
      exact fun member => expressible (List.mem_append_right front member)
  | some escape =>
      by_cases own : escape = delimiters.closing
      · exact .inl own
      · refine .inr fun before after parts stops => ?_
        have whole : front ++ back = (front ++ before) ++ after := by rw [parts, List.append_assoc]
        exact (even_endRun_append (even escape escapes own) before).1
          (expressible.parity escapes own _ whole stops)

theorem Expressible.tail (expressible : delimiters.Expressible (char :: text))
    (other : delimiters.escape ≠ some char ∨ char = delimiters.closing) :
    delimiters.Expressible text := by
  refine Expressible.of_append [char] expressible fun escape escapes own => ?_
  have different : char ≠ escape := by
    rintro rfl
    rcases other with other | closes
    · exact other escapes
    · exact own closes
  rw [← List.nil_append [char], endRun_append_of_ne different]
  exact Even.zero

theorem Expressible.tail_pair (expressible : delimiters.Expressible (char :: second :: text))
    (escapes : delimiters.escape = some char) : delimiters.Expressible text := by
  refine Expressible.of_append [char, second] expressible fun escape same _ => ?_
  obtain rfl : char = escape := Option.some.inj (escapes.symm.trans same)
  exact Settled.pair settled_nil escapes second char escapes

/-- An escape of its own neither ends an expressible text nor stands before a closing character after an
even run. -/
theorem Expressible.escaped (expressible : delimiters.Expressible (char :: text))
    (escapes : delimiters.escape = some char) (own : char ≠ delimiters.closing) :
    text ≠ [] ∧ text.head? ≠ some delimiters.closing := by
  have odd : ¬ Even (endRun char [char]) := by
    rw [← List.nil_append [char], endRun_append_self, endRun_nil]
    decide
  constructor
  · intro nothing
    exact odd (expressible.parity escapes own [char] rfl (.inl nothing))
  · intro closes
    exact odd (expressible.parity escapes own [char] rfl (.inr closes))

/-! ## Reading what was written -/

theorem readFrom_closing (alone : delimiters.escape = some delimiters.closing →
      rest.head? ≠ some delimiters.closing) (kept : List Char) (passed : Nat) :
    delimiters.readFrom (delimiters.closing :: rest) kept passed = some (kept.reverse, passed + 1) := by
  by_cases doubles : delimiters.escape = some delimiters.closing
  · cases rest with
    | nil => simp [readFrom, doubles]
    | cons second rest =>
        have other : second ≠ delimiters.closing := by simpa using alone doubles
        simp [readFrom, doubles, other]
  · unfold readFrom
    simp [doubles]

theorem readFrom_guard (escapes : delimiters.escape = some char) (rest kept : List Char)
    (passed : Nat) :
    delimiters.readFrom (char :: delimiters.closing :: rest) kept passed =
      delimiters.readFrom rest (delimiters.closing :: kept) (passed + 2) := by
  simp [readFrom, escapes]

theorem readFrom_plain (other : delimiters.escape ≠ some char) (inside : char ≠ delimiters.closing)
    (rest kept : List Char) (passed : Nat) :
    delimiters.readFrom (char :: rest) kept passed =
      delimiters.readFrom rest (char :: kept) (passed + 1) := by
  rw [readFrom.eq_def]
  simp [other, inside]

theorem readFrom_pair (escapes : delimiters.escape = some char) (own : char ≠ delimiters.closing)
    (inside : second ≠ delimiters.closing) (rest kept : List Char) (passed : Nat) :
    delimiters.readFrom (char :: second :: rest) kept passed =
      delimiters.readFrom rest (second :: char :: kept) (passed + 2) := by
  simp [readFrom, escapes, own, inside]

theorem readFrom_guarded (expressible : delimiters.Expressible text)
    (alone : delimiters.escape = some delimiters.closing → rest.head? ≠ some delimiters.closing)
    (kept : List Char) (passed : Nat) :
    delimiters.readFrom (delimiters.guarded text ++ delimiters.closing :: rest) kept passed =
      some (kept.reverse ++ text, passed + (delimiters.guarded text).length + 1) := by
  -- An escape before another character takes that character with it, so the step is not always one.
  induction size : text.length using Nat.strongRecOn generalizing text kept passed with
  | _ length ih =>
      subst size
      cases text with
      | nil =>
          rw [guarded_nil, List.nil_append, readFrom_closing alone]
          simp
      | cons char text =>
          by_cases closes : char = delimiters.closing
          · subst closes
            have left : delimiters.Expressible text := expressible.tail (.inr rfl)
            cases escapes : delimiters.escape with
            | none => simp [Expressible, escapes] at expressible
            | some escape =>
                rw [guarded_cons_closing, escapes, Option.toList_some, List.cons_append,
                  List.nil_append, List.cons_append, List.cons_append, readFrom_guard escapes,
                  ih text.length (Nat.lt_succ_self _) left _ _ rfl]
                simp only [List.reverse_cons, List.append_assoc, List.singleton_append,
                  List.length_cons, Option.some.injEq, Prod.mk.injEq, true_and]
                omega
          · rw [guarded_cons_of_ne closes, List.cons_append]
            by_cases escapes : delimiters.escape = some char
            · obtain ⟨more, inside⟩ := expressible.escaped escapes closes
              cases text with
              | nil => exact absurd rfl more
              | cons second text =>
                  have other : second ≠ delimiters.closing := by simpa using inside
                  have shorter : text.length < (char :: second :: text).length := by
                    simp only [List.length_cons]
                    omega
                  rw [guarded_cons_of_ne other, List.cons_append,
                    readFrom_pair escapes closes other,
                    ih text.length shorter (expressible.tail_pair escapes) _ _ rfl]
                  simp only [List.reverse_cons, List.append_assoc, List.cons_append,
                    List.nil_append, List.length_cons, Option.some.injEq, Prod.mk.injEq, true_and]
                  omega
            · rw [readFrom_plain escapes closes,
                ih text.length (Nat.lt_succ_self _) (expressible.tail (.inl escapes)) _ _ rfl]
              simp only [List.reverse_cons, List.append_assoc, List.singleton_append,
                List.length_cons, Option.some.injEq, Prod.mk.injEq, true_and]
              omega

theorem length_written (text : List Char) :
    (delimiters.written text).length = (delimiters.guarded text).length + 2 := by
  simp [written]

theorem readFrom_written (expressible : delimiters.Expressible text)
    (alone : delimiters.escape = some delimiters.closing → rest.head? ≠ some delimiters.closing) :
    delimiters.readFrom ((delimiters.written text).tail ++ rest) [] 1 =
      some (text, (delimiters.written text).length) := by
  have body : (delimiters.written text).tail ++ rest =
      delimiters.guarded text ++ delimiters.closing :: rest := by
    simp [written]
  rw [body, readFrom_guarded expressible alone, length_written, List.reverse_nil, List.nil_append]
  congr 2
  omega

end LexKit.Delimiters
