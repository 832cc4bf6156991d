import LexKit.Proofs.Text.SelfDelimiting
import LexKit.Text.Quoted

/-!
# Reading quoted text back

Each character of a quoted text is written in one of three ways, and the first characters show which: a short form
is a backslash and a letter that is not `u`, a number stands between `u` and braces, and what stands for itself is
no backslash. So the inside of a quoted text can be read back whatever characters are said to stand for
themselves, and neither the quote that ends it nor the end of a line comes up in it as itself.
-/

namespace LexKit.Text

/-! ## Numbers -/

theorem digitChar_inj {first second : Nat} (small : first < 16) (small' : second < 16)
    (same : first.digitChar = second.digitChar) : first = second := by
  have distinct : ∀ first < 16, ∀ second < 16, first.digitChar = second.digitChar → first = second := by
    decide
  exact distinct first small second small' same

section Digits

variable {base : Nat} (low : 1 < base) (high : base ≤ 16)
include low

theorem toDigits_eq (value : Nat) :
    Nat.toDigits base value =
      (if value < base then [] else Nat.toDigits base (value / base)) ++ [(value % base).digitChar] := by
  rw [Nat.toDigits_eq_if low]
  split
  · rename_i small
    rw [Nat.mod_eq_of_lt small, List.nil_append]
  · rfl

theorem not_mem_toDigits {char : Char} (other : ∀ digit < base, char ≠ digit.digitChar) (value : Nat) :
    char ∉ Nat.toDigits base value := by
  induction value using Nat.strongRecOn with
  | _ value ih =>
      rw [toDigits_eq low, List.mem_append, List.mem_singleton, not_or]
      refine ⟨?_, other _ (Nat.mod_lt _ (by omega))⟩
      split
      · exact List.not_mem_nil
      · exact ih (value / base) (Nat.div_lt_self (by omega) low)

include high

theorem toDigits_injective : Function.Injective (Nat.toDigits base) := by
  intro first second same
  induction first using Nat.strongRecOn generalizing second with
  | _ first ih =>
      rw [toDigits_eq low first, toDigits_eq low second] at same
      obtain ⟨before, last⟩ := List.append_inj' same rfl
      have below (value : Nat) : value % base < 16 := Nat.lt_of_lt_of_le (Nat.mod_lt value (by omega)) high
      have units : first % base = second % base :=
        digitChar_inj (below first) (below second) (List.singleton_inj.1 last)
      split at before <;> split at before
      · rename_i small small'
        rwa [Nat.mod_eq_of_lt small, Nat.mod_eq_of_lt small'] at units
      · exact absurd before.symm Nat.toDigits_ne_nil
      · exact absurd before Nat.toDigits_ne_nil
      · have front : first / base = second / base :=
          ih (first / base) (Nat.div_lt_self (by omega) low) before
        rw [← Nat.div_add_mod first base, ← Nat.div_add_mod second base, front, units]

theorem selfDelimiting_toDigits {stop : Char} (other : ∀ digit < base, stop ≠ digit.digitChar) :
    SelfDelimiting fun value => Nat.toDigits base value ++ [stop] :=
  .of_stop (toDigits_injective low high) (not_mem_toDigits low other)

end Digits

/-! ## Characters between quotes -/

/-- The characters with a short form, and the letters that stand for them behind a backslash. -/
def shortForms : List (Char × Char) :=
  [('\x00', '0'), ('\t', 't'), ('\r', 'r'), ('\n', 'n'), ('"', '"'), ('\\', '\\')]

/-- The ways in which a character can be written between quotes. -/
inductive WrittenAs (char : Char) : List Char → Prop where
  | short {letter : Char} : (char, letter) ∈ shortForms → WrittenAs char ['\\', letter]
  | plain : (∀ form ∈ shortForms, char ≠ form.1) → WrittenAs char [char]
  | number : WrittenAs char ('\\' :: 'u' :: '\x7b' :: hexDigits char.toNat ++ ['\x7d'])

theorem quoteChar_writtenAs (char : Char) : WrittenAs char (quoteChar char) := by
  unfold quoteChar
  split
  case h_7 null tab carriageReturn newline quote backslash =>
      split
      · apply WrittenAs.plain
        intro form member
        simp only [shortForms, List.mem_cons, List.not_mem_nil, or_false] at member
        rcases member with rfl | rfl | rfl | rfl | rfl | rfl
        all_goals assumption
      · exact .number
  all_goals exact .short (by decide)

theorem shortForms_inj {first second letter : Char} (form : (first, letter) ∈ shortForms)
    (form' : (second, letter) ∈ shortForms) : first = second := by
  have distinct : ∀ form ∈ shortForms, ∀ form' ∈ shortForms, form.2 = form'.2 → form.1 = form'.1 := by
    decide
  exact distinct _ form _ form' rfl

theorem not_mem_shortForms (char : Char) : (char, 'u') ∉ shortForms := by
  have other : ∀ form ∈ shortForms, form.2 ≠ 'u' := by decide
  intro form
  exact other _ form rfl

/-- What was written shows the character, whichever way it was written. -/
theorem WrittenAs.append_inj {first second : Char} {text text' rest rest' : List Char}
    (written : WrittenAs first text) (written' : WrittenAs second text')
    (same : text ++ rest = text' ++ rest') : first = second ∧ rest = rest' := by
  have backslash : ('\\', '\\') ∈ shortForms := by decide
  cases written <;> cases written' <;>
    simp only [List.cons_append, List.nil_append, List.cons.injEq, true_and] at same
  case short.short letter form letter' form' =>
      obtain ⟨rfl, behind⟩ := same
      exact ⟨shortForms_inj form form', behind⟩
  case plain.plain => exact same
  case number.number =>
      have low : 1 < 16 := by decide
      have digits : first.toNat = second.toNat ∧ rest = rest' :=
        selfDelimiting_toDigits low (Nat.le_refl 16) (by decide) _ _ _ _ same
      exact ⟨Char.toNat_inj.1 digits.1, digits.2⟩
  case short.number letter form =>
      obtain ⟨rfl, -⟩ := same
      exact absurd form (not_mem_shortForms first)
  case number.short letter form =>
      obtain ⟨rfl, -⟩ := same
      exact absurd form (not_mem_shortForms second)
  case plain.short other letter form | plain.number other =>
      exact absurd same.1 (other _ backslash)
  case short.plain letter form other | number.plain other =>
      exact absurd same.1.symm (other _ backslash)

theorem WrittenAs.begins {char : Char} {text : List Char} (written : WrittenAs char text) :
    ∃ first tail, text = first :: tail ∧ first ≠ '"' := by
  cases written with
  | short => exact ⟨_, _, rfl, by decide⟩
  | plain other => exact ⟨_, _, rfl, other ('"', '"') (by decide)⟩
  | number => exact ⟨_, _, rfl, by decide⟩

theorem WrittenAs.newline_not_mem {char : Char} {text : List Char} (written : WrittenAs char text) :
    '\n' ∉ text := by
  cases written with
  | short form =>
      have other : ∀ form ∈ shortForms, '\n' ∉ ['\\', form.2] := by decide
      exact other _ form
  | plain other =>
      intro member
      exact other ('\n', 'n') (by decide) (List.mem_singleton.1 member).symm
  | number =>
      have low : 1 < 16 := by decide
      have digits : '\n' ∉ hexDigits char.toNat := not_mem_toDigits low (by decide) char.toNat
      simp [digits]

/-! ## Quoted texts -/

theorem toList_quoted (text : String) : (quoted text).toList = '"' :: (text.toList.flatMap quoteChar ++ ['"']) := by
  rw [quoted, String.toList_ofList]
  rfl

/-- A text between quotes shows where it ends, and which text it is. -/
theorem selfDelimiting_quoted : SelfDelimiting fun text => (quoted text).toList := by
  intro first second rest rest' same
  have delimits : SelfDelimiting quoteChar := fun first second _ _ same =>
    (quoteChar_writtenAs first).append_inj (quoteChar_writtenAs second) same
  have ends (rest : List Char) : EndsBefore quoteChar ('"' :: rest) :=
    endsBefore_cons (fun char => (quoteChar_writtenAs char).begins) rest
  simp only [toList_quoted, List.cons_append, List.append_assoc, List.nil_append] at same
  obtain ⟨text, behind⟩ := delimits.flatMap_append_inj (ends rest) (ends rest') (List.cons.inj same).2
  exact ⟨String.toList_inj.1 text, (List.cons.inj behind).2⟩

example : quoted "\n\\n\x7f\\u\x7b7f\x7d" = "\"\\n\\\\n\\u\x7b7f\x7d\\\\u\x7b7f\x7d\"" := by decide +kernel

theorem newline_not_mem_quoted (text : String) : '\n' ∉ (quoted text).toList := by
  rw [toList_quoted]
  simp only [List.mem_cons, List.mem_append, List.mem_flatMap, List.not_mem_nil, or_false, not_or]
  refine ⟨by decide, ?_, by decide⟩
  rintro ⟨char, -, member⟩
  exact (quoteChar_writtenAs char).newline_not_mem member

end LexKit.Text
