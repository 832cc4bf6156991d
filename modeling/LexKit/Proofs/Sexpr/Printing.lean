import LexKit.Proofs.Text.Quoted
import LexKit.Sexpr.Token

/-!
# Lines that show tokens

The lines that show a list of tokens can be read back. In a line each field ends at a character that does not come
up in it, and the text is between quotes, so that no line is the beginning of another one and a list is shown in
one line for each of its tokens.
-/

namespace LexKit.Sexpr

open Text

namespace Kind

theorem name_injective : Function.Injective Kind.name := by
  intro first second same
  cases first <;> cases second <;> simp [name] at same ⊢

theorem separators_not_mem_name (kind : Kind) : ' ' ∉ kind.name.toList ∧ '\n' ∉ kind.name.toList := by
  cases kind <;> decide +kernel

/-- A name, up to the blank behind it. -/
theorem selfDelimiting_name : SelfDelimiting fun kind : Kind => kind.name.toList ++ [' '] := by
  apply SelfDelimiting.of_stop
  · intro first second same
    exact name_injective (String.toList_inj.1 same)
  · intro kind
    exact kind.separators_not_mem_name.1

end Kind

namespace Lexeme

theorem span_render (span : Span) : span.render = toString span.start ++ ".." ++ toString span.stop := rfl

theorem toList_line (lexeme : Lexeme) :
    (lexeme.render ++ "\n").toList =
      (Nat.toDigits 10 lexeme.span.start ++ ['.']) ++ '.' :: ((Nat.toDigits 10 lexeme.span.stop ++ [' ']) ++
        ((lexeme.kind.name.toList ++ [' ']) ++ ((quoted lexeme.text).toList ++ ['\n']))) := by
  rw [render, span_render]
  simp

/-- A line shows where it ends, and which token it shows. -/
theorem selfDelimiting_line : SelfDelimiting fun lexeme : Lexeme => (lexeme.render ++ "\n").toList := by
  have digits (stop : Char) (other : ∀ digit < 10, stop ≠ digit.digitChar) :
      SelfDelimiting fun value => Nat.toDigits 10 value ++ [stop] :=
    selfDelimiting_toDigits (by decide) (by decide) other
  rintro ⟨kind, text, start, stop⟩ ⟨kind', text', start', stop'⟩ rest rest' same
  simp only [toList_line, List.append_assoc _ _ rest, List.append_assoc _ _ rest', List.cons_append] at same
  obtain ⟨rfl, behindStart⟩ := digits '.' (by decide) _ _ _ _ same
  obtain ⟨rfl, behindStop⟩ := digits ' ' (by decide) _ _ _ _ (List.cons.inj behindStart).2
  obtain ⟨rfl, behindKind⟩ := Kind.selfDelimiting_name _ _ _ _ behindStop
  obtain ⟨rfl, behindText⟩ := selfDelimiting_quoted _ _ _ _ behindKind
  exact ⟨rfl, (List.cons.inj behindText).2⟩

theorem newline_not_mem_render (lexeme : Lexeme) : '\n' ∉ lexeme.render.toList := by
  have digits (value : Nat) : '\n' ∉ Nat.toDigits 10 value := not_mem_toDigits (by decide) (by decide) value
  have name := lexeme.kind.separators_not_mem_name.2
  have text := newline_not_mem_quoted lexeme.text
  rw [render, span_render]
  simp [digits, name, text]

theorem toList_renderAll (lexemes : List Lexeme) :
    (renderAll lexemes).toList = lexemes.flatMap fun lexeme => (lexeme.render ++ "\n").toList := by
  induction lexemes with
  | nil => rfl
  | cons lexeme lexemes ih => rw [renderAll_cons, String.toList_append, ih, List.flatMap_cons]

/-- What is written of a list of tokens, whatever their kinds, spans and texts are, shows the list, and it has one
end of line for each token. -/
theorem renderAll_shows_tokens :
    (∀ first second : List Lexeme, renderAll first = renderAll second ↔ first = second) ∧
      ∀ lexemes : List Lexeme, (renderAll lexemes).toList.count '\n' = lexemes.length := by
  constructor
  · intro first second
    refine ⟨fun same => ?_, congrArg renderAll⟩
    have lines := congrArg String.toList same
    rw [toList_renderAll, toList_renderAll] at lines
    have ends : EndsBefore (fun lexeme : Lexeme => (lexeme.render ++ "\n").toList) [] := endsBefore_nil (by simp)
    exact (selfDelimiting_line.flatMap_append_inj ends ends (congrArg (· ++ []) lines)).1
  · intro lexemes
    induction lexemes with
    | nil => rfl
    | cons lexeme lexemes ih =>
        have line : lexeme.render.toList.count '\n' = 0 := List.count_eq_zero.2 lexeme.newline_not_mem_render
        rw [renderAll_cons, String.toList_append, String.toList_append, List.count_append, List.count_append,
          line, ih, List.length_cons, Nat.zero_add, Nat.add_comm]
        rfl

end Lexeme

end LexKit.Sexpr
