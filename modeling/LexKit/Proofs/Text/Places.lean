import LexKit.Text.Bytes

/-!
# Places in a text

Where a byte offset can lie: in front of a character, at the end of the text, between two bytes of a character, or
behind the text. Only the first two are boundaries, and only there can the text be cut. What is cut out between two
boundaries is what stands between them.
-/

namespace LexKit.Text

variable {text : List Char} {offset stop : Nat} {char : Char}

def CharAt (text : List Char) (offset : Nat) (char : Char) : Prop :=
  ∃ head tail, text = head ++ char :: tail ∧ byteLength head = offset

/-- The offset lies between two bytes of one character of the text. -/
def InsideChar (text : List Char) (offset : Nat) : Prop :=
  ∃ head char tail, text = head ++ char :: tail ∧
    byteLength head < offset ∧ offset < byteLength head + char.utf8Size

/-! ## Boundaries -/

theorem IsBoundary.le_byteLength (boundary : IsBoundary text offset) : offset ≤ byteLength text := by
  obtain ⟨head, tail, rfl, rfl⟩ := boundary
  rw [byteLength_append]
  exact Nat.le_add_right _ _

theorem isBoundary_zero (text : List Char) : IsBoundary text 0 := ⟨[], text, rfl, rfl⟩

theorem isBoundary_byteLength (text : List Char) : IsBoundary text (byteLength text) :=
  ⟨text, [], (List.append_nil text).symm, rfl⟩

theorem IsBoundary.cons (boundary : IsBoundary text offset) (char : Char) :
    IsBoundary (char :: text) (char.utf8Size + offset) := by
  obtain ⟨head, tail, rfl, rfl⟩ := boundary
  exact ⟨char :: head, tail, rfl, byteLength_cons char head⟩

theorem InsideChar.cons (inside : InsideChar text offset) (char : Char) :
    InsideChar (char :: text) (char.utf8Size + offset) := by
  obtain ⟨head, cut, tail, rfl, behind, before⟩ := inside
  refine ⟨char :: head, cut, tail, rfl, ?_, ?_⟩ <;> rw [byteLength_cons] <;> omega

/-- A place up to the end of the text is a boundary, or it cuts a character. -/
theorem isBoundary_or_insideChar (within : offset ≤ byteLength text) :
    IsBoundary text offset ∨ InsideChar text offset := by
  induction text generalizing offset with
  | nil =>
      obtain rfl : offset = 0 := Nat.le_zero.1 within
      exact .inl (isBoundary_zero [])
  | cons char text ih =>
      rcases Nat.eq_zero_or_pos offset with rfl | positive
      · exact .inl (isBoundary_zero _)
      · by_cases first : offset < char.utf8Size
        · exact .inr ⟨[], char, text, rfl, positive, by simpa using first⟩
        · -- The place lies behind the first character.
          obtain ⟨rest, rfl⟩ := Nat.exists_eq_add_of_le (Nat.not_lt.1 first)
          rw [byteLength_cons] at within
          exact (ih (Nat.le_of_add_le_add_left within)).imp (·.cons char) (·.cons char)

theorem InsideChar.not_isBoundary (inside : InsideChar text offset) : ¬ IsBoundary text offset := by
  obtain ⟨head, char, tail, rfl, behind, before⟩ := inside
  rintro ⟨front, back, parts, rfl⟩
  rcases List.append_eq_append_iff.1 parts with ⟨middle, rfl, opens⟩ | ⟨middle, rfl, -⟩
  · cases middle with
    | nil => simp at behind
    | cons first middle =>
        obtain ⟨rfl, rfl⟩ := List.cons.inj opens
        simp only [byteLength_append, byteLength_cons] at before
        omega
  · rw [byteLength_append] at behind
    omega

theorem not_isBoundary_iff : ¬ IsBoundary text offset ↔ byteLength text < offset ∨ InsideChar text offset := by
  constructor
  · intro cuts
    by_cases within : offset ≤ byteLength text
    · exact .inr ((isBoundary_or_insideChar within).resolve_left cuts)
    · exact .inl (Nat.not_le.1 within)
  · rintro (beyond | inside)
    · exact fun boundary => Nat.not_le.2 beyond boundary.le_byteLength
    · exact inside.not_isBoundary

theorem splitAtByte?_eq_none_iff : splitAtByte? offset text = none ↔ ¬ IsBoundary text offset := by
  rw [Option.eq_none_iff_forall_ne_some]
  constructor
  · rintro uncut ⟨head, tail, parts⟩
    exact uncut (head, tail) (splitAtByte?_eq_some_iff.2 parts)
  · rintro cuts ⟨head, tail⟩ cut
    exact cuts ⟨head, tail, splitAtByte?_eq_some_iff.1 cut⟩

/-! ## Characters -/

theorem exists_charAt_iff :
    (∃ char, CharAt text offset char) ↔ IsBoundary text offset ∧ offset < byteLength text := by
  constructor
  · rintro ⟨char, head, tail, rfl, rfl⟩
    have := char.utf8Size_pos
    refine ⟨⟨head, char :: tail, rfl, rfl⟩, ?_⟩
    rw [byteLength_append, byteLength_cons]
    omega
  · rintro ⟨⟨head, tail, rfl, rfl⟩, before⟩
    cases tail with
    | nil => simp at before
    | cons char tail => exact ⟨char, head, tail, rfl, rfl⟩

theorem CharAt.unique {other : Char} (starts : CharAt text offset char) (same : CharAt text offset other) :
    char = other := by
  obtain ⟨head, tail, parts⟩ := starts
  obtain ⟨head', tail', parts'⟩ := same
  have cut := splitAtByte?_eq_some_iff.2 parts
  rw [splitAtByte?_eq_some_iff.2 parts'] at cut
  cases cut
  rfl

theorem CharAt.le_byteLength (starts : CharAt text offset char) :
    offset + char.utf8Size ≤ byteLength text := by
  obtain ⟨head, tail, rfl, rfl⟩ := starts
  rw [byteLength_append, byteLength_cons]
  omega

theorem charSizeAt_of_charAt (starts : CharAt text offset char) : charSizeAt text offset = char.utf8Size := by
  obtain ⟨head, tail, parts⟩ := starts
  simp [charSizeAt, splitAtByte?_eq_some_iff.2 parts]

theorem charSizeAt_of_not_charAt (starts : ∀ char, ¬ CharAt text offset char) : charSizeAt text offset = 0 := by
  cases cut : splitAtByte? offset text with
  | none => simp [charSizeAt, cut]
  | some parts =>
      obtain ⟨head, tail⟩ := parts
      cases tail with
      | nil => simp [charSizeAt, cut]
      | cons char tail => exact absurd ⟨head, tail, splitAtByte?_eq_some_iff.1 cut⟩ (starts char)

/-! ## Parts of a text -/

theorem slice?_append (head middle tail : List Char) :
    slice? (head ++ (middle ++ tail)) (byteLength head) (byteLength head + byteLength middle) =
      some middle := by
  have behind : splitAtByte? (byteLength head) (head ++ (middle ++ tail)) = some (head, middle ++ tail) :=
    splitAtByte?_eq_some_iff.2 ⟨rfl, rfl⟩
  have before : splitAtByte? (byteLength middle) (middle ++ tail) = some (middle, tail) :=
    splitAtByte?_eq_some_iff.2 ⟨rfl, rfl⟩
  simp [slice?, headBytes?, behind, before]

theorem slice?_of_charAt (starts : CharAt text offset char) :
    slice? text offset (offset + char.utf8Size) = some [char] := by
  obtain ⟨head, tail, rfl, rfl⟩ := starts
  simpa using slice?_append head [char] tail

theorem slice?_of_isBoundary (boundary : IsBoundary text offset) : slice? text offset offset = some [] := by
  obtain ⟨head, tail, rfl, rfl⟩ := boundary
  simpa using slice?_append head [] tail

theorem slice?_of_not_isBoundary (cuts : ¬ IsBoundary text offset) : slice? text offset stop = none := by
  simp [slice?, splitAtByte?_eq_none_iff.2 cuts]

end LexKit.Text
