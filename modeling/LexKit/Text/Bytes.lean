/-!
# Lengths and places in bytes

Places in a text are counted in bytes of its UTF-8 form, while the text itself is a list of
characters. `byteLength` is the one measure; `splitAtByte?` cuts at a byte offset and succeeds exactly
at the places between characters.
-/

namespace LexKit.Text

/-- The number of bytes that a text takes in UTF-8. -/
def byteLength (text : List Char) : Nat := text.foldl (fun size char => size + char.utf8Size) 0

theorem byteLength_foldl (text : List Char) (size : Nat) :
    text.foldl (fun size char => size + char.utf8Size) size = size + byteLength text := by
  induction text generalizing size with
  | nil => simp [byteLength]
  | cons char text ih =>
      simp only [byteLength, List.foldl_cons]
      rw [ih, ih (0 + char.utf8Size)]
      omega

@[simp] theorem byteLength_nil : byteLength [] = 0 := rfl

@[simp] theorem byteLength_cons (char : Char) (text : List Char) :
    byteLength (char :: text) = char.utf8Size + byteLength text := by
  have h := byteLength_foldl text (0 + char.utf8Size)
  simpa [byteLength] using h

@[simp] theorem byteLength_append (first second : List Char) :
    byteLength (first ++ second) = byteLength first + byteLength second := by
  induction first with
  | nil => simp
  | cons char first ih => simp [ih, Nat.add_assoc]

@[simp] theorem byteLength_reverse (text : List Char) :
    byteLength text.reverse = byteLength text := by
  induction text with
  | nil => rfl
  | cons char text ih => simp [ih, Nat.add_comm]

/-- Cuts a text after a number of bytes, behind characters that were passed before, the nearest first. -/
def splitFrom : List Char → Nat → List Char → Option (List Char × List Char)
  | passed, 0, text => some (passed.reverse, text)
  | _, _ + 1, [] => none
  | passed, offset + 1, char :: text =>
      if char.utf8Size ≤ offset + 1 then
        splitFrom (char :: passed) (offset + 1 - char.utf8Size) text
      else none

/-- Cuts a text after a number of bytes, if that place lies between two characters or at an end. -/
def splitAtByte? (offset : Nat) (text : List Char) : Option (List Char × List Char) :=
  splitFrom [] offset text

theorem splitFrom_eq_some_iff {passed text head tail : List Char} {offset : Nat} :
    splitFrom passed offset text = some (head, tail) ↔
      ∃ middle, head = passed.reverse ++ middle ∧ text = middle ++ tail ∧ byteLength middle = offset := by
  induction text generalizing passed offset with
  | nil =>
      cases offset with
      | zero =>
          simp only [splitFrom, Option.some.injEq, Prod.mk.injEq]
          constructor
          · rintro ⟨rfl, rfl⟩
            exact ⟨[], by simp⟩
          · rintro ⟨middle, rfl, text, -⟩
            obtain ⟨rfl, rfl⟩ := List.append_eq_nil_iff.1 text.symm
            simp
      | succ offset =>
          simp only [splitFrom, reduceCtorEq, false_iff, not_exists]
          rintro middle ⟨-, text, size⟩
          obtain ⟨rfl, rfl⟩ := List.append_eq_nil_iff.1 text.symm
          simp at size
  | cons char text ih =>
      have positive : 0 < char.utf8Size := char.utf8Size_pos
      cases offset with
      | zero =>
          simp only [splitFrom, Option.some.injEq, Prod.mk.injEq]
          constructor
          · rintro ⟨rfl, rfl⟩
            exact ⟨[], by simp⟩
          · rintro ⟨middle, rfl, text, size⟩
            cases middle with
            | nil => simpa using text
            | cons first middle =>
                have := first.utf8Size_pos
                simp at size
                omega
      | succ offset =>
          simp only [splitFrom]
          split
          · rename_i fits
            rw [ih]
            constructor
            · rintro ⟨middle, rfl, rfl, size⟩
              exact ⟨char :: middle, by simp, by simp, by simp; omega⟩
            · rintro ⟨middle, rfl, text, size⟩
              cases middle with
              | nil => simp at size
              | cons first middle =>
                  simp only [List.cons_append, List.cons.injEq] at text
                  obtain ⟨rfl, rfl⟩ := text
                  exact ⟨middle, by simp, rfl, by simp at size; omega⟩
          · rename_i large
            simp only [reduceCtorEq, false_iff, not_exists]
            rintro middle ⟨-, text, size⟩
            cases middle with
            | nil => simp at size
            | cons first middle =>
                simp only [List.cons_append, List.cons.injEq] at text
                obtain ⟨rfl, rfl⟩ := text
                simp at size
                omega

theorem splitAtByte?_eq_some_iff {text head tail : List Char} {offset : Nat} :
    splitAtByte? offset text = some (head, tail) ↔ text = head ++ tail ∧ byteLength head = offset := by
  rw [splitAtByte?, splitFrom_eq_some_iff]
  simp

/-- A place between two characters of the text, or at one of its ends. -/
def IsBoundary (text : List Char) (offset : Nat) : Prop :=
  ∃ head tail, text = head ++ tail ∧ byteLength head = offset

def headBytes? (length : Nat) (text : List Char) : Option (List Char) :=
  (splitAtByte? length text).map (·.1)

/-- The part of a text between two byte offsets, if both are boundaries in the right order. -/
def slice? (text : List Char) (start stop : Nat) : Option (List Char) :=
  if start ≤ stop then
    (splitAtByte? start text).bind fun (_, tail) => headBytes? (stop - start) tail
  else none

/-- The number of bytes of the character that starts at an offset, zero if none does. -/
def charSizeAt (text : List Char) (offset : Nat) : Nat :=
  (((splitAtByte? offset text).bind fun (_, rest) => rest.head?).map Char.utf8Size).getD 0

end LexKit.Text
