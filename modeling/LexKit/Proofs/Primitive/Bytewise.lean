import LexKit.Primitive.Bytewise
import LexKit.Proofs.Regex.Search

/-!
# Counting bytes and counting characters

On an input whose length fits into 64 bits, the matchers that count bytes do the same as those that count
characters: the bytes of a number of whole characters end between characters, so the cursor never refuses.
For delimited regions the reader with a flag and the reader that looks ahead go through the input in step.
-/

namespace LexKit

open Text

namespace Text

theorem utf8ByteSize_ofList (text : List Char) : (String.ofList text).utf8ByteSize = byteLength text := by
  induction text with
  | nil => rfl
  | cons char text ih =>
      have split : String.ofList (char :: text) = String.singleton char ++ String.ofList text := by
        rw [String.singleton_eq_ofList, ← String.ofList_append]
        rfl
      rw [split, String.utf8ByteSize_append, String.utf8ByteSize_singleton, ih, byteLength_cons]

theorem utf8ByteSize_eq (text : String) : text.utf8ByteSize = byteLength text.toList := by
  rw [← utf8ByteSize_ofList, String.ofList_toList]

theorem byteLength_le_of_prefix {head text : List Char} (begins : head <+: text) :
    byteLength head ≤ byteLength text := by
  obtain ⟨behind, rfl⟩ := begins
  rw [byteLength_append]
  exact Nat.le_add_right _ _

theorem byteLength_pos {text : List Char} (present : text ≠ []) : 0 < byteLength text := by
  cases text with
  | nil => exact absurd rfl present
  | cons char text =>
      have := char.utf8Size_pos
      rw [byteLength_cons]
      omega

theorem length_le_byteLength (text : List Char) : text.length ≤ byteLength text := by
  induction text with
  | nil => exact Nat.le_refl 0
  | cons char text ih =>
      have := char.utf8Size_pos
      rw [List.length_cons, byteLength_cons]
      omega

theorem splitAtByte?_take (count : Nat) (text : List Char) :
    splitAtByte? (byteLength (text.take count)) text = some (text.take count, text.drop count) :=
  splitAtByte?_eq_some_iff.2 ⟨(List.take_append_drop count text).symm, rfl⟩

end Text

namespace Cursor

variable {cursor : Cursor}

theorem forward_length_take (count : Nat) (cursor : Cursor) :
    cursor.forward (cursor.rest.take count).length = cursor.forward count := by
  apply ext
  · rw [forward_passed, forward_passed, List.length_take, List.take_eq_take_min]
    simp
  · rw [forward_rest, forward_rest, List.length_take]
    by_cases within : count ≤ cursor.rest.length
    · rw [Nat.min_eq_left within]
    · have beyond : cursor.rest.length ≤ count := by omega
      rw [Nat.min_eq_right beyond, List.drop_length, List.drop_eq_nil_of_le beyond]

theorem spanOfLength_take (fits : byteLength cursor.text < Position.limit) (count : Nat) :
    cursor.spanOfLength (byteLength (cursor.rest.take count)) = .ok (cursor.spanOf count) := by
  have whole := cursor.byteLength_text
  have part := byteLength_le_of_prefix (List.take_prefix count cursor.rest)
  have within : cursor.position + byteLength (cursor.rest.take count) < Position.limit := by omega
  simp [spanOfLength, Position.advance, within, Span.new?, spanOf, bind, Except.bind]

theorem advance_take (fits : byteLength cursor.text < Position.limit) (count : Nat) :
    cursor.advance (byteLength (cursor.rest.take count)) =
      .ok (cursor.spanOf count, cursor.forward count) := by
  rw [advance, splitAtByte?_take]
  simp only [spanOfLength_take fits count, forward_length_take, bind, Except.bind]

theorem consume_take (fits : byteLength cursor.text < Position.limit) (count : Nat) :
    cursor.consume (byteLength (cursor.rest.take count)) =
      .ok (cursor.textOf count, cursor.spanOf count, cursor.forward count) := by
  rw [consume, headBytes?, splitAtByte?_take]
  simp only [Option.map_some, advance_take fits count, textOf, bind, Except.bind]

/-- What a step that counts characters comes to, in the form of one that counts bytes. -/
def arrive {α : Type} (cursor : Cursor) (step : Step α) : Except Fault (Outcome α × Cursor) :=
  .ok (step.outcome, step.next cursor)

theorem passBytes_take (fits : byteLength cursor.text < Position.limit) (count : Nat)
    (text : Option String) :
    cursor.passBytes (byteLength (cursor.rest.take count)) text =
      cursor.arrive (cursor.take count text) := by
  simp only [passBytes, advance_take fits count, bind, Except.bind]
  rfl

theorem takeBytes_take (fits : byteLength cursor.text < Position.limit) (count : Nat) :
    cursor.takeBytes (byteLength (cursor.rest.take count)) = cursor.arrive (cursor.takeText count) := by
  simp only [takeBytes, consume_take fits count, bind, Except.bind]
  rfl

theorem stay_eq (outcome : Outcome Extract) : cursor.stay outcome = cursor.arrive (.still outcome) := rfl

end Cursor

/-! ## Delimited regions -/

namespace Delimiters

variable {delimiters : Delimiters}

theorem lt_of_readFrom {rest kept text : List Char} {passed count : Nat}
    (found : delimiters.readFrom rest kept passed = some (text, count)) : passed < count := by
  fun_induction delimiters.readFrom rest kept passed with
  | case1 => cases found
  | case2 | case5 | case7 =>
      cases found
      omega
  | case3 => cases found
  | case4 _ _ _ _ _ ih | case6 _ _ _ _ _ _ _ _ ih | case8 _ _ _ _ _ _ ih =>
      have := ih found
      omega

/-- What the reader that looks ahead finds behind an offset, in bytes. -/
def inBytes (offset passed : Nat) (rest : List Char) (found : Option (List Char × Nat)) :
    Option (List Char × Nat) :=
  found.map fun (text, count) => (text, offset + byteLength (rest.take (count - passed)))

/-- Characters that were passed before the reader went on count with what it finds. -/
theorem inBytes_readFrom_append (taken rest kept : List Char) (offset passed : Nat) :
    inBytes (offset + byteLength taken) (passed + taken.length) rest
        (delimiters.readFrom rest kept (passed + taken.length)) =
      inBytes offset passed (taken ++ rest)
        (delimiters.readFrom rest kept (passed + taken.length)) := by
  unfold inBytes
  cases found : delimiters.readFrom rest kept (passed + taken.length) with
  | none => rfl
  | some region =>
      have later := lt_of_readFrom found
      obtain ⟨more, count⟩ : ∃ more, region.2 - passed = taken.length + more :=
        ⟨region.2 - (passed + taken.length), by omega⟩
      have fewer : region.2 - (passed + taken.length) = more := by omega
      simp only [Option.map_some, fewer, count, List.take_length_add_append, byteLength_append]
      rw [Nat.add_assoc]

/-- The reader with a flag keeps step with the one that looks ahead. -/
theorem measureFrom_eq (rest kept : List Char) (offset passed : Nat) :
    delimiters.measureFrom (offset + byteLength rest) (charOffsets offset rest) kept false =
      inBytes offset passed rest (delimiters.readFrom rest kept passed) := by
  fun_induction delimiters.readFrom rest kept passed generalizing offset with
  | case1 kept passed => rfl
  | case2 kept passed escapes => 
      simp [charOffsets, measureFrom, escapes, inBytes]
  | case3 char kept passed escapes own => 
      simp [charOffsets, measureFrom, escapes, inBytes, own]
  | case4 char kept passed escapes rest ih =>
      have next := (ih (offset + byteLength [char, delimiters.closing])).trans
        (inBytes_readFrom_append [char, delimiters.closing] rest _ offset passed)
      simpa [charOffsets, measureFrom, escapes, Nat.add_assoc] using next
  | case5 kept passed second rest other escapes =>
      simp [charOffsets, measureFrom, escapes, inBytes, other]
  | case6 char kept passed escapes second rest other own ih =>
      have next := (ih (offset + byteLength [char, second])).trans
        (inBytes_readFrom_append [char, second] rest _ offset passed)
      simpa [charOffsets, measureFrom, escapes, other, own, Nat.add_assoc] using next
  | case7 rest kept passed other =>
      cases escapes : delimiters.escape with
      | none => simp [charOffsets, measureFrom, escapes, inBytes]
      | some escape =>
          have different : delimiters.closing ≠ escape := by
            rintro rfl
            exact other escapes
          simp [charOffsets, measureFrom, escapes, inBytes, different]
  | case8 char rest kept passed other inner ih =>
      have next := (ih (offset + byteLength [char])).trans
        (inBytes_readFrom_append [char] rest _ offset passed)
      cases escapes : delimiters.escape with
      | none => simpa [charOffsets, measureFrom, escapes, inner, Nat.add_assoc] using next
      | some escape =>
          have different : char ≠ escape := by
            rintro rfl
            exact other escapes
          simpa [charOffsets, measureFrom, escapes, inner, different, Nat.add_assoc] using next

theorem bytewise_eq (delimiters : Delimiters) {cursor : Cursor}
    (fits : byteLength cursor.text < Position.limit) :
    delimiters.bytewise cursor = cursor.arrive (delimiters.matcher cursor) := by
  unfold bytewise matcher
  cases rest : cursor.rest with
  | nil => rfl
  | cons char body =>
      simp only [charOffsets, Nat.zero_add]
      by_cases opens : char = delimiters.opening
      · have measured := delimiters.measureFrom_eq body [] char.utf8Size 1
        rw [← byteLength_cons] at measured
        simp only [if_pos opens, measured]
        cases found : delimiters.readFrom body [] 1 with
        | none => rfl
        | some region =>
            obtain ⟨text, count⟩ := region
            obtain ⟨more, rfl⟩ : ∃ more, count = more + 1 :=
              ⟨count - 1, by have := lt_of_readFrom found; omega⟩
            have length : char.utf8Size + byteLength (body.take more) =
                byteLength (cursor.rest.take (more + 1)) := by
              rw [rest, List.take_succ_cons, byteLength_cons]
            simp only [inBytes, Option.map_some, Nat.add_sub_cancel, length]
            exact Cursor.passBytes_take fits _ _
      · simp only [if_neg opens]
        rfl

end Delimiters

/-! ## The other matchers -/

namespace Text

theorem firstOffset_find (property : Char → Bool) (text : List Char) (offset : Nat) :
    (((charOffsets offset text).find? fun (_, char) => !property char).map (·.1)).getD
        (offset + byteLength text) =
      offset + byteLength (text.takeWhile property) := by
  induction text generalizing offset with
  | nil => rfl
  | cons char text ih =>
      cases holds : property char with
      | false => simp [charOffsets, holds]
      | true => simpa [charOffsets, holds, Nat.add_assoc] using ih (offset + char.utf8Size)

theorem firstOffset?_getD (property : Char → Bool) (text : List Char) :
    (firstOffset? (fun char => !property char) text).getD (byteLength text) =
      byteLength (text.takeWhile property) := by
  simpa [firstOffset?] using firstOffset_find property text 0

end Text

namespace Primitive

variable {cursor : Cursor}

theorem blanksBytewise_eq (fits : byteLength cursor.text < Position.limit) :
    blanksBytewise cursor = cursor.arrive (blanksMatcher cursor) := by
  simp only [blanksBytewise, firstOffset?_getD, blanksMatcher]
  cases run : cursor.rest.takeWhile Unicode.isBlank with
  | nil => rfl
  | cons char blanks =>
      have present : byteLength (char :: blanks) ≠ 0 := by
        have := byteLength_pos (List.cons_ne_nil char blanks)
        omega
      have taken : char :: blanks = cursor.rest.take (char :: blanks).length := by
        rw [← run]
        exact List.prefix_iff_eq_take.1 (List.takeWhile_prefix _)
      rw [if_neg present, if_neg (by simp)]
      conv => lhs; rw [taken]
      exact Cursor.passBytes_take fits _ _

theorem endBytewise_eq : endBytewise cursor = cursor.arrive (endMatcher cursor) := by
  unfold endBytewise endMatcher
  cases atEnd : cursor.atEnd with
  | true => 
      rw [if_pos (Cursor.position_of_atEnd atEnd)]
      simp [Cursor.stay, Cursor.arrive, Cursor.take, Cursor.spanOf, Span.emptyAt, Step.next, Cursor.forward]
  | false =>
      have inside := Cursor.position_lt_of_inside atEnd
      rw [if_neg (by omega)]
      rfl

theorem charBytewise_eq (fits : byteLength cursor.text < Position.limit) (set : String) :
    charBytewise set cursor = cursor.arrive (charMatcher set cursor) := by
  unfold charBytewise charMatcher Cursor.peek
  cases rest : cursor.rest with
  | nil => rfl
  | cons char body =>
      have size : char.utf8Size = byteLength (cursor.rest.take 1) := by simp [rest]
      simp only [List.head?_cons]
      split
      · rw [size]
        exact Cursor.takeBytes_take fits 1
      · rfl

theorem literalMatcher_eq (text : String) (cursor : Cursor) :
    literalMatcher text cursor =
      if text.toList ≠ [] ∧ text.toList <+: cursor.rest then cursor.takeText text.toList.length
      else .still .noMatch := by
  simp only [literalMatcher, Bool.and_eq_true, Bool.not_eq_true', List.isEmpty_eq_false_iff,
    List.isPrefixOf_iff_prefix]

theorem literalBytewise_eq (fits : byteLength cursor.text < Position.limit) (text : String) :
    literalBytewise text cursor = cursor.arrive (literalMatcher text cursor) := by
  have empty : text.isEmpty = text.toList.isEmpty := by
    rw [Bool.eq_iff_iff, String.isEmpty_iff, List.isEmpty_iff, String.toList_eq_nil_iff]
  rw [literalBytewise, literalMatcher_eq, empty]
  by_cases applies : text.toList ≠ [] ∧ text.toList <+: cursor.rest
  · obtain ⟨present, comes⟩ := applies
    have accepts : ¬ (text.toList.isEmpty || !text.toList.isPrefixOf cursor.rest) = true := by
      rw [List.isPrefixOf_iff_prefix.2 comes, List.isEmpty_eq_false_iff.2 present]
      decide
    have size : text.utf8ByteSize = byteLength (cursor.rest.take text.toList.length) := by
      rw [← List.prefix_iff_eq_take.1 comes, utf8ByteSize_eq]
    rw [if_neg accepts, if_pos ⟨present, comes⟩, size]
    exact Cursor.takeBytes_take fits _
  · have refuses : (text.toList.isEmpty || !text.toList.isPrefixOf cursor.rest) = true := by
      rw [Bool.or_eq_true, List.isEmpty_iff, Bool.not_eq_true', ← Bool.not_eq_true,
        List.isPrefixOf_iff_prefix]
      by_cases present : text.toList = []
      · exact .inl present
      · exact .inr fun comes => applies ⟨present, comes⟩
    rw [if_pos refuses, if_neg applies]
    rfl

theorem literalMatcher_noMatch {text : String}
    (declines : (literalMatcher text cursor).outcome.isNoMatch = true) :
    literalMatcher text cursor = .still .noMatch := by
  rw [literalMatcher_eq] at declines ⊢
  split
  · rename_i applies
    rw [if_pos applies] at declines
    cases declines
  · rfl

theorem firstLiteralBytewise_eq (fits : byteLength cursor.text < Position.limit) (texts : List String) :
    firstLiteralBytewise texts cursor = cursor.arrive (firstLiteral texts cursor) := by
  induction texts with
  | nil => rfl
  | cons text texts ih =>
      simp only [firstLiteralBytewise, firstLiteral, literalBytewise_eq fits, Cursor.arrive, bind,
        Except.bind]
      split
      · rename_i declines
        rw [literalMatcher_noMatch declines]
        exact ih
      · rfl

end Primitive

theorem Pattern.reach?_bounds {pattern : Pattern} {text : List Char} {count : Nat}
    (reaches : pattern.reach? text = some count) : 0 < count ∧ count ≤ text.length := by
  unfold reach? at reaches
  split at reaches
  · rename_i found finds
    split at reaches
    · cases reaches
      exact ⟨‹_›, Regex.Automaton.search_stop_le finds⟩
    · cases reaches
  · cases reaches

theorem Pattern.bytewise_eq (pattern : Pattern) {cursor : Cursor}
    (fits : byteLength cursor.text < Position.limit) :
    pattern.bytewise cursor = cursor.arrive (pattern.matcher cursor) := by
  simp only [bytewise, matcher, reach?]
  cases finds : pattern.automaton.search cursor.rest with
  | none => rfl
  | some found =>
      have within := Regex.Automaton.search_stop_le finds
      by_cases empty : found.stop = 0
      · simp [empty, Cursor.stay_eq]
      · have present : cursor.rest.take found.stop ≠ [] := by
          rw [← List.length_pos_iff, List.length_take]
          omega
        simp only [byteLength_pos present, Nat.pos_of_ne_zero empty, if_true]
        exact Cursor.takeBytes_take fits _

/-- Counting bytes, a built-in matcher is never refused and does what it does counting characters. -/
theorem Primitive.bytewise_eq (primitive : Primitive) {cursor : Cursor}
    (fits : byteLength cursor.text < Position.limit) :
    primitive.bytewise cursor = cursor.arrive (primitive.matcher cursor) := by
  cases primitive with
  | blanks => exact blanksBytewise_eq fits
  | endOfInput => exact endBytewise_eq
  | literal text => exact literalBytewise_eq fits text
  | oneCharOf set => exact charBytewise_eq fits set
  | oneOfLiterals texts => exact firstLiteralBytewise_eq fits texts
  | pattern compiled => exact compiled.bytewise_eq fits
  | delimited region => exact region.bytewise_eq fits

namespace Rule

variable {τ : Type}

theorem recognizer_eq (rule : Rule τ) (cursor : Cursor) :
    rule.recognizer cursor = (rule.primitive.matcher cursor).map rule.result := by
  cases rule <;> rfl

theorem bytewise_eq (rule : Rule τ) {cursor : Cursor} (fits : byteLength cursor.text < Position.limit) :
    rule.bytewise cursor = cursor.arrive (rule.recognizer cursor) := by
  rw [bytewise, rule.primitive.bytewise_eq fits, recognizer_eq]
  rfl

end Rule

end LexKit
