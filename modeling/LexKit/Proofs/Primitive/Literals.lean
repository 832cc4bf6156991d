import LexKit.Primitive.Bytewise
import LexKit.Proofs.Primitive.Attempt
import LexKit.Sexpr.Tokenizer

/-!
# Choosing among literals

Of several literals the first one listed that comes next is taken, though a longer one may be listed behind it. Two
literals that come next at one place are heads of one text, so one of them begins with the other: a literal that is
passed over for an earlier, shorter one begins with that one. Without such literals a list takes the longest that comes
next, in whatever order it is written.
-/

namespace LexKit

open Text

namespace Text

@[simp] theorem encode_nil : encode [] = [] := rfl

@[simp] theorem encode_cons (char : Char) (text : List Char) :
    encode (char :: text) = String.utf8EncodeChar char ++ encode text := rfl

@[simp] theorem encode_append (first second : List Char) :
    encode (first ++ second) = encode first ++ encode second := List.flatMap_append

theorem length_encode (text : List Char) : (encode text).length = byteLength text := by
  induction text with
  | nil => rfl
  | cons char text ih => simp [ih]

/-- The bytes of a character tell it from every other, with any bytes behind. -/
theorem eq_of_utf8EncodeChar_append {first second : Char} {behind behind' : List UInt8}
    (same : String.utf8EncodeChar first ++ behind = String.utf8EncodeChar second ++ behind') :
    first = second := by
  have decoded := congrArg (fun bytes => bytes.toByteArray.utf8DecodeChar? 0) same
  simpa [List.toByteArray_append, ByteArray.utf8DecodeChar?_utf8EncodeChar_append] using decoded

theorem encode_prefix_iff {first second : List Char} : encode first <+: encode second ↔ first <+: second := by
  constructor
  · intro begins
    induction first generalizing second with
    | nil => exact List.nil_prefix
    | cons char first ih =>
        obtain ⟨behind, bytes⟩ := begins
        cases second with
        | nil => simp at bytes
        | cons char' second =>
            simp only [encode_cons, List.append_assoc] at bytes
            obtain rfl := eq_of_utf8EncodeChar_append bytes
            exact List.cons_prefix_cons.2 ⟨rfl, ih ⟨behind, List.append_cancel_left bytes⟩⟩
  · rintro ⟨behind, rfl⟩
    rw [encode_append]
    exact List.prefix_append _ _

end Text

namespace Primitive

variable {cursor : Cursor} {texts earlier : List String} {rest : List Char}

/-! ## Bytes and characters -/

theorem literalEncoded_eq (text : String) (cursor : Cursor) :
    literalEncoded text cursor = literalBytewise text cursor := by
  have empty : (encode text.toList).isEmpty = text.isEmpty := by
    rw [Bool.eq_iff_iff, List.isEmpty_iff, String.isEmpty_iff, ← String.toList_eq_nil_iff,
      ← List.length_eq_zero_iff, length_encode]
    constructor
    · intro none
      by_contra present
      exact absurd none (Nat.pos_iff_ne_zero.1 (byteLength_pos present))
    · intro none
      rw [none, byteLength_nil]
  have begins : (encode text.toList).isPrefixOf (encode cursor.rest) = text.toList.isPrefixOf cursor.rest := by
    rw [Bool.eq_iff_iff, List.isPrefixOf_iff_prefix, List.isPrefixOf_iff_prefix, encode_prefix_iff]
  simp only [literalEncoded, literalBytewise, empty, begins, length_encode, utf8ByteSize_eq]

theorem firstLiteralEncoded_eq (texts : List String) (cursor : Cursor) :
    firstLiteralEncoded texts cursor = firstLiteralBytewise texts cursor := by
  induction texts generalizing cursor with
  | nil => rfl
  | cons text texts ih => simp only [firstLiteralEncoded, firstLiteralBytewise, literalEncoded_eq, ih]

/-! ## The literal that is taken -/

def applies (rest : List Char) (text : String) : Bool := text.toList ≠ [] ∧ text.toList <+: rest

theorem applies_iff {text : String} : applies rest text = true ↔ text.toList ≠ [] ∧ text.toList <+: rest :=
  decide_eq_true_iff

theorem literalBytewise_eq_ite (text : String) (cursor : Cursor) :
    literalBytewise text cursor =
      if applies cursor.rest text then cursor.takeBytes text.utf8ByteSize else cursor.stay .noMatch := by
  have present : text.isEmpty = true ↔ text.toList = [] := by
    rw [String.isEmpty_iff, String.toList_eq_nil_iff]
  have refuses : (text.isEmpty || !text.toList.isPrefixOf cursor.rest) = !applies cursor.rest text := by
    rw [Bool.eq_iff_iff, Bool.or_eq_true, present, Bool.not_eq_true', ← Bool.not_eq_true,
      List.isPrefixOf_iff_prefix, Bool.not_eq_true', ← Bool.not_eq_true, applies_iff]
    tauto
  rw [literalBytewise, refuses]
  cases applies cursor.rest text <;> rfl

/-- A literal that is taken ends the search for one, also where its bytes cannot be passed. -/
theorem takeBytes_bind (length : Nat) (otherwise : Cursor → Except Fault (Outcome Extract × Cursor)) :
    (do
      let (outcome, next) ← cursor.takeBytes length
      if outcome.isNoMatch then otherwise next else .ok (outcome, next)) = cursor.takeBytes length := by
  unfold Cursor.takeBytes
  cases cursor.consume length <;> rfl

theorem firstLiteralBytewise_find (texts : List String) (cursor : Cursor) :
    firstLiteralBytewise texts cursor =
      match texts.find? (applies cursor.rest) with
      | some text => cursor.takeBytes text.utf8ByteSize
      | none => cursor.stay .noMatch := by
  induction texts with
  | nil => rfl
  | cons text texts ih =>
      simp only [firstLiteralBytewise, literalBytewise_eq_ite, List.find?_cons]
      cases applies cursor.rest text with
      | true => exact takeBytes_bind _ _
      | false => exact ih

def ofLiteral (cursor : Cursor) : Option String → Step Extract
  | some text => cursor.take text.toList.length (some text)
  | none => .still .noMatch

theorem oneOfLiterals_find (texts : List String) (cursor : Cursor) :
    (oneOfLiterals texts).matcher cursor = ofLiteral cursor (texts.find? (applies cursor.rest)) := by
  have taken : (oneOfLiterals texts).matcher cursor =
      match texts.find? (applies cursor.rest) with
      | some text => cursor.takeText text.toList.length
      | none => .still .noMatch := firstLiteral_eq texts cursor
  rw [taken]
  cases found : texts.find? (applies cursor.rest) with
  | none => rfl
  | some text =>
      have comes := (applies_iff.1 (List.find?_some found)).2
      simp only [ofLiteral, Cursor.takeText, Cursor.textOf, ← List.prefix_iff_eq_take.1 comes,
        String.ofList_toList]

theorem literals_congr {others : List String}
    (same : others.find? (applies cursor.rest) = texts.find? (applies cursor.rest)) :
    (oneOfLiterals others).matcher cursor = (oneOfLiterals texts).matcher cursor ∧
      firstLiteralEncoded others cursor = firstLiteralEncoded texts cursor := by
  constructor
  · rw [oneOfLiterals_find, oneOfLiterals_find, same]
  · rw [firstLiteralEncoded_eq, firstLiteralEncoded_eq, firstLiteralBytewise_find,
      firstLiteralBytewise_find, same]

/-! ## Literals that are never taken -/

/-- Whether a text begins with one of some others, empty ones apart. -/
def hiddenBy (earlier : List String) (text : String) : Bool :=
  earlier.any fun other => !other.toList.isEmpty && other.toList.isPrefixOf text.toList

def pruneBehind (earlier : List String) : List String → List String
  | [] => []
  | text :: texts =>
      if text.toList.isEmpty || hiddenBy earlier text then pruneBehind (text :: earlier) texts
      else text :: pruneBehind (text :: earlier) texts

/-- Leaves out the empty texts and those that begin with one listed earlier. -/
def prune (texts : List String) : List String := pruneBehind [] texts

theorem hiddenBy_iff {text : String} :
    hiddenBy earlier text = true ↔ ∃ other ∈ earlier, other.toList ≠ [] ∧ other.toList <+: text.toList := by
  simp [hiddenBy, List.isPrefixOf_iff_prefix]

theorem not_hiddenBy_of_applies {text : String} (declined : ∀ other ∈ earlier, applies rest other = false)
    (applied : applies rest text = true) : hiddenBy earlier text = false := by
  rw [← Bool.not_eq_true, hiddenBy_iff]
  rintro ⟨other, member, present, begins⟩
  have other_applies := applies_iff.2 ⟨present, begins.trans (applies_iff.1 applied).2⟩
  rw [declined other member] at other_applies
  cases other_applies

theorem find?_pruneBehind (declined : ∀ other ∈ earlier, applies rest other = false) :
    (pruneBehind earlier texts).find? (applies rest) = texts.find? (applies rest) := by
  induction texts generalizing earlier with
  | nil => rfl
  | cons text texts ih =>
      cases applied : applies rest text with
      | true =>
          have present : text.toList.isEmpty = false := List.isEmpty_eq_false_iff.2 (applies_iff.1 applied).1
          rw [pruneBehind, present, not_hiddenBy_of_applies declined applied]
          simp [applied]
      | false =>
          have later := ih (List.forall_mem_cons.2 ⟨applied, declined⟩)
          rw [List.find?_cons_of_neg (by simp [applied]), ← later, pruneBehind]
          split
          · rfl
          · exact List.find?_cons_of_neg (by simp [applied])

/-! ## The longest literal -/

/-- No literal but an empty one is the head of another one listed later. -/
def LongestFirst (texts : List String) : Prop :=
  texts.Pairwise fun earlier later => earlier ≠ "" → earlier.toList <+: later.toList → earlier = later

instance (texts : List String) : Decidable (LongestFirst texts) :=
  inferInstanceAs (Decidable (List.Pairwise _ texts))

/-- The longest literal that comes next, if one does; an empty one counts for nothing. -/
inductive IsLongest (texts : List String) (rest : List Char) : Option String → Prop where
  | takes {text : String} : text ∈ texts → text ≠ "" → text.toList <+: rest →
      (∀ other ∈ texts, other.toList <+: rest → other.utf8ByteSize ≤ text.utf8ByteSize) →
      IsLongest texts rest (some text)
  | nothing : (∀ text ∈ texts, text.toList <+: rest → text = "") → IsLongest texts rest none

def TakesLongest (texts : List String) (cursor : Cursor) (step : Step Extract) : Prop :=
  ∃ found, IsLongest texts cursor.rest found ∧ step = ofLiteral cursor found

theorem not_hiddenBy_of_mem_pruneBehind {text : String} (member : text ∈ pruneBehind earlier texts) :
    text.toList ≠ [] ∧ hiddenBy earlier text = false := by
  induction texts generalizing earlier with
  | nil => cases member
  | cons first texts ih =>
      have later (kept : text ∈ pruneBehind (first :: earlier) texts) :
          text.toList ≠ [] ∧ hiddenBy earlier text = false := by
        obtain ⟨present, free⟩ := ih kept
        exact ⟨present, (Bool.or_eq_false_iff.1 free).2⟩
      rw [pruneBehind] at member
      split at member
      · exact later member
      · rename_i kept
        rcases List.mem_cons.1 member with rfl | member
        · simpa using kept
        · exact later member

/-- What is left begins with nothing that is listed before it. -/
theorem longestFirst_pruneBehind (earlier texts : List String) : LongestFirst (pruneBehind earlier texts) := by
  induction texts generalizing earlier with
  | nil => exact List.Pairwise.nil
  | cons first texts ih =>
      rw [pruneBehind]
      split
      · exact ih _
      · rename_i kept
        refine List.Pairwise.cons (fun later member _ begins => ?_) (ih _)
        have free := (not_hiddenBy_of_mem_pruneBehind member).2
        have present : first.toList ≠ [] := by
          intro none
          simp [none] at kept
        rw [hiddenBy_iff.2 ⟨first, List.mem_cons_self, present, begins⟩] at free
        cases free

theorem eq_of_prefix_of_byteLength_le {head text : List Char} (begins : head <+: text)
    (size : byteLength text ≤ byteLength head) : head = text := by
  obtain ⟨behind, rfl⟩ := begins
  rw [byteLength_append] at size
  have none : behind = [] := by
    by_contra present
    have := byteLength_pos present
    omega
  rw [none, List.append_nil]

/-- If no literal is hidden by an earlier one, the first that comes next is the longest: a longer one that is listed
later would begin with it. -/
theorem LongestFirst.isLongest (ordered : LongestFirst texts) (rest : List Char) :
    IsLongest texts rest (texts.find? (applies rest)) := by
  cases found : texts.find? (applies rest) with
  | none =>
      refine .nothing fun text member comes => ?_
      have declined := List.find?_eq_none.1 found text member
      by_contra present
      exact declined (applies_iff.2 ⟨mt String.toList_eq_nil_iff.1 present, comes⟩)
  | some text =>
      obtain ⟨applied, before, after, rfl, declined⟩ := List.find?_eq_some_iff_append.1 found
      obtain ⟨present, comes⟩ := applies_iff.1 applied
      have present : text ≠ "" := mt String.toList_eq_nil_iff.2 present
      refine .takes (by simp) present comes fun other member comes' => ?_
      rw [utf8ByteSize_eq, utf8ByteSize_eq]
      by_cases empty : other.toList = []
      · rw [empty]
        exact Nat.zero_le _
      have applied' := applies_iff.2 ⟨empty, comes'⟩
      rcases List.mem_append.1 member with member | member
      · simpa [applied'] using declined other member
      rcases List.mem_cons.1 member with rfl | member
      · exact Nat.le_refl _
      have behind := (List.pairwise_cons.1 (List.pairwise_append.1 ordered).2.1).1 other member present
      rcases List.prefix_or_prefix_of_prefix comes comes' with longer | shorter
      · rw [behind longer]
      · exact byteLength_le_of_prefix shorter

/-- Of two heads of one text that are equally long neither is longer, so they are the same: which literal is the
longest depends on the members of a list only. -/
theorem IsLongest.unique {others : List String} (members : ∀ text, text ∈ others ↔ text ∈ texts)
    {found found' : Option String} (longest : IsLongest texts rest found)
    (longest' : IsLongest others rest found') : found' = found := by
  cases longest with
  | @takes text member present comes bound =>
      cases longest' with
      | @takes text' member' present' comes' bound' =>
          have less := bound _ ((members _).1 member') comes'
          have more := bound' _ ((members _).2 member) comes
          rw [utf8ByteSize_eq, utf8ByteSize_eq] at less more
          have same : text'.toList = text.toList := by
            rcases List.prefix_or_prefix_of_prefix comes comes' with begins | begins
            · exact (eq_of_prefix_of_byteLength_le begins less).symm
            · exact eq_of_prefix_of_byteLength_le begins more
          rw [String.toList_inj.1 same]
      | nothing none => exact absurd (none text ((members text).2 member) comes) present
  | nothing none =>
      cases longest' with
      | @takes text' member' present' comes' =>
          exact absurd (none text' ((members text').1 member') comes') present'
      | nothing => rfl

theorem LongestFirst.takesLongest (ordered : LongestFirst texts) (cursor : Cursor) :
    TakesLongest texts cursor ((oneOfLiterals texts).matcher cursor) :=
  ⟨_, ordered.isLongest cursor.rest, oneOfLiterals_find texts cursor⟩

/-- Literals that are empty or begin with an earlier one can be left out, and then the longest literal that comes next
is taken. So it is in any list that lists no literal behind one that it begins with, and the order of such a list
makes no difference. The same literals are taken comparing characters and comparing bytes. -/
theorem firstLiteral_takes_longest (texts : List String) (cursor : Cursor) :
    ((oneOfLiterals (prune texts)).matcher cursor = (oneOfLiterals texts).matcher cursor ∧
      firstLiteralEncoded (prune texts) cursor = firstLiteralEncoded texts cursor) ∧
    TakesLongest (prune texts) cursor ((oneOfLiterals (prune texts)).matcher cursor) ∧
    (LongestFirst texts →
      TakesLongest texts cursor ((oneOfLiterals texts).matcher cursor) ∧
      ∀ others, LongestFirst others → (∀ text, text ∈ others ↔ text ∈ texts) →
        (oneOfLiterals others).matcher cursor = (oneOfLiterals texts).matcher cursor ∧
        firstLiteralEncoded others cursor = firstLiteralEncoded texts cursor) := by
  have ordered : LongestFirst (prune texts) := longestFirst_pruneBehind [] texts
  refine ⟨literals_congr (find?_pruneBehind (by simp)), ordered.takesLongest cursor, fun ordered => ?_⟩
  refine ⟨ordered.takesLongest cursor, fun others ordered' members => literals_congr ?_⟩
  exact (ordered.isLongest cursor.rest).unique members (ordered'.isLongest cursor.rest)

/-- The operators of s-expressions, and the same operators in another order with one of them written twice. -/
theorem firstLiteral_takes_longest_operators :
    let operators := ["<=", ">=", "==", "<", ">", "="]
    let others := ["==", "=", "<=", "=", "<", ">=", ">"]
    let cursor := (Cursor.ofString "é<=b").forward 1
    (∀ style, ∃ rule ∈ Sexpr.rules style, rule.primitive = .oneOfLiterals operators) ∧
      LongestFirst operators ∧ LongestFirst others ∧ (∀ text, text ∈ others ↔ text ∈ operators) ∧
      (oneOfLiterals others).matcher cursor = (oneOfLiterals operators).matcher cursor ∧
      (oneOfLiterals operators).matcher cursor = cursor.take 2 (some "<=") := by
  intro operators others cursor
  have ordered : LongestFirst operators := by decide +kernel
  have ordered' : LongestFirst others := by decide +kernel
  have members (text : String) : text ∈ others ↔ text ∈ operators := by
    simp only [others, operators, List.mem_cons, List.not_mem_nil]
    tauto
  have same := ((firstLiteral_takes_longest operators cursor).2.2 ordered).2 others ordered' members
  have listed (style : Sexpr.QuoteStyle) : ∃ rule ∈ Sexpr.rules style, rule.primitive = .oneOfLiterals operators :=
    ⟨.emit (.oneOfLiterals operators) (Token.ofKind .operator), by simp [Sexpr.rules, operators], rfl⟩
  exact ⟨listed, ordered, ordered', members, same.1, by decide +kernel⟩

/-! ## Literals of one character -/

theorem find?_singletons {chars : List Char}
    (members : ∀ text, text ∈ texts ↔ ∃ char ∈ chars, text = String.singleton char) :
    texts.find? (applies rest) = (rest.head?.filter (· ∈ chars)).map String.singleton := by
  have applied (char : Char) : applies rest (String.singleton char) = true ↔ rest.head? = some char := by
    rw [applies_iff]
    cases rest with
    | nil => simp
    | cons first rest => simp [List.cons_prefix_cons, eq_comm]
  cases found : texts.find? (applies rest) with
  | none =>
      cases opens : rest.head? with
      | none => rfl
      | some char =>
          have absent : char ∉ chars := fun member =>
            List.find?_eq_none.1 found _ ((members _).2 ⟨char, member, rfl⟩) ((applied char).2 opens)
          simp [absent]
  | some text =>
      obtain ⟨char, member, rfl⟩ := (members text).1 (List.mem_of_find?_eq_some found)
      simp [(applied char).1 (List.find?_some found), member]

/-- Asking whether the next character belongs to a set and looking for each of its characters as a literal come to
the same, however the literals are listed, and also if their bytes are compared one by one. -/
theorem oneOfLiterals_of_singletons (set : String) (texts : List String) (cursor : Cursor)
    (members : ∀ text, text ∈ texts ↔ ∃ char ∈ set.toList, text = String.singleton char) :
    (oneOfLiterals texts).matcher cursor = (oneCharOf set).matcher cursor ∧
      firstLiteralEncoded texts cursor = charBytewise set cursor := by
  have found : texts.find? (applies cursor.rest) =
      (cursor.rest.head?.filter (· ∈ set.toList)).map String.singleton := find?_singletons members
  rw [oneOfLiterals_find, firstLiteralEncoded_eq, firstLiteralBytewise_find, found]
  simp only [matcher, charMatcher, charBytewise, Cursor.peek]
  cases opens : cursor.rest with
  | nil => exact ⟨rfl, rfl⟩
  | cons char rest =>
      have text : cursor.textOf 1 = String.singleton char := by simp [Cursor.textOf, opens]
      simp only [List.head?_cons, List.contains_eq_mem, decide_eq_true_eq]
      by_cases member : char ∈ set.toList
      · rw [if_pos member, if_pos member, Option.filter_some_pos (by simpa using member)]
        simp [ofLiteral, Cursor.takeText, text]
      · rw [if_neg member, if_neg member, Option.filter_some_neg (by simpa using member)]
        exact ⟨rfl, rfl⟩

/-- Arrows of three bytes that share the first two of them, and a letter of two bytes that is listed twice. -/
theorem oneOfLiterals_of_singletons_arrows :
    let texts := ["é", "→", "é"]
    let cursor := (Cursor.ofString "é→←").forward 1
    (∀ text, text ∈ texts ↔ ∃ char ∈ "→é".toList, text = String.singleton char) ∧
      (oneOfLiterals texts).matcher cursor = (oneCharOf "→é").matcher cursor ∧
      (oneOfLiterals texts).matcher cursor = cursor.take 1 (some "→") ∧
      firstLiteralEncoded texts (cursor.forward 1) = .ok (.noMatch, cursor.forward 1) := by
  intro texts cursor
  have members (text : String) : text ∈ texts ↔ ∃ char ∈ "→é".toList, text = String.singleton char := by
    simp only [texts, List.mem_cons, List.not_mem_nil]
    constructor
    · rintro (rfl | rfl | rfl | no)
      exacts [⟨'é', by decide, rfl⟩, ⟨'→', by decide, rfl⟩, ⟨'é', by decide, rfl⟩, no.elim]
    · rintro ⟨char, member, rfl⟩
      have listed : char = '→' ∨ char = 'é' := by simpa using member
      rcases listed with rfl | rfl
      · exact .inr (.inl rfl)
      · exact .inl rfl
  have same := oneOfLiterals_of_singletons "→é" texts
  refine ⟨members, (same cursor members).1, by decide +kernel, ?_⟩
  rw [(same (cursor.forward 1) members).2]
  rfl

end Primitive

end LexKit
