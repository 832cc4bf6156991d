import LexKit.Pattern
import LexKit.Proofs.Regex.Enclosing
import LexKit.Proofs.Regex.Tying

/-!
# Wrapping a pattern

A pattern that can be read by itself is read in the same way inside a group around it: its own groups are all closed
when its text ends, so the parenthesis behind it closes the group around it, and what is put in front is put in front
of all of it. Only where the text ends in a comment is the group around it left open.
-/

namespace LexKit.Regex.Reader

variable {reader next last : Reader} {text rest left : List Char} {char : Char} {fuel : Nat}

/-! ## In front of the parenthesis -/

theorem repeat?_of_head?_ne {least : Nat} {most : Option Nat} {ahead : List Char} (plain : ahead.head? ≠ some '?') :
    reader.repeat? least most ahead text =
      (reader.group.repeat? least most (reader.greedy false)).bind fun group =>
        some ({ reader with group := group }, text) := by
  unfold repeat?
  split
  rename_i start
  split at start
  · exact (plain rfl).elim
  · cases start
    rfl

theorem repeat?_keeps (reader : Reader) (least : Nat) (most : Option Nat) {ahead ahead' : List Char}
    (marks : ∀ rest, ahead = '?' :: rest → ahead' = '?' :: (rest ++ [')']))
    (plain : ahead.head? ≠ some '?' → ahead'.head? ≠ some '?') (text : List Char) :
    Keeps (reader.repeat? least most ahead text) (reader.repeat? least most ahead' (text ++ [')'])) := by
  by_cases marked : ahead.head? = some '?'
  · obtain ⟨rest, rfl⟩ := List.head?_eq_some_iff.1 marked
    rw [marks rest rfl]
    exact .guard fun _ => .reads _ rest
  · rw [repeat?_of_head?_ne marked, repeat?_of_head?_ne (plain marked)]
    exact .guard fun _ => .reads _ text

theorem repeat?_keeps_next (reader : Reader) (least : Nat) (most : Option Nat) (text : List Char) :
    Keeps (reader.repeat? least most text text) (reader.repeat? least most (text ++ [')']) (text ++ [')'])) := by
  refine repeat?_keeps reader least most ?_ (mt (head?_parenthesis (by decide) text).1) text
  rintro rest rfl
  rfl

theorem repeat?_keeps_skip (reader : Reader) (least : Nat) (most : Option Nat) (text : List Char) :
    Keeps (reader.repeat? least most (reader.flags.skip text) text)
      (reader.repeat? least most (reader.flags.skip (text ++ [')'])) (text ++ [')'])) := by
  refine repeat?_keeps reader least most (fun rest marked => Flags.skip_of_cons marked _) ?_ text
  intro plain
  cases ahead : reader.flags.skip text with
  | nil => rcases Flags.skip_of_nil ahead with ahead' | ahead' <;> simp [ahead']
  | cons char rest =>
      rw [ahead] at plain
      rwa [Flags.skip_of_cons ahead]

theorem readCount?_keeps (flags : Flags) (text : List Char) :
    Keeps (readCount? flags text) (readCount? flags (text ++ [')'])) := by
  unfold readCount?
  rw [dropWhile_parenthesis]
  cases run : flags.span Char.isDigit (text.dropWhile Unicode.isBlank) with
  | mk digits left =>
    cases left with
    | nil => simpa using .fails _
    | cons stop rest =>
        rw [Flags.span_of_stop run]
        simp only
        split
        · exact .fails _
        · rw [← List.cons_append, dropWhile_parenthesis]
          cases (stop :: rest).dropWhile Unicode.isBlank with
          | nil => exact .fails _
          | cons stop rest => exact .reads (_, stop) rest

theorem readCount?_skip_keeps (flags : Flags) (text : List Char) :
    Keeps (readCount? flags (flags.skip text)) (readCount? flags (flags.skip (text ++ [')']))) := by
  refine flags.skip_keeps ?_ (readCount?_keeps flags) text
  unfold readCount? Flags.span
  cases flags.verbose <;> rfl

theorem readMost?_keeps (reader : Reader) (least : Nat) (text : List Char) :
    Keeps (reader.readMost? least text) (reader.readMost? least (text ++ [')'])) := by
  unfold readMost?
  refine (readCount?_skip_keeps _ text).bind fun ⟨most, stop⟩ rest => ?_
  simp only
  split
  · exact repeat?_keeps_skip reader _ _ rest
  · exact .fails _

theorem readRounds?_keeps (reader : Reader) (text : List Char) :
    Keeps (reader.readRounds? text) (reader.readRounds? (text ++ [')'])) := by
  unfold readRounds?
  refine (readCount?_skip_keeps _ text).bind fun ⟨least, stop⟩ rest => ?_
  simp only
  split
  · exact repeat?_keeps_skip reader _ _ rest
  · have bounded := readMost?_keeps reader least rest
    cases ahead : reader.flags.skip rest with
    | nil => rcases Flags.skip_of_nil ahead with ahead' | ahead' <;> rw [ahead'] <;> exact bounded
    | cons char rest =>
        rw [Flags.skip_of_cons ahead]
        by_cases brace : char = '\x7d'
        · subst brace
          exact repeat?_keeps_skip reader _ _ rest
        · simpa [brace] using bounded
  · exact .fails _

theorem readName?_keeps (reader : Reader) (text : List Char) :
    Keeps (reader.readName? text) (reader.readName? (text ++ [')'])) := by
  unfold readName?
  rw [List.span_eq_takeWhile_dropWhile, List.span_eq_takeWhile_dropWhile]
  cases after : text.dropWhile (· != '>') with
  | nil => cases text.takeWhile (· != '>') <;> exact .fails _
  | cons stop rest =>
      obtain ⟨same, behind⟩ := takeWhile_append (by simp [after] : text.dropWhile (· != '>') ≠ []) [')']
      rw [same, behind, after]
      cases text.takeWhile (· != '>') with
      | nil => exact .fails _
      | cons first name =>
          simp only [List.cons_append]
          split
          · exact .reads _ rest
          · exact .fails _

theorem readFlags?_keeps (reader : Reader) (text : List Char) :
    Keeps (reader.readFlags? text) (reader.readFlags? (text ++ [')'])) := by
  unfold readFlags?
  cases reads : reader.flags.read? [] text with
  | none => exact .fails _
  | some result =>
      obtain ⟨flags, last, rest⟩ := result
      have starts : (text ++ [')']).head? = text.head? := by
        cases text with
        | nil => cases reads
        | cons => rfl
      rw [Flags.read?_append _ _ reads, starts]
      simp only [Option.bind_eq_bind, Option.bind_some]
      split
      · exact .reads _ rest
      · split
        · exact .fails _
        · exact .reads _ rest

theorem readGroup?_keeps (reader : Reader) (text : List Char) :
    Keeps (reader.readGroup? text) (reader.readGroup? (text ++ [')'])) := by
  have plain : Keeps (some (reader.openGroup reader.flags, text))
      (some (reader.openGroup reader.flags, text ++ [')'])) := .reads _ text
  unfold readGroup?
  cases ahead : reader.flags.skip text with
  | nil => rcases Flags.skip_of_nil ahead with ahead' | ahead' <;> rw [ahead'] <;> exact plain
  | cons char rest =>
      rw [Flags.skip_of_cons ahead]
      by_cases mark : char = '?'
      case neg => simpa [mark] using plain
      subst mark
      -- A group that begins with a mark goes on with at least one more character, which the parenthesis cannot be.
      cases rest with
      | nil => exact .fails _
      | cons second rest =>
          have flags := readFlags?_keeps reader (second :: rest)
          by_cases look : second = '=' ∨ second = '!'
          · rcases look with rfl | rfl <;> exact .fails _
          rw [not_or] at look
          by_cases name : second = '<'
          · subst name
            cases rest with
            | nil => exact .fails _
            | cons third rest =>
                by_cases lookBehind : third = '=' ∨ third = '!'
                · rcases lookBehind with rfl | rfl <;> exact .fails _
                rw [not_or] at lookBehind
                simpa [lookBehind] using readName?_keeps reader (third :: rest)
          by_cases name' : second = 'P'
          · subst name'
            cases rest with
            | nil => exact .fails _
            | cons third rest =>
                by_cases opens : third = '<'
                · subst opens
                  exact readName?_keeps reader rest
                · simpa [opens] using flags
          · simpa [look, name, name'] using flags

theorem readItem?_keeps (reader : Reader) (char : Char) (text : List Char) :
    Keeps (reader.readItem? char text) (reader.readItem? char (text ++ [')'])) := by
  unfold readItem?
  split
  · exact readGroup?_keeps reader text
  · exact .map _ id text
  · exact .reads _ text
  · exact (Bracket.read?_keeps _ text).bind fun nested rest => .reads _ rest
  · exact repeat?_keeps_next reader _ _ text
  · exact repeat?_keeps_next reader _ _ text
  · exact repeat?_keeps_next reader _ _ text
  · exact readRounds?_keeps reader text
  · exact (Atom.readEscape?_keeps _ text).bind fun atom rest => .guard fun _ => .reads _ rest
  · exact .guard fun _ => .reads _ text
  · exact .reads _ text
  · exact .reads _ text
  · exact .guard fun _ => .reads _ text

/-! ## Inside other groups -/

def under (groups : List Group) (reader : Reader) : Reader := { reader with outer := reader.outer ++ groups }

variable (groups : List Group)

@[simp] theorem under_flags (reader : Reader) : (reader.under groups).flags = reader.flags := rfl

@[simp] theorem under_nil (reader : Reader) : reader.under [] = reader := by
  simp [under]

theorem repeat?_under (reader : Reader) (least : Nat) (most : Option Nat) (ahead text : List Char) :
    (reader.under groups).repeat? least most ahead text =
      (reader.repeat? least most ahead text).map (Prod.map (under groups) id) := by
  unfold repeat?
  split
  simp only [Option.bind_eq_bind, Option.map_bind]
  rfl

theorem readMost?_under (reader : Reader) (least : Nat) (text : List Char) :
    (reader.under groups).readMost? least text = (reader.readMost? least text).map (Prod.map (under groups) id) := by
  unfold readMost?
  simp only [under_flags, repeat?_under, Option.bind_eq_bind, Option.map_bind]
  congr 1
  funext ⟨⟨most, stop⟩, rest⟩
  simp only [Function.comp]
  split <;> rfl

theorem readRounds?_under (reader : Reader) (text : List Char) :
    (reader.under groups).readRounds? text = (reader.readRounds? text).map (Prod.map (under groups) id) := by
  unfold readRounds?
  simp only [under_flags, repeat?_under, readMost?_under, Option.bind_eq_bind, Option.map_bind]
  congr 1
  funext ⟨⟨least, stop⟩, rest⟩
  simp only [Function.comp]
  split
  · rfl
  · split <;> rfl
  · rfl

theorem readName?_under (reader : Reader) (text : List Char) :
    (reader.under groups).readName? text = (reader.readName? text).map (Prod.map (under groups) id) := by
  have names : (reader.under groups).names = reader.names := rfl
  unfold readName?
  split
  · simp only [names]
    split <;> rfl
  · rfl

theorem readFlags?_under (reader : Reader) (text : List Char) :
    (reader.under groups).readFlags? text = (reader.readFlags? text).map (Prod.map (under groups) id) := by
  unfold readFlags?
  simp only [under_flags, Option.bind_eq_bind, Option.map_bind]
  congr 1
  funext ⟨flags, last, rest⟩
  simp only [Function.comp]
  split
  · rfl
  · split <;> rfl

theorem readGroup?_under (reader : Reader) (text : List Char) :
    (reader.under groups).readGroup? text = (reader.readGroup? text).map (Prod.map (under groups) id) := by
  unfold readGroup?
  simp only [under_flags, readName?_under, readFlags?_under]
  split <;> rfl

theorem closeGroup?_under (reader : Reader) (inside : reader.outer ≠ []) :
    (reader.under groups).closeGroup? = reader.closeGroup?.map (under groups) := by
  unfold closeGroup? under
  cases outer : reader.outer with
  | nil => exact absurd outer inside
  | cons parent outer => rfl

/-- As long as its own groups are there to be closed, a reader takes no notice of more groups around them. -/
theorem readItem?_under (reader : Reader) (char : Char) (text : List Char)
    (inside : char = ')' → reader.outer ≠ []) :
    (reader.under groups).readItem? char text =
      (reader.readItem? char text).map (Prod.map (under groups) id) := by
  unfold readItem?
  split
  case h_1 => exact readGroup?_under ..
  case h_2 =>
    rw [closeGroup?_under groups reader (inside rfl), Option.map_map, Option.map_map]
    rfl
  case h_5 | h_6 | h_7 => exact repeat?_under ..
  case h_8 => exact readRounds?_under ..
  case h_4 | h_9 | h_10 | h_13 =>
    simp only [Option.bind_eq_bind, Option.map_bind, Function.comp_def]
    rfl
  all_goals rfl

/-- An item that is read by itself is read in front of the parenthesis too, inside any groups. -/
theorem readItem?_enclosed (item : reader.readItem? char rest = some (next, left)) :
    (reader.under groups).readItem? char (rest ++ [')']) = some (next.under groups, left ++ [')']) := by
  have inside : char = ')' → reader.outer ≠ [] := by
    rintro rfl outermost
    simp [readItem?, closeGroup?, outermost] at item
  have keeps := readItem?_keeps reader char rest
  generalize item' : reader.readItem? char (rest ++ [')']) = enclosed at keeps
  rw [item] at keeps
  cases keeps with
  | reads => rw [readItem?_under groups reader char _ inside, item']; rfl

/-! ## From item to item -/

/-- Reading comes from one place of a text to another: there are items between them, and blanks and comments in front
of each. -/
inductive Reaches : Reader → List Char → Reader → List Char → Prop
  | here (reader : Reader) (text : List Char) : Reaches reader text reader text
  | item {reader next last : Reader} {text rest left later : List Char} {char : Char} :
      reader.flags.skip text = char :: rest → reader.readItem? char rest = some (next, left) →
      Reaches next left last later → Reaches reader text last later

theorem Reaches.end_eq {last' : Reader} {later later' : List Char} (reaches : Reaches reader text last later)
    (ends : last.flags.skip later = []) (reaches' : Reaches reader text last' later')
    (ends' : last'.flags.skip later' = []) : last' = last ∧ later' = later := by
  induction reaches with
  | here reader text =>
      cases reaches' with
      | here => exact ⟨rfl, rfl⟩
      | item starts => cases starts.symm.trans ends
  | item starts item _ ih =>
      cases reaches' with
      | here => cases starts.symm.trans ends'
      | item starts' item' reaches' =>
          cases starts.symm.trans starts'
          cases item.symm.trans item'
          exact ih ends reaches'

theorem readFrom?_of_nil (ends : reader.flags.skip text = []) (fuel : Nat) :
    readFrom? (fuel + 1) reader text = some reader := by
  rw [readFrom?, ends]

theorem readFrom?_of_cons (starts : reader.flags.skip text = char :: rest) (fuel : Nat) :
    readFrom? (fuel + 1) reader text =
      (reader.readItem? char rest).bind fun (reader, rest) => readFrom? fuel reader rest := by
  rw [readFrom?, starts]
  rfl

theorem readFrom?_parenthesis (starts : reader.flags.skip text = [')']) (fuel : Nat) :
    readFrom? (fuel + 2) reader text = reader.closeGroup? := by
  rw [readFrom?_of_cons starts, readItem?]
  cases reader.closeGroup? with
  | none => rfl
  | some closed =>
      have nothing : closed.flags.skip [] = [] := by
        unfold Flags.skip
        split <;> rfl
      exact readFrom?_of_nil nothing fuel

/-- A text that is read by itself is read to its end in front of the parenthesis too. Then the parenthesis closes the
group around it, whichever there is, or is left out with the blanks and comments. -/
theorem readFrom?_enclosed (reads : readFrom? fuel reader text = some last) :
    ∃ left, Reaches reader text last left ∧ last.flags.skip left = [] ∧ ∀ groups fuel', fuel < fuel' →
      readFrom? fuel' (reader.under groups) (text ++ [')']) =
        if last.flags.skip (left ++ [')']) = [] then some (last.under groups) else (last.under groups).closeGroup? := by
  -- The induction is on the items; each of them leaves the two texts alike, so only their ends differ.
  induction fuel generalizing reader text with
  | zero => cases reads
  | succ fuel ih =>
      cases ahead : reader.flags.skip text with
      | nil =>
          obtain rfl : reader = last := by
            rw [readFrom?_of_nil ahead] at reads
            exact Option.some.inj reads
          refine ⟨text, .here reader text, ahead, fun groups fuel' enough => ?_⟩
          obtain ⟨fuel', rfl⟩ : ∃ less, fuel' = less + 2 := ⟨fuel' - 2, by omega⟩
          rcases Flags.skip_of_nil ahead with hidden | shown
          · rw [if_pos hidden]
            exact @readFrom?_of_nil (reader.under groups) _ hidden (fuel' + 1)
          · rw [if_neg (by simp [shown])]
            exact @readFrom?_parenthesis (reader.under groups) _ shown fuel'
      | cons char rest =>
          rw [readFrom?_of_cons ahead] at reads
          obtain ⟨⟨next, later⟩, item, reads⟩ := Option.bind_eq_some_iff.1 reads
          obtain ⟨left, reaches, ends, enclosed⟩ := ih reads
          refine ⟨left, .item ahead item reaches, ends, fun groups fuel' enough => ?_⟩
          obtain ⟨fuel', rfl⟩ : ∃ less, fuel' = less + 1 := ⟨fuel' - 1, by omega⟩
          have ahead' : (reader.under groups).flags.skip (text ++ [')']) = char :: (rest ++ [')']) :=
            Flags.skip_of_cons ahead _
          rw [readFrom?_of_cons ahead', readItem?_enclosed groups item]
          exact enclosed groups fuel' (Nat.lt_of_succ_lt_succ enough)

/-! ## Comments at the end -/

/-- A text ends in a comment if, at a place between two of its items, verbose mode is on and, behind blanks and other
comments, there is the mark of a comment with no end of line behind it. -/
def EndsInComment (text : List Char) : Prop :=
  ∃ reader blank comment, Reaches initial text reader (blank ++ '#' :: comment) ∧ reader.flags.verbose = true ∧
    skipVerbose false blank = [] ∧ '\n' ∉ comment

theorem skipVerbose_comment (noEnd : '\n' ∉ text) : skipVerbose true text = [] := by
  induction text with
  | nil => rfl
  | cons char text ih =>
      rw [List.mem_cons, not_or] at noEnd
      have other : (char != '\n') = true := by simpa using Ne.symm noEnd.1
      rw [skipVerbose, other, ih noEnd.2]

theorem skipVerbose_append_of_nil {comment : Bool} (nothing : skipVerbose comment text = []) (more : List Char) :
    ∃ inside, skipVerbose comment (text ++ more) = skipVerbose inside more := by
  induction text generalizing comment with
  | nil => exact ⟨comment, rfl⟩
  | cons char text ih =>
      cases comment with
      | true => exact ih nothing
      | false =>
          simp only [skipVerbose, List.cons_append] at nothing ⊢
          split_ifs at nothing ⊢
          · exact ih nothing
          · exact ih nothing

theorem skipVerbose_mark {blank comment : List Char} (nothing : skipVerbose false blank = [])
    (noEnd : '\n' ∉ comment) : skipVerbose false (blank ++ '#' :: comment) = [] := by
  have plain : Unicode.isBlank '#' = false := by decide
  obtain ⟨inside, same⟩ := skipVerbose_append_of_nil nothing ('#' :: comment)
  rw [same]
  cases inside <;> simp [skipVerbose, plain, skipVerbose_comment noEnd]

/-- Only a comment takes the parenthesis in: one that the text goes on with, or one that begins in it. -/
theorem exists_mark {inside : Bool} (hidden : skipVerbose inside (text ++ [')']) = []) :
    inside = true ∧ '\n' ∉ text ∨
      ∃ blank comment, text = blank ++ '#' :: comment ∧ skipVerbose inside blank = [] ∧ '\n' ∉ comment := by
  induction text generalizing inside with
  | nil =>
      have plain : Unicode.isBlank ')' = false := by decide
      cases inside with
      | true => exact .inl ⟨rfl, List.not_mem_nil⟩
      | false => simp [skipVerbose, plain] at hidden
  | cons char text ih =>
      have later {inside' : Bool} (step : ∀ rest, skipVerbose inside (char :: rest) = skipVerbose inside' rest)
          (mark : ∃ blank comment, text = blank ++ '#' :: comment ∧ skipVerbose inside' blank = [] ∧
            '\n' ∉ comment) :
          ∃ blank comment, char :: text = blank ++ '#' :: comment ∧ skipVerbose inside blank = [] ∧
            '\n' ∉ comment := by
        obtain ⟨blank, comment, rfl, nothing, noEnd⟩ := mark
        exact ⟨char :: blank, comment, rfl, (step blank).trans nothing, noEnd⟩
      cases inside with
      | true =>
          rcases ih hidden with ⟨goesOn, noEnd⟩ | mark
          · have other : '\n' ≠ char := Ne.symm (by simpa using goesOn)
            exact .inl ⟨rfl, by simp [other, noEnd]⟩
          · exact .inr (later (fun _ => rfl) mark)
      | false =>
          simp only [List.cons_append, skipVerbose] at hidden
          split_ifs at hidden with blank mark
          · rcases ih hidden with ⟨goesOn, -⟩ | mark
            · cases goesOn
            · exact .inr (later (fun rest => by rw [skipVerbose, if_pos blank]) mark)
          · obtain rfl : char = '#' := by simpa using mark
            rcases ih hidden with ⟨-, noEnd⟩ | mark
            · exact .inr ⟨[], text, rfl, rfl, noEnd⟩
            · exact .inr (later (fun _ => rfl) mark)

/-- What is left at the end of a text shows whether a comment takes the parenthesis in. -/
theorem endsInComment_iff (reaches : Reaches initial text last left) (ends : last.flags.skip left = []) :
    EndsInComment text ↔ last.flags.skip (left ++ [')']) = [] := by
  constructor
  · rintro ⟨reader, blank, comment, reaches', verbose, nothing, noEnd⟩
    have ends' : reader.flags.skip (blank ++ '#' :: comment) = [] := by
      rw [Flags.skip, if_pos verbose, skipVerbose_mark nothing noEnd]
    obtain ⟨rfl, rfl⟩ := reaches.end_eq ends reaches' ends'
    rw [Flags.skip, if_pos verbose, List.append_assoc, List.cons_append]
    exact skipVerbose_mark nothing (by simp [noEnd])
  · intro hidden
    have verbose : last.flags.verbose = true := by
      by_contra off
      rw [Flags.skip, if_neg off] at hidden
      exact List.append_ne_nil_of_right_ne_nil left (List.cons_ne_nil ')' []) hidden
    rw [Flags.skip, if_pos verbose] at hidden
    obtain ⟨impossible, -⟩ | ⟨blank, comment, rfl, nothing, noEnd⟩ := exists_mark hidden
    · cases impossible
    · exact ⟨last, blank, comment, reaches, verbose, nothing, noEnd⟩

/-! ## The whole pattern -/

/-- What stands around the group around a pattern: the start of the text, in front of it. -/
def anchored : Group := ⟨{}, [], [⟨.look .textStart, 0, true⟩]⟩

theorem body_anchored_add (node : Node) (depth : Nat) :
    (anchored.add node depth).body = ⟨.seq (.look .textStart) node, depth + 1, true⟩ := by
  simp [anchored, Group.add, Group.body, Group.sequence, Node.sequence, Nat.add_comm]

theorem read?_anchor_eq (text : List Char) :
    read? (Pattern.anchor text) =
      (readFrom? (text.length + 4) (initial.under [anchored]) (text ++ [')'])).bind finish? := by
  have length : (Pattern.anchor text).length + 1 = text.length + 4 + 2 := by
    simp [Pattern.anchor]
  rw [read?, length]
  rfl

/-- A pattern that is read by itself, wrapped: the start of the text stands in front of a group around its tree, unless
it ends in a comment. -/
theorem read?_anchor {own : Part} (alone : read? text = some own) :
    (¬ EndsInComment text ∧
      read? (Pattern.anchor text) = some ⟨.seq (.look .textStart) own.node, own.depth + 2, true⟩) ∨
    EndsInComment text ∧ read? (Pattern.anchor text) = none := by
  obtain ⟨last, reads, finishes⟩ := Option.bind_eq_some_iff.1 alone
  unfold finish? at finishes
  split at finishes
  case h_2 => cases finishes
  rename_i closed
  cases finishes
  obtain ⟨left, reaches, ends, enclosed⟩ := readFrom?_enclosed reads
  rw [endsInComment_iff reaches ends, read?_anchor_eq, enclosed _ _ (by omega)]
  by_cases hidden : last.flags.skip (left ++ [')']) = []
  · refine .inr ⟨hidden, ?_⟩
    rw [if_pos hidden, Option.bind_some, finish?, under, closed]
    rfl
  · refine .inl ⟨hidden, ?_⟩
    rw [if_neg hidden, closeGroup?, under, closed]
    exact congrArg some (body_anchored_add last.group.body.node (last.group.body.depth + 1))

/-- The parenthesis is not seen behind a text that ends in a comment. -/
theorem EndsInComment.read?_parenthesis {own : Part} (ends : EndsInComment text) (alone : read? text = some own) :
    read? (text ++ [')']) = some own := by
  obtain ⟨last, reads, finishes⟩ := Option.bind_eq_some_iff.1 alone
  obtain ⟨left, reaches, nothing, enclosed⟩ := readFrom?_enclosed reads
  have whole := enclosed [] ((text ++ [')']).length + 1) (by simp)
  rw [if_pos ((endsInComment_iff reaches nothing).1 ends), under_nil, under_nil] at whole
  exact Option.bind_eq_some_iff.2 ⟨last, whole, finishes⟩

/-- A pattern that is read by itself, wrapped: if it is read at all, its automaton is tied to the start of the
text. -/
theorem ofNode_anchor {own whole : Part} (alone : read? text = some own)
    (wrapped : read? (Pattern.anchor text) = some whole) :
    Automaton.ofNode whole.node = (Automaton.ofNode own.node).tie := by
  rcases read?_anchor alone with ⟨-, reads⟩ | ⟨-, unread⟩
  · rw [reads, Option.some.injEq] at wrapped
    rw [← wrapped, Automaton.ofNode_tied]
  · rw [unread] at wrapped
    cases wrapped

end LexKit.Regex.Reader
