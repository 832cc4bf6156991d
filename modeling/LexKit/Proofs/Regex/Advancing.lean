import LexKit.Regex.Preference

/-!
# Loops that advance

Numbers on a trail matter only to loops that may go round without a character. Where there are none of these, the
ways through a tree with numbers are the ways without memory.

What could hinder a way is a number that it meets twice between two characters. So each part of a tree is known by the
numbers that it passes before its first character and those that it passes behind its last one: a part that cannot
match the empty text has none of them in common, and then a loop around it can go from the end of one round to the
start of the next.
-/

namespace LexKit.Regex

/-! ## What comes of a place -/

/-- Unless the trail has one of some numbers, it makes no difference to what comes of a place. -/
def AgreesOff (numbers : Nat → Prop) (next : Onward) (done : Plain) : Prop :=
  ∀ before rest trail, (∀ number ∈ trail, ¬ numbers number) → next before rest trail = done before rest

namespace AgreesOff

variable {numbers more : Nat → Prop} {next next' : Onward} {done done' : Plain} {number : Nat}

theorem mono (agrees : AgreesOff numbers next done) (fewer : ∀ number, numbers number → more number) :
    AgreesOff more next done := fun before rest trail off =>
  agrees before rest trail fun number member found => off number member (fewer number found)

theorem past (agrees : AgreesOff numbers next done) (other : ¬ numbers number) :
    AgreesOff (fun n => n = number ∨ numbers n) (.past number next) done := by
  intro before rest trail off
  have fresh : number ∉ trail := fun member => off number member (.inl rfl)
  rw [Onward.past, if_neg fresh]
  apply agrees
  intro n member
  rcases List.mem_cons.1 member with rfl | member
  · exact other
  · exact fun found => off n member (.inr found)

theorem orElse (agrees : AgreesOff numbers next done) (agrees' : AgreesOff numbers next' done') :
    AgreesOff numbers (next.orElse next') (done.orElse done') := by
  intro before rest trail off
  rw [Onward.orElse, Plain.orElse, agrees before rest trail off, agrees' before rest trail off]

theorem decide (agrees : AgreesOff numbers next done) (agrees' : AgreesOff numbers next' done') (greedy : Bool) :
    AgreesOff numbers (.decide greedy next next') (.decide greedy done done') := by
  cases greedy with
  | false => exact agrees'.orElse agrees
  | true => exact agrees.orElse agrees'

end AgreesOff

/-! ## Parts -/

/-- A part whose numbers begin at `number`: those of `entry` are passed before its first character, and those of
`exit` behind its last one. Its ways are those without memory, if this is true of what follows it for any trail with
numbers of `exit`. -/
structure Rim (ways : Ways) (size : Nat) (nullable : Bool) (plain : Plain → Plain) (number : Nat)
    (entry exit : Nat → Prop) : Prop where
  bounds : ∀ n, entry n ∨ exit n → number ≤ n ∧ n < number + size
  apart : nullable = false → ∀ n, entry n → ¬ exit n
  agrees : ∀ {numbers next done}, (∀ n, numbers n → ¬ exit n) → AgreesOff numbers next done →
    AgreesOff (fun n => entry n ∨ nullable = true ∧ numbers n) (ways number next) (plain done)

def Unhindered (ways : Ways) (size : Nat) (nullable : Bool) (plain : Plain → Plain) : Prop :=
  ∀ number, ∃ entry exit, Rim ways size nullable plain number entry exit

theorem Plain.times_succ (body : Plain → Plain) (count : Nat) (next : Plain) :
    times body (count + 1) next = times body count (body next) := by
  induction count with
  | zero => rfl
  | succ count ih => rw [times, ih, times]

namespace Unhindered

variable {ways ways' : Ways} {size size' : Nat} {nullable nullable' : Bool} {plain plain' : Plain → Plain}

theorem nothing : Unhindered .nothing 0 true id := by
  intro number
  refine ⟨fun _ => False, fun _ => False, nofun, nofun, fun _ agrees => ?_⟩
  exact agrees.mono fun n found => .inr ⟨rfl, found⟩

theorem char (members : CharClass) : Unhindered (fun _ next => .char members next) 1 false (.char members) := by
  intro number
  refine ⟨fun _ => False, fun _ => False, nofun, nofun, fun _ agrees before rest trail _ => ?_⟩
  cases rest with
  | nil => rfl
  | cons char rest =>
      simp only [Onward.char, Plain.char]
      rw [agrees (some char) rest [] nofun]

theorem look (assertion : Assertion) :
    Unhindered (fun number next => .past number (.look assertion next)) 1 true (.look assertion) := by
  intro number
  refine ⟨(· = number), (· = number), by omega, nofun, fun {numbers next done} other agrees => ?_⟩
  have looks : AgreesOff numbers (.look assertion next) (.look assertion done) := by
    intro before rest trail off
    simp only [Onward.look, Plain.look]
    rw [agrees before rest trail off]
  exact (looks.past fun found => other number found rfl).mono fun n found => by simpa using found

theorem seq (first : Unhindered ways size nullable plain) (second : Unhindered ways' size' nullable' plain') :
    Unhindered (ways.seq ways' size') (size + size') (nullable && nullable') (fun next => plain (plain' next)) := by
  intro number
  obtain ⟨entry', exit', second⟩ := second number
  obtain ⟨entry, exit, first⟩ := first (number + size')
  have bounds := first.bounds
  have bounds' := second.bounds
  refine ⟨fun n => entry n ∨ nullable = true ∧ entry' n, fun n => exit' n ∨ nullable' = true ∧ exit n,
    by grind, ?_, fun {numbers next done} other agrees => ?_⟩
  · have apart := first.apart
    have apart' := second.apart
    grind
  · have behind := second.agrees (fun n found left => other n found (.inl left)) agrees
    exact (first.agrees (by grind) behind).mono (by grind)

theorem alt (first : Unhindered ways size nullable plain) (second : Unhindered ways' size' nullable' plain') :
    Unhindered
      (fun number next => .past (number + size' + size) (.orElse (ways (number + size') next) (ways' number next)))
      (size + size' + 1) (nullable || nullable') (fun next => (plain next).orElse (plain' next)) := by
  intro number
  obtain ⟨entry', exit', second⟩ := second number
  obtain ⟨entry, exit, first⟩ := first (number + size')
  have bounds := first.bounds
  have bounds' := second.bounds
  refine ⟨fun n => n = number + size' + size ∨ entry n ∨ entry' n,
    fun n => exit n ∨ exit' n ∨ (nullable || nullable') = true ∧ n = number + size' + size,
    by grind, ?_, fun {numbers next done} other agrees => ?_⟩
  · have apart := first.apart
    have apart' := second.apart
    grind
  · let inside := fun n => (entry n ∨ entry' n) ∨ (nullable || nullable') = true ∧ numbers n
    have left : AgreesOff inside (ways (number + size') next) (plain done) :=
      (first.agrees (fun n found left => other n found (.inl left)) agrees).mono (by grind)
    have right : AgreesOff inside (ways' number next) (plain' done) :=
      (second.agrees (fun n found left => other n found (.inr (.inl left))) agrees).mono (by grind)
    exact ((left.orElse right).past (by grind)).mono (by grind)

theorem optional (part : Unhindered ways size nullable plain) (greedy : Bool) :
    Unhindered (ways.optional size greedy) (size + 1) true (fun next => .decide greedy (plain next) next) := by
  intro number
  obtain ⟨entry, exit, part⟩ := part number
  have bounds := part.bounds
  refine ⟨fun n => n = number + size ∨ entry n, fun n => n = number + size ∨ exit n,
    by grind, nofun, fun {numbers next done} other agrees => ?_⟩
  have inside : AgreesOff (fun n => entry n ∨ numbers n) (ways number next) (plain done) :=
    (part.agrees (fun n found left => other n found (.inr left)) agrees).mono (by grind)
  have both := inside.decide (agrees.mono (by grind)) greedy
  exact (both.past (by grind)).mono (by grind)

theorem times (body : Unhindered ways size nullable plain) (count : Nat) :
    Unhindered (ways.times size count) (count * size) (count == 0 || nullable) (.times plain count) := by
  induction count with
  | zero =>
      rw [Nat.zero_mul]
      exact nothing
  | succ count ih =>
      have parts := body.seq ih
      have same : (nullable && (count == 0 || nullable)) = (count + 1 == 0 || nullable) := by
        cases nullable <;> simp
      rw [same, Nat.add_comm size, ← Nat.succ_mul] at parts
      exact parts

theorem upTo (body : Unhindered ways size nullable plain) (greedy : Bool) (count : Nat) :
    Unhindered (ways.upTo size greedy count) (count * (size + 1)) true (.upTo plain greedy count) := by
  induction count with
  | zero =>
      rw [Nat.zero_mul]
      exact nothing
  | succ count ih =>
      have parts := (body.seq ih).optional greedy
      have same : size + count * (size + 1) + 1 = (count + 1) * (size + 1) := by
        rw [Nat.succ_mul]
        omega
      rw [same] at parts
      exact parts

/-- Behind a round the trail has numbers of the exit only, and none of them is met at the entry of the next. -/
theorem loop_agrees {number : Nat} {entry exit numbers : Nat → Prop} {next : Onward} {done : Plain}
    (body : Rim ways size false plain (number + 1) entry exit) (greedy : Bool)
    (other : ∀ n, numbers n → n ≠ number ∧ ¬ exit n) (agrees : AgreesOff numbers next done) :
    AgreesOff (fun n => n = number ∨ entry n ∨ numbers n)
      (Onward.loop (ways (number + 1)) greedy number next) (Plain.loop plain greedy done) := by
  intro before rest
  induction length : rest.length using Nat.strongRecOn generalizing before rest with
  | _ length ih =>
      subst length
      let again : Onward := fun before' rest' trail' =>
        if _shorter : rest'.length < rest.length then
          Onward.loop (ways (number + 1)) greedy number next before' rest' trail'
        else none
      let again' : Plain := fun before' rest' =>
        if _shorter : rest'.length < rest.length then Plain.loop plain greedy done before' rest' else none
      have further : AgreesOff (fun n => n = number ∨ entry n ∨ numbers n) again again' := by
        intro before' rest' trail' off
        by_cases shorter : rest'.length < rest.length
        · simp only [again, again', dif_pos shorter]
          exact ih _ shorter before' rest' rfl trail' off
        · simp only [again, again', dif_neg shorter]
      have bounds := body.bounds
      have apart := body.apart rfl
      have round : AgreesOff (fun n => entry n ∨ numbers n) (ways (number + 1) again) (plain again') :=
        (body.agrees (by grind) further).mono (by grind)
      have both := round.decide (agrees.mono (by grind)) greedy
      have fresh : ¬ (entry number ∨ numbers number) := by grind
      intro trail off
      rw [Onward.loop, Plain.loop]
      exact both.past fresh before rest trail off

theorem zeroOrMore (body : Unhindered ways size false plain) (greedy : Bool) :
    Unhindered (ways.zeroOrMore greedy) (size + 1) true (.loop plain greedy) := by
  intro number
  obtain ⟨entry, exit, body⟩ := body (number + 1)
  have bounds := body.bounds
  refine ⟨fun n => n = number ∨ entry n, fun n => n = number ∨ exit n,
    by grind, nofun, fun {numbers next done} other agrees => ?_⟩
  exact (loop_agrees body greedy (by grind) agrees).mono (by grind)

theorem oneOrMore (body : Unhindered ways size false plain) (greedy : Bool) :
    Unhindered (ways.oneOrMore greedy) (size + 1) false (fun next => plain (.loop plain greedy next)) := by
  intro number
  obtain ⟨entry, exit, body⟩ := body (number + 1)
  have bounds := body.bounds
  have apart := body.apart rfl
  refine ⟨entry, fun n => n = number ∨ exit n, by grind, by grind,
    fun {numbers next done} other agrees => ?_⟩
  have loop := loop_agrees body greedy (by grind) agrees
  exact (body.agrees (by grind) loop).mono (by grind)

theorem rounds (body : Unhindered ways size nullable plain) (greedy : Bool) (least : Nat) (most : Option Nat)
    (bounded : (most.isSome || !nullable) = true) :
    Unhindered (ways.rounds size nullable greedy least most) (Node.roundStates size nullable (least, most))
      (least == 0 || nullable) (.rounds plain greedy least most) := by
  match least, most with
  | least, some most =>
      have parts := (body.times least).seq (body.upTo greedy (most - least))
      rw [Bool.and_true] at parts
      exact parts
  | 0, none =>
      obtain rfl : nullable = false := by simpa using bounded
      exact body.zeroOrMore greedy
  | least + 1, none =>
      obtain rfl : nullable = false := by simpa using bounded
      have parts := (body.times least).seq (body.oneOrMore greedy)
      have same : Plain.rounds plain greedy (least + 1) none =
          fun next => Plain.times plain least (plain (.loop plain greedy next)) :=
        funext fun next => Plain.times_succ plain least (.loop plain greedy next)
      rw [Bool.and_false] at parts
      rw [same]
      exact parts

end Unhindered

/-! ## Rounds without width -/

/-- The body passes no character, and leads on just where a condition holds. -/
def Plain.IsCheck (body : Plain → Plain) (holds : Option Char → List Char → Bool) : Prop :=
  ∀ next before rest, body next before rest = if holds before rest then next before rest else none

namespace Plain.IsCheck

variable {body : Plain → Plain} {holds : Option Char → List Char → Bool}

theorem times (check : IsCheck body holds) (count : Nat) (next : Plain) :
    Plain.times body (count + 1) next = body next := by
  induction count with
  | zero => rfl
  | succ count ih =>
      funext before rest
      rw [Plain.times, check, ih, check]
      split <;> rfl

theorem decide (check : IsCheck body holds) (greedy : Bool) (next : Plain) :
    Plain.decide greedy (body next) next = next := by
  funext before rest
  cases holding : holds before rest <;> cases greedy <;> simp [Plain.decide, Plain.orElse, check next, holding]

theorem upTo (check : IsCheck body holds) (greedy : Bool) (count : Nat) (next : Plain) :
    Plain.upTo body greedy count next = next := by
  induction count with
  | zero => rfl
  | succ count ih => rw [Plain.upTo, ih, check.decide]

theorem loop (check : IsCheck body holds) (greedy : Bool) (done : Plain) : Plain.loop body greedy done = done := by
  funext before rest
  rw [Plain.loop]
  cases greedy <;> simp [Plain.decide, Plain.orElse, check _]

theorem rounds (check : IsCheck body holds) (greedy : Bool) (least : Nat) (most : Option Nat) (next : Plain) :
    Plain.rounds body greedy least most next = Plain.times body least next := by
  cases most with
  | none => rw [Plain.rounds, check.loop]
  | some most => rw [Plain.rounds, check.upTo]

end Plain.IsCheck

namespace Node

end Node

end LexKit.Regex
