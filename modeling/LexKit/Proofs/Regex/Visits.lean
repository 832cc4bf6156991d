import LexKit.Regex.Backtracking

/-!
# Visits

What a search does at one place: it visits states depth first and marks them, and the states in which a thread
can wait are found in order. Backtracking from the same states, which remembers nothing, gives the result of the
first state found there that has one. The reason is that a marked state is either still being left, and then no
way leads through it again, or all that lies behind it has been found.
-/

namespace LexKit.Regex

namespace Marks

theorem insert_of_not_fits {marks : Marks} {number : Nat} (outside : ¬ marks.Fits number) :
    marks.insert number = marks := by
  have same : marks.latest.setIfInBounds number (marks.past + 1) = marks.latest :=
    Array.setIfInBounds_eq_of_size_le (Nat.le_of_not_lt outside)
  cases marks
  simp only [insert, mk.injEq, and_true]
  exact same

theorem fits_of_contains {marks : Marks} {number : Nat} (marked : marks.contains number = true) :
    marks.Fits number := by
  simp only [contains, Array.getD_eq_getD_getElem?, beq_iff_eq] at marked
  cases found : marks.latest[number]? with
  | none => simp [found] at marked
  | some round => exact (Array.getElem?_eq_some_iff.1 found).1

end Marks

namespace Automaton

variable {automaton : Automaton} {before after : Option Char} {rest : List Char} {start fuel state : Nat}
  {states pending trail found : List Nat} {seen last : Marks} {threads : List Thread} {holds : Nat → Prop}

def waits (automaton : Automaton) (state : Nat) : Bool :=
  match automaton.states[state]? with
  | some .accept | some (.consume _ _) => true
  | _ => false

/-- The states that follow without a character, the preferred one first. -/
def ways (automaton : Automaton) (before after : Option Char) (state : Nat) : List Nat :=
  match automaton.states[state]? with
  | some (.split first second) => [first, second]
  | some (.look assertion next) => if assertion.holds before after then [next] else []
  | _ => []

/-- The number of characters that the preferred way from a state passes, if a thread can wait there. -/
def arrival (automaton : Automaton) (rest : List Char) (state : Nat) : Option Nat :=
  match automaton.states[state]? with
  | some .accept => some 0
  | some (.consume members next) =>
      match rest with
      | [] => none
      | char :: rest =>
          if members.mem char then (automaton.backtrack (some char) rest [] next).map (· + 1) else none
  | _ => none

theorem ways_length_le (state : Nat) : (automaton.ways before after state).length ≤ 2 := by
  unfold ways
  split
  · exact Nat.le_refl 2
  · split <;> simp
  · simp

theorem arrival_of_not_waits (rest : List Char) (moves : automaton.waits state = false) :
    automaton.arrival rest state = none := by
  unfold waits at moves
  unfold arrival
  cases found : automaton.states[state]? with
  | none => rfl
  | some one =>
      rw [found] at moves
      cases one with
      | accept | consume => cases moves
      | split | look => rfl

/-! ## Backtracking in one step -/

theorem backtrack_of_mem (passed : state ∈ trail) : automaton.backtrack before rest trail state = none := by
  rw [backtrack, dif_pos passed]

theorem backtrack_of_missing (missing : automaton.states[state]? = none) :
    automaton.backtrack before rest trail state = none := by
  rw [backtrack]
  split
  · rfl
  · split <;> simp_all

/-- A state that is not on the trail gives its own result or that of the first way on that has one. -/
theorem backtrack_of_not_mem (new : state ∉ trail) :
    automaton.backtrack before rest trail state =
      (automaton.arrival rest state).or
        ((automaton.ways before rest.head? state).findSome?
          (automaton.backtrack before rest (state :: trail))) := by
  rw [backtrack, dif_neg new]
  unfold arrival ways
  split
  · rename_i missing
    simp [missing]
  · rename_i accepts
    simp [accepts]
  · rename_i members next consumes
    cases rest with
    | nil => simp [consumes]
    | cons char rest => simp [consumes]
  · rename_i assertion next looks
    simp only [looks, Option.none_or]
    split <;> simp
  · rename_i first second splits
    simp only [splits, Option.none_or, List.findSome?_cons, List.findSome?_nil]
    cases automaton.backtrack before rest (state :: trail) first with
    | some count => rfl
    | none =>
        cases automaton.backtrack before rest (state :: trail) second with
        | some count => rfl
        | none => rfl

/-! ## The visits of a search -/

def Sized (automaton : Automaton) (seen : Marks) : Prop := seen.latest.size = automaton.states.size

theorem Sized.insert (sized : automaton.Sized seen) (state : Nat) : automaton.Sized (seen.insert state) := by
  rw [Sized, Marks.insert, Array.size_setIfInBounds]
  exact sized

theorem Sized.fits_iff (sized : automaton.Sized seen) :
    seen.Fits state ↔ automaton.states[state]? ≠ none := by
  rw [Marks.Fits, sized, ne_eq, Array.getElem?_eq_none_iff, Nat.not_le]

/-- Visits states one after another, with all that each leads to before the next, and leaves out states that are
marked already. The states found are those in which a thread can wait. -/
inductive Visits (automaton : Automaton) (before after : Option Char) :
    List Nat → Marks → List Nat → Marks → Prop
  | done {seen : Marks} : Visits automaton before after [] seen [] seen
  | skips {state : Nat} {states : List Nat} {seen : Marks} {found : List Nat} {last : Marks} :
      (seen.contains state = true ∨ automaton.states[state]? = none) →
      Visits automaton before after states seen found last →
      Visits automaton before after (state :: states) seen found last
  | enters {state : Nat} {states : List Nat} {seen between last : Marks} {inner outer : List Nat} :
      seen.contains state = false → automaton.states[state]? ≠ none →
      Visits automaton before after (automaton.ways before after state) (seen.insert state) inner between →
      Visits automaton before after states between outer last →
      Visits automaton before after (state :: states) seen
        ((if automaton.waits state then [state] else []) ++ (inner ++ outer)) last

theorem explore_of_seen {front : Front} (marked : front.seen.contains state = true) :
    automaton.explore before after start (fuel + 1) (state :: pending) front =
      automaton.explore before after start fuel pending front := by
  simp only [explore, marked, if_true]

theorem explore_of_missing (sized : automaton.Sized seen) (missing : automaton.states[state]? = none) :
    automaton.explore before after start (fuel + 1) (state :: pending) ⟨seen, threads⟩ =
      automaton.explore before after start fuel pending ⟨seen, threads⟩ := by
  have outside : ¬ seen.Fits state := fun fits => sized.fits_iff.1 fits missing
  simp only [explore, missing, Marks.insert_of_not_fits outside, ite_self]

theorem explore_of_new (new : seen.contains state = false) (present : automaton.states[state]? ≠ none) :
    automaton.explore before after start (fuel + 1) (state :: pending) ⟨seen, threads⟩ =
      automaton.explore before after start fuel (automaton.ways before after state ++ pending)
        ⟨seen.insert state, if automaton.waits state then ⟨state, start⟩ :: threads else threads⟩ := by
  simp only [explore, new, Bool.false_eq_true, if_false]
  unfold ways waits
  cases found : automaton.states[state]? with
  | none => exact absurd found present
  | some one =>
      cases one with
      | accept | consume | split => simp
      | look assertion next =>
          simp only [Bool.false_eq_true, if_false]
          split <;> rfl

def unseen (automaton : Automaton) (seen : Marks) : Nat :=
  (List.range automaton.states.size).countP (seen.contains · = false)

theorem unseen_insert_lt (sized : automaton.Sized seen) (new : seen.contains state = false)
    (present : automaton.states[state]? ≠ none) :
    automaton.unseen (seen.insert state) < automaton.unseen seen := by
  have fits := sized.fits_iff.2 present
  have inside : state < automaton.states.size := sized ▸ fits
  refine countP_lt_countP (List.mem_range.2 inside) (fun other _ => ?_) ?_ ?_
  · simp [Marks.contains_insert fits]
  · simp [Marks.contains_insert fits]
  · simp [new]

/-- With enough fuel an exploration makes its visits, and goes on with what was pending. -/
theorem exists_visits (before after : Option Char) (start : Nat) (states pending : List Nat)
    (threads : List Thread) (fuel : Nat) (sized : automaton.Sized seen)
    (enough : 2 * automaton.unseen seen + states.length + pending.length ≤ fuel) :
    ∃ found last left, Visits automaton before after states seen found last ∧ automaton.Sized last ∧
      automaton.unseen last ≤ automaton.unseen seen ∧
      2 * automaton.unseen last + pending.length ≤ left ∧
      automaton.explore before after start fuel (states ++ pending) ⟨seen, threads⟩ =
        automaton.explore before after start left pending
          ⟨last, (found.map (⟨·, start⟩)).reverse ++ threads⟩ := by
  -- Entering a state marks it, so what lies behind it falls to the outer induction; the inner one is on the states.
  induction count : automaton.unseen seen using Nat.strongRecOn
    generalizing states pending seen threads fuel with
  | _ count fewer =>
    subst count
    induction states generalizing threads fuel with
    | nil => exact ⟨[], seen, fuel, .done, sized, Nat.le_refl _, by simpa using enough, rfl⟩
    | cons state states ih =>
      rw [List.length_cons] at enough
      obtain ⟨fuel, rfl⟩ : ∃ less, fuel = less + 1 := ⟨fuel - 1, by omega⟩
      by_cases old : seen.contains state = true ∨ automaton.states[state]? = none
      · obtain ⟨found, last, left, visits, sized', fewer', enough', goesOn⟩ :=
          ih threads fuel (by omega)
        refine ⟨found, last, left, .skips old visits, sized', fewer', enough', ?_⟩
        rw [← goesOn, List.cons_append]
        rcases old with marked | missing
        · exact explore_of_seen marked
        · exact explore_of_missing sized missing
      · rw [not_or, Bool.not_eq_true] at old
        obtain ⟨new, present⟩ := old
        have less := unseen_insert_lt sized new present
        have two : (automaton.ways before after state).length ≤ 2 := ways_length_le state
        let threads' := if automaton.waits state then ⟨state, start⟩ :: threads else threads
        obtain ⟨inner, between, left, visits, sized₁, fewer₁, enough₁, goesOn₁⟩ :=
          fewer _ less (automaton.ways before after state) (states ++ pending) threads' fuel
            (sized.insert state) (by rw [List.length_append]; omega) rfl
        rw [List.length_append] at enough₁
        obtain ⟨outer, last, left, visits', sized₂, fewer₂, enough₂, goesOn₂⟩ :=
          fewer _ (Nat.lt_of_le_of_lt fewer₁ less) states pending
            ((inner.map (⟨·, start⟩)).reverse ++ threads') left sized₁ (by omega) rfl
        refine ⟨_, last, left, .enters new present visits visits', sized₂, by omega, enough₂, ?_⟩
        rw [List.cons_append, explore_of_new new present, goesOn₁, goesOn₂]
        congr 2
        simp only [threads']
        split <;> simp

/-! ## What marks mean -/

namespace Visits

theorem sized (visits : Visits automaton before after states seen found last) (fit : automaton.Sized seen) :
    automaton.Sized last := by
  induction visits with
  | done => exact fit
  | skips _ _ ih => exact ih fit
  | enters _ _ _ _ ih₁ ih₂ => exact ih₂ (ih₁ (fit.insert _))

theorem keeps (visits : Visits automaton before after states seen found last) (fit : automaton.Sized seen)
    {other : Nat} (marked : seen.contains other = true) : last.contains other = true := by
  induction visits with
  | done => exact marked
  | skips _ _ ih => exact ih fit marked
  | enters new present inside _ ih₁ ih₂ =>
      refine ih₂ (inside.sized (fit.insert _)) (ih₁ (fit.insert _) ?_)
      rw [Marks.contains_insert (fit.fits_iff.2 present), marked, Bool.or_true]

theorem marks (visits : Visits automaton before after states seen found last) (fit : automaton.Sized seen) :
    ∀ state ∈ states, last.contains state = true ∨ automaton.states[state]? = none := by
  induction visits with
  | done => simp
  | skips old visits ih =>
      refine List.forall_mem_cons.2 ⟨?_, ih fit⟩
      exact old.imp_left (visits.keeps fit)
  | enters new present inside behind _ ih =>
      have fit₁ := inside.sized (fit.insert _)
      refine List.forall_mem_cons.2 ⟨.inl (behind.keeps fit₁ (inside.keeps (fit.insert _) ?_)), ih fit₁⟩
      rw [Marks.contains_insert (fit.fits_iff.2 present)]
      simp

end Visits

/-- A marked state that is not on the trail has been left for good: something holds of it, and all its ways lead to
marked states. -/
structure Settled (automaton : Automaton) (before after : Option Char) (holds : Nat → Prop)
    (trail : List Nat) (seen : Marks) : Prop where
  marked : ∀ state ∈ trail, seen.contains state = true
  left : ∀ state, seen.contains state = true → state ∉ trail →
    holds state ∧ ∀ next ∈ automaton.ways before after state,
      seen.contains next = true ∨ automaton.states[next]? = none

namespace Settled

theorem enter (settled : automaton.Settled before after holds trail seen) (fit : automaton.Sized seen)
    (present : automaton.states[state]? ≠ none) :
    automaton.Settled before after holds (state :: trail) (seen.insert state) := by
  have insert (other : Nat) :
      (seen.insert state).contains other = (decide (state = other) || seen.contains other) :=
    Marks.contains_insert (fit.fits_iff.2 present)
  constructor
  · intro other member
    rw [insert]
    rcases List.mem_cons.1 member with rfl | earlier
    · simp
    · simp [settled.marked other earlier]
  · intro other marked outside
    rw [List.mem_cons, not_or] at outside
    rw [insert, decide_eq_false (Ne.symm outside.1), Bool.false_or] at marked
    obtain ⟨here, ways⟩ := settled.left other marked outside.2
    refine ⟨here, fun next member => (ways next member).imp_left fun marked => ?_⟩
    rw [insert, marked, Bool.or_true]

theorem leave (settled : automaton.Settled before after holds (state :: trail) seen) (here : holds state)
    (ways : ∀ next ∈ automaton.ways before after state,
      seen.contains next = true ∨ automaton.states[next]? = none) :
    automaton.Settled before after holds trail seen := by
  constructor
  · exact fun other member => settled.marked other (List.mem_cons_of_mem state member)
  · intro other marked outside
    by_cases same : other = state
    · subst same
      exact ⟨here, ways⟩
    · refine settled.left other marked ?_
      rw [List.mem_cons, not_or]
      exact ⟨same, outside⟩

theorem extend (settled : automaton.Settled before after holds trail seen)
    (marked : seen.contains state = true) : automaton.Settled before after holds (state :: trail) seen :=
  ⟨List.forall_mem_cons.2 ⟨marked, settled.marked⟩,
    fun other there outside => settled.left other there (List.not_mem_of_not_mem_cons outside)⟩

theorem imp {weaker : Nat → Prop} (settled : automaton.Settled before after holds trail seen)
    (weaken : ∀ state, holds state → weaker state) :
    automaton.Settled before after weaker trail seen :=
  ⟨settled.marked, fun other there outside => (settled.left other there outside).imp_left (weaken other)⟩

end Settled

/-- What holds of the states found, and of those in which no thread waits, holds of all that are left for good. -/
theorem Visits.settled (visits : Visits automaton before after states seen found last)
    (fit : automaton.Sized seen) (settled : automaton.Settled before after holds trail seen)
    (moving : ∀ state, automaton.waits state = false → holds state)
    (good : ∀ state ∈ found, holds state) : automaton.Settled before after holds trail last := by
  induction visits generalizing trail with
  | done => exact settled
  | skips _ _ ih => exact ih fit settled good
  | @enters state _ _ between _ _ _ new present inside _ ih₁ ih₂ =>
      simp only [List.mem_append] at good
      have here : holds state := by
        cases waits : automaton.waits state with
        | false => exact moving state waits
        | true => exact good state (by simp [waits])
      have within := ih₁ (fit.insert _) (settled.enter fit present) fun other member => good other (by simp [member])
      have between : automaton.Settled before after holds trail between :=
        within.leave here (inside.marks (fit.insert _))
      exact ih₂ (inside.sized (fit.insert _)) between fun other member => good other (by simp [member])

/-! ## Backtracking through marked states -/

def Fruitless (automaton : Automaton) (rest : List Char) (state : Nat) : Prop :=
  automaton.arrival rest state = none

/-- If nothing comes of the marked states that are left for good, backtracking finds nothing behind them. -/
theorem Settled.backtrack (settled : automaton.Settled before rest.head? (automaton.Fruitless rest) trail seen)
    (fit : automaton.Sized seen) (marked : seen.contains state = true) :
    automaton.backtrack before rest trail state = none := by
  induction count : automaton.untried trail using Nat.strongRecOn generalizing trail state with
  | _ count fewer =>
    subst count
    by_cases passed : state ∈ trail
    · exact backtrack_of_mem passed
    · obtain ⟨nothing, ways⟩ := settled.left state marked passed
      obtain ⟨one, present⟩ := Option.ne_none_iff_exists'.1 (fit.fits_iff.1 (Marks.fits_of_contains marked))
      rw [backtrack_of_not_mem passed, nothing, Option.none_or, List.findSome?_eq_none_iff]
      intro next member
      rcases ways next member with there | missing
      · exact fewer _ (untried_cons_lt present passed) (settled.extend marked) there rfl
      · exact backtrack_of_missing missing

/-- The first result of a state found is the first result of backtracking. -/
theorem Visits.backtrack (visits : Visits automaton before rest.head? states seen found last)
    (fit : automaton.Sized seen)
    (settled : automaton.Settled before rest.head? (automaton.Fruitless rest) trail seen) :
    found.findSome? (automaton.arrival rest) =
      states.findSome? (automaton.backtrack before rest trail) := by
  induction visits generalizing trail with
  | done => rfl
  | @skips state states _ _ _ old _ ih =>
      have nothing : automaton.backtrack before rest trail state = none := by
        rcases old with marked | missing
        · exact settled.backtrack fit marked
        · exact backtrack_of_missing missing
      rw [ih fit settled, List.findSome?_cons, nothing]
  | @enters state states seen between last inner outer new present inside behind ih₁ ih₂ =>
      have outside : state ∉ trail := by
        intro member
        rw [settled.marked state member] at new
        cases new
      have own : (if automaton.waits state then [state] else []).findSome? (automaton.arrival rest) =
          automaton.arrival rest state := by
        cases waits : automaton.waits state with
        | false => simp [arrival_of_not_waits rest waits]
        | true => simp
      have entered := settled.enter fit present
      have first := ih₁ (fit.insert _) entered
      have here : automaton.backtrack before rest trail state =
          (automaton.arrival rest state).or (inner.findSome? (automaton.arrival rest)) := by
        rw [backtrack_of_not_mem outside, first]
      rw [List.findSome?_append, List.findSome?_append, own, ← Option.or_assoc, ← here, List.findSome?_cons]
      cases result : automaton.backtrack before rest trail state with
      | some count => rfl
      | none =>
          -- Nothing came of the state, so it is left for good before the states behind it are visited.
          rw [result] at here
          obtain ⟨fruitless, none⟩ := Option.or_eq_none_iff.1 here.symm
          have within := inside.settled (fit.insert _) entered (fun _ => arrival_of_not_waits rest)
            (List.findSome?_eq_none_iff.1 none)
          have between := within.leave fruitless (inside.marks (fit.insert _))
          rw [Option.none_or, ih₂ (inside.sized (fit.insert _)) between]

end Automaton

end LexKit.Regex
