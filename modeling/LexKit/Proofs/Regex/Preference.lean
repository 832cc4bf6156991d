import LexKit.Proofs.Regex.Visits
import LexKit.Regex.Preference
import Mathlib.Tactic.SplitIfs

/-!
# Trees and their automata

An automaton takes what its tree takes. The states of a tree stand side by side, so the number of a condition or a
choice can be that of its state, and a way through the tree and one through the automaton leave the same trail.

The parts of an automaton are compared with the parts of the tree one by one: `Realizes` says of a part, put in front
of any state, that it adds so many states, changes none that were there before, and gives what the ways through the
tree give, if this is true of the state behind it. Each way to put parts together has one lemma; the tree follows by
induction.
-/

namespace LexKit.Regex

/-- A place that a way comes to from another one: there is less to be read, or as much, and more has been passed. -/
def Later (rest : List Char) (trail : List Nat) (rest' : List Char) (trail' : List Nat) : Prop :=
  rest'.length < rest.length ∨ rest' = rest ∧ trail ⊆ trail'

namespace Later

variable {rest rest' rest'' : List Char} {trail trail' trail'' : List Nat}

theorem refl (rest : List Char) (trail : List Nat) : Later rest trail rest trail :=
  .inr ⟨rfl, List.Subset.refl trail⟩

theorem cons (rest : List Char) (trail : List Nat) (number : Nat) : Later rest trail rest (number :: trail) :=
  .inr ⟨rfl, List.subset_cons_self number trail⟩

theorem tail (char : Char) (rest : List Char) (trail : List Nat) : Later (char :: rest) trail rest [] :=
  .inl (Nat.lt_succ_self rest.length)

theorem trans (first : Later rest trail rest' trail') (second : Later rest' trail' rest'' trail'') :
    Later rest trail rest'' trail'' := by
  rcases first with shorter | ⟨rfl, more⟩
  · rcases second with shorter' | ⟨rfl, -⟩
    · exact .inl (Nat.lt_trans shorter' shorter)
    · exact .inl shorter
  · exact second.imp_right (And.imp_right (List.Subset.trans more))

end Later

namespace Automaton

variable {automaton : Automaton} {before : Option Char} {rest rest' : List Char} {trail trail' : List Nat}
  {state next first second number : Nat} {onward again done : Onward} {greedy : Bool}

/-! ## Backtracking from a place on -/

/-- Where a thread can wait, nothing is put on a trail. -/
def Passable (automaton : Automaton) (trail : List Nat) : Prop := ∀ state ∈ trail, automaton.waits state = false

theorem Passable.cons (passable : automaton.Passable trail) (moves : automaton.waits state = false) :
    automaton.Passable (state :: trail) := List.forall_mem_cons.2 ⟨moves, passable⟩

/-- From a place on, backtracking from a state has a known result. -/
def Gives (automaton : Automaton) (rest : List Char) (trail : List Nat) (onward : Onward) (state : Nat) : Prop :=
  ∀ before rest' trail', Later rest trail rest' trail' → automaton.Passable trail' →
    onward before rest' trail' = automaton.backtrack before rest' trail' state

theorem Gives.later (gives : automaton.Gives rest trail onward state) (later : Later rest trail rest' trail') :
    automaton.Gives rest' trail' onward state :=
  fun before _ _ later' passable => gives before _ _ (later.trans later') passable

theorem Gives.here (gives : automaton.Gives rest trail onward state) (passable : automaton.Passable trail) :
    onward before rest trail = automaton.backtrack before rest trail state :=
  gives before rest trail (.refl rest trail) passable

theorem gives_accept (accepts : automaton.states[state]? = some .accept) (rest : List Char) (trail : List Nat) :
    automaton.Gives rest trail (fun _ _ _ => some 0) state := by
  intro before rest' trail' _ passable
  have new : state ∉ trail' := fun passed => by
    have moves := passable state passed
    simp [waits, accepts] at moves
  rw [backtrack_of_not_mem new]
  simp [arrival, accepts]

theorem gives_char {members : CharClass} (consumes : automaton.states[state]? = some (.consume members next))
    (gives : automaton.Gives rest trail onward next) : automaton.Gives rest trail (.char members onward) state := by
  intro before rest' trail' later passable
  have new : state ∉ trail' := fun passed => by
    have moves := passable state passed
    simp [waits, consumes] at moves
  rw [backtrack_of_not_mem new]
  cases rest' with
  | nil => simp [Onward.char, arrival, ways, consumes]
  | cons char rest' =>
      have behind : onward (some char) rest' [] = automaton.backtrack (some char) rest' [] next :=
        gives _ _ _ (later.trans (.tail char rest' trail')) (List.forall_mem_nil _)
      simp only [Onward.char, arrival, ways, consumes, behind, List.findSome?_nil, Option.or_none]

theorem gives_look {assertion : Assertion} (looks : automaton.states[state]? = some (.look assertion next))
    (gives : automaton.Gives rest trail onward next) :
    automaton.Gives rest trail (.past state (.look assertion onward)) state := by
  intro before rest' trail' later passable
  unfold Onward.past
  by_cases passed : state ∈ trail'
  · rw [if_pos passed, backtrack_of_mem passed]
  · have moves : automaton.waits state = false := by simp [waits, looks]
    have behind := gives before _ _ (later.trans (.cons rest' trail' state)) (passable.cons moves)
    rw [if_neg passed, backtrack_of_not_mem passed]
    simp only [Onward.look, arrival, ways, looks, behind]
    split <;> simp

/-- A choice needs to be known only where its own number has been passed. -/
theorem past_orElse_eq {left right : Onward} (splits : automaton.states[state]? = some (.split first second))
    (passable : automaton.Passable trail) (gives : automaton.Gives rest (state :: trail) left first)
    (gives' : automaton.Gives rest (state :: trail) right second) :
    Onward.past state (left.orElse right) before rest trail = automaton.backtrack before rest trail state := by
  unfold Onward.past
  by_cases passed : state ∈ trail
  · rw [if_pos passed, backtrack_of_mem passed]
  · have moves : automaton.waits state = false := by simp [waits, splits]
    rw [if_neg passed, backtrack_of_not_mem passed, Onward.orElse, gives.here (passable.cons moves),
      gives'.here (passable.cons moves)]
    simp only [arrival, ways, splits, List.findSome?_cons, List.findSome?_nil, Option.none_or]
    cases automaton.backtrack before rest (state :: trail) first <;>
      cases automaton.backtrack before rest (state :: trail) second <;> rfl

theorem past_decide_eq (decides : automaton.states[state]? = some (decision greedy first second))
    (passable : automaton.Passable trail) (gives : automaton.Gives rest (state :: trail) again first)
    (gives' : automaton.Gives rest (state :: trail) done second) :
    Onward.past state (.decide greedy again done) before rest trail =
      automaton.backtrack before rest trail state := by
  cases greedy with
  | true => exact past_orElse_eq decides passable gives gives'
  | false => exact past_orElse_eq decides passable gives' gives

theorem gives_split {left right : Onward} (splits : automaton.states[state]? = some (.split first second))
    (gives : automaton.Gives rest trail left first) (gives' : automaton.Gives rest trail right second) :
    automaton.Gives rest trail (.past state (left.orElse right)) state := by
  intro before rest' trail' later passable
  have behind := later.trans (.cons rest' trail' state)
  exact past_orElse_eq splits passable (gives.later behind) (gives'.later behind)

theorem gives_decide (decides : automaton.states[state]? = some (decision greedy first second))
    (gives : automaton.Gives rest trail again first) (gives' : automaton.Gives rest trail done second) :
    automaton.Gives rest trail (.past state (.decide greedy again done)) state := by
  cases greedy with
  | true => exact gives_split decides gives gives'
  | false => exact gives_split decides gives' gives

/-- A round of a loop that passes no character leads back to the decision, which is then on the trail. -/
theorem gives_loop {body : Onward → Onward}
    (decides : automaton.states[state]? = some (decision greedy first next))
    (round : ∀ {rest trail onward}, automaton.Gives rest trail onward state →
      automaton.Gives rest trail (body onward) first)
    (gives : automaton.Gives rest trail done next) :
    automaton.Gives rest trail (.loop body greedy state done) state := by
  intro before rest' trail' later passable
  -- The induction is on the text that is left: another round is decided on only behind more of it.
  induction length : rest'.length using Nat.strongRecOn generalizing before rest' trail' with
  | _ length fewer =>
    subst length
    rw [Onward.loop]
    refine past_decide_eq decides passable (round ?_) (gives.later (later.trans (.cons rest' trail' state)))
    intro before'' rest'' trail'' later'' passable''
    rcases later'' with shorter | ⟨rfl, more⟩
    · refine (dif_pos shorter).trans ?_
      exact fewer _ shorter before'' rest'' trail'' (later.trans (.inl shorter)) passable'' rfl
    · rw [backtrack_of_mem (more List.mem_cons_self)]
      exact dif_neg (Nat.lt_irrefl _)

/-! ## Parts of an automaton -/

def Holds (automaton : Automaton) (number : Nat) (states : Array State) : Prop :=
  ∀ index, number ≤ index → index < states.size → automaton.states[index]? = states[index]?

theorem Holds.of_le {states : Array State} (holds : automaton.Holds number states) (less : number ≤ next) :
    automaton.Holds next states :=
  fun index above inside => holds index (Nat.le_trans less above) inside

/-- A part adds states behind those that there are, and gives what the ways give if what follows it does. -/
structure Realizes (part : Builder) (size : Nat) (ways : Ways) : Prop where
  size_eq : ∀ next states, (part next states).2.size = states.size + size
  keeps : ∀ next states index, index < states.size → (part next states).2[index]? = states[index]?
  gives : ∀ {automaton : Automaton} {next states rest trail onward},
    automaton.Holds states.size (part next states).2 → automaton.Gives rest trail onward next →
      automaton.Gives rest trail (ways states.size onward) (part next states).1

namespace Realizes

variable {part part' : Builder} {size size' count : Nat} {ways ways' : Ways} {states : Array State}

theorem holds (realizes : Realizes part size ways) (holds : automaton.Holds number (part next states).2) :
    automaton.Holds number states := by
  intro index above inside
  have larger := realizes.size_eq next states
  rw [holds index above (by omega), realizes.keeps next states index inside]

theorem nothing : Realizes (fun next states => (next, states)) 0 .nothing where
  size_eq _ _ := rfl
  keeps _ _ _ _ := rfl
  gives _ gives := gives

theorem build {one : Nat → State} {ways : Ways}
    (gives : ∀ {automaton : Automaton} {number next rest trail onward},
      automaton.states[number]? = some (one next) → automaton.Gives rest trail onward next →
        automaton.Gives rest trail (ways number onward) number) :
    Realizes (fun next states => Automaton.build (one next) states) 1 ways where
  size_eq next states := Array.size_push ..
  keeps next states index inside := by
    rw [Automaton.build, Array.getElem?_push, if_neg (Nat.ne_of_lt inside)]
  gives {_ next states _ _ _} holds behind := by
    refine gives ?_ behind
    rw [holds _ (Nat.le_refl _) (by simp [Automaton.build])]
    simp [Automaton.build]

theorem seq (front : Realizes part size ways) (behind : Realizes part' size' ways') :
    Realizes (fun next states => part (part' next states).1 (part' next states).2) (size + size')
      (ways.seq ways' size') where
  size_eq next states := by
    rw [front.size_eq, behind.size_eq, Nat.add_assoc, Nat.add_comm size']
  keeps next states index inside := by
    have larger := behind.size_eq next states
    rw [front.keeps _ _ _ (by omega), behind.keeps _ _ _ inside]
  gives {_ next states _ _ _} holds gives := by
    have larger := behind.size_eq next states
    have gives' := behind.gives (front.holds holds) gives
    have result := front.gives (holds.of_le (by omega)) gives'
    rwa [larger] at result

theorem holds_build (realizes : Realizes part size ways) {one : State}
    (holds : automaton.Holds states.size (Automaton.build one (part next states).2).2) :
    automaton.states[states.size + size]? = some one ∧ automaton.Holds states.size (part next states).2 := by
  have larger := realizes.size_eq next states
  constructor
  · rw [holds _ (by omega) (by simp [Automaton.build, larger]), Automaton.build, ← larger]
    simp
  · intro index above inside
    rw [holds index above (by simp [Automaton.build]; omega), Automaton.build, Array.getElem?_push,
      if_neg (by omega)]

theorem optional (realizes : Realizes part size ways) (greedy : Bool) :
    Realizes (fun next states =>
        Automaton.build (decision greedy (part next states).1 next) (part next states).2) (size + 1)
      (ways.optional size greedy) where
  size_eq next states := by
    rw [Automaton.build, Array.size_push, realizes.size_eq, Nat.add_assoc]
  keeps next states index inside := by
    have larger := realizes.size_eq next states
    rw [Automaton.build, Array.getElem?_push, if_neg (by omega), realizes.keeps _ _ _ inside]
  gives {_ next states _ _ _} holds gives := by
    obtain ⟨decides, inner⟩ := realizes.holds_build holds
    rw [Ways.optional, Automaton.build, realizes.size_eq]
    exact gives_decide decides (realizes.gives inner gives) gives

/-- A choice: the second part is in front of what follows, and so is the first, but behind it in number. -/
theorem alt (left : Realizes part size ways) (right : Realizes part' size' ways') :
    Realizes (fun next states =>
        let behind := part' next states
        let front := part next behind.2
        Automaton.build (.split front.1 behind.1) front.2) (size + size' + 1)
      (fun number next =>
        .past (number + size' + size) (.orElse (ways (number + size') next) (ways' number next))) where
  size_eq next states := by
    simp only [Automaton.build, Array.size_push, left.size_eq, right.size_eq]
    omega
  keeps next states index inside := by
    have larger := right.size_eq next states
    have larger' := left.size_eq next (part' next states).2
    simp only [Automaton.build]
    rw [Array.getElem?_push, if_neg (by omega), left.keeps _ _ _ (by omega), right.keeps _ _ _ inside]
  gives {automaton next states rest trail onward} holds gives := by
    have larger := right.size_eq next states
    have larger' := left.size_eq next (part' next states).2
    obtain ⟨splits, front⟩ := left.holds_build (holds.of_le (by omega))
    have behind : automaton.Holds states.size (part' next states).2 := by
      intro index above inside
      rw [holds index above (by simp [Automaton.build]; omega)]
      simp only [Automaton.build]
      rw [Array.getElem?_push, if_neg (by omega), left.keeps _ _ _ inside]
    have gives₁ := left.gives front gives
    have gives₂ := right.gives behind gives
    rw [larger] at splits gives₁
    simp only [Automaton.build, larger', larger]
    exact gives_split splits gives₁ gives₂

/-! ## Rounds -/

theorem copies_succ (part : Builder) (count next : Nat) (states : Array State) :
    copies part (count + 1) next states =
      part (copies part count next states).1 (copies part count next states).2 := by
  induction count generalizing next states with
  | zero => rfl
  | succ count ih => exact ih (part next states).1 (part next states).2

theorem options_succ (part : Builder) (greedy : Bool) (exit count next : Nat) (states : Array State) :
    options part greedy exit (count + 1) next states =
      let behind := options part greedy exit count next states
      let round := part behind.1 behind.2
      Automaton.build (decision greedy round.1 exit) round.2 := by
  induction count generalizing next states with
  | zero => rfl
  | succ count ih => exact ih _ _

theorem times (realizes : Realizes part size ways) (count : Nat) :
    Realizes (copies part count) (count * size) (ways.times size count) := by
  induction count with
  | zero =>
      rw [Nat.zero_mul]
      exact nothing
  | succ count ih =>
      have same : copies part (count + 1) = fun next states =>
          part (copies part count next states).1 (copies part count next states).2 :=
        funext fun next => funext (copies_succ part count next)
      have sizes : (count + 1) * size = size + count * size := by rw [Nat.add_one_mul, Nat.add_comm]
      rw [same, sizes]
      exact realizes.seq ih

theorem upTo (realizes : Realizes part size ways) (greedy : Bool) (count : Nat) :
    Realizes (fun next => options part greedy next count next) (count * (size + 1))
      (ways.upTo size greedy count) := by
  induction count with
  | zero =>
      rw [Nat.zero_mul]
      exact nothing
  | succ count ih =>
      have same : (fun next => options part greedy next (count + 1) next) = fun next states =>
          let behind := options part greedy next count next states
          let round := part behind.1 behind.2
          Automaton.build (decision greedy round.1 next) round.2 :=
        funext fun next => funext (options_succ part greedy next count next)
      have sizes : (count + 1) * (size + 1) = size + count * (size + 1) + 1 := by
        rw [Nat.add_one_mul, Nat.add_comm, Nat.add_right_comm]
      rw [same, sizes]
      exact (realizes.seq ih).optional greedy

theorem size_loop (realizes : Realizes part size ways) (greedy : Bool) (next : Nat) (states : Array State) :
    (loop part greedy next states).2.2.size = states.size + (size + 1) := by
  simp only [loop, Array.size_setIfInBounds, realizes.size_eq, Array.size_push]
  omega

theorem loop_keeps (realizes : Realizes part size ways) (greedy : Bool) (next : Nat) (states : Array State)
    (index : Nat) (inside : index < states.size) :
    (loop part greedy next states).2.2[index]? = states[index]? := by
  simp only [loop]
  rw [Array.getElem?_setIfInBounds_ne (Nat.ne_of_gt inside), realizes.keeps _ _ _ (by simp; omega),
    Array.getElem?_push, if_neg (Nat.ne_of_lt inside)]

/-- The state reserved for the decision is the only one in which the automaton differs from what the body was built
into. -/
theorem holds_loop (realizes : Realizes part size ways)
    (holds : automaton.Holds states.size (loop part greedy next states).2.2) :
    automaton.states[states.size]? = some (decision greedy (loop part greedy next states).1 next) ∧
      automaton.Holds (states.push .accept).size (part states.size (states.push .accept)).2 := by
  have larger := realizes.size_loop greedy next states
  have body := realizes.size_eq states.size (states.push .accept)
  rw [Array.size_push] at body
  constructor
  · rw [holds _ (Nat.le_refl _) (by omega)]
    simp only [loop]
    rw [Array.getElem?_setIfInBounds_self_of_lt (by omega)]
  · intro index above inside
    rw [Array.size_push] at above
    rw [holds index (by omega) (by omega)]
    simp only [loop]
    rw [Array.getElem?_setIfInBounds_ne (by omega)]

theorem gives_again (realizes : Realizes part size ways)
    (holds : automaton.Holds states.size (loop part greedy next states).2.2)
    (gives : automaton.Gives rest trail onward next) :
    automaton.Gives rest trail (ways.zeroOrMore greedy states.size onward) states.size := by
  obtain ⟨decides, body⟩ := realizes.holds_loop holds
  refine gives_loop decides (fun round => ?_) gives
  have result := realizes.gives body round
  rwa [Array.size_push] at result

theorem zeroOrMore (realizes : Realizes part size ways) (greedy : Bool) :
    Realizes (fun next states => (loop part greedy next states).2) (size + 1) (ways.zeroOrMore greedy) where
  size_eq := realizes.size_loop greedy
  keeps := realizes.loop_keeps greedy
  gives := realizes.gives_again

theorem oneOrMore (realizes : Realizes part size ways) (greedy : Bool) :
    Realizes (fun next states => ((loop part greedy next states).1, (loop part greedy next states).2.2))
      (size + 1) (ways.oneOrMore greedy) where
  size_eq := realizes.size_loop greedy
  keeps := realizes.loop_keeps greedy
  gives {_ _ _ _ _ _} holds gives := by
    have result := realizes.gives (realizes.holds_loop holds).2 (realizes.gives_again holds gives)
    rwa [Array.size_push] at result

theorem rounds (realizes : Realizes part size ways) (nullable greedy : Bool) (least : Nat) (most : Option Nat) :
    Realizes (Automaton.rounds part nullable greedy (least, most)) (Node.roundStates size nullable (least, most))
      (ways.rounds size nullable greedy least most) := by
  match least, most with
  | least, some most => exact (realizes.times least).seq (realizes.upTo greedy (most - least))
  | 0, none =>
      cases nullable with
      | true => exact (realizes.oneOrMore greedy).optional greedy
      | false => exact realizes.zeroOrMore greedy
  | least + 1, none => exact (realizes.times least).seq (realizes.oneOrMore greedy)

/-- No round, one, or the choice between them. -/
theorem atMostOnce (realizes : Realizes part size ways) (nullable greedy : Bool) :
    Realizes (Automaton.rounds part nullable greedy (0, some 0)) (Node.roundStates size nullable (0, some 0))
        .nothing ∧
      Realizes (Automaton.rounds part nullable greedy (0, some 1)) (Node.roundStates size nullable (0, some 1))
        (ways.optional size greedy) ∧
      Realizes (Automaton.rounds part nullable greedy (1, some 1)) (Node.roundStates size nullable (1, some 1))
        ways := by
  simp only [Node.roundStates, Nat.zero_mul, Nat.one_mul, Nat.zero_add, Nat.sub_self, Nat.sub_zero, Nat.add_zero]
  exact ⟨nothing, realizes.optional greedy, realizes⟩

end Realizes

/-! ## Trees -/

theorem realizes_compile (node : Node) : Realizes (compile node) node.states node.tries := by
  induction node with
  | empty => exact .nothing
  | char members => exact .build gives_char
  | look assertion => exact .build gives_look
  | seq first second ih₁ ih₂ => exact ih₁.seq ih₂
  | alt first second ih₁ ih₂ => exact ih₁.alt ih₂
  | rounds body least most greedy ih =>
      show Realizes (Automaton.rounds (compile body) body.nullable greedy (body.bounds least most))
        (Node.roundStates body.states body.nullable (body.bounds least most))
        (Node.rounds body least most greedy).tries
      unfold Node.bounds Node.tries
      split
      · obtain ⟨never, maybe, once⟩ := ih.atMostOnce body.nullable greedy
        match least, most with
        | 0, some 0 => exact never
        | 0, some (_ + 1) | 0, none => exact maybe
        | _ + 1, _ => exact once
      · exact ih.rounds body.nullable greedy least most

/-- An automaton takes what its tree takes. -/
theorem attempt_ofNode (node : Node) (text : List Char) : (ofNode node).attempt text = node.attempt text := by
  have holds : (ofNode node).Holds (#[State.accept]).size (compile node 0 #[.accept]).2 := fun _ _ _ => rfl
  have realizes := realizes_compile node
  have accepts : (ofNode node).states[0]? = some .accept :=
    realizes.keeps 0 #[.accept] 0 Nat.one_pos
  have gives := realizes.gives holds (gives_accept accepts text [])
  exact (gives.here (List.forall_mem_nil _)).symm

end Automaton

end LexKit.Regex
