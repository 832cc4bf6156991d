import LexKit.Regex.Node

/-!
# Automata of patterns

A pattern becomes a list of numbered states. Compiling works from the end: a tree is compiled in front of
the state that follows it, so states once made stay as they are, except that the state which decides
about another round of a loop is reserved first and filled in when the start of the body is known.
-/

namespace LexKit.Regex

inductive State where
  | accept
  /-- Passes one character of the class. -/
  | consume (members : CharClass) (next : Nat)
  /-- Goes on with both, preferring the first. -/
  | split (first second : Nat)
  /-- Goes on if the condition holds. -/
  | look (assertion : Assertion) (next : Nat)
deriving Repr, DecidableEq

structure Automaton where
  states : Array State
  start : Nat
deriving Repr, DecidableEq

namespace Automaton

/-- A decision about another round, which comes first if the loop is greedy. -/
def decision (greedy : Bool) (again done : Nat) : State :=
  if greedy then .split again done else .split done again

/-- Extends the states by a part that goes on at a given state; gives the start of the part. -/
abbrev Builder := Nat → Array State → Nat × Array State

def build (state : State) (states : Array State) : Nat × Array State :=
  (states.size, states.push state)

def copies (part : Builder) : Nat → Builder
  | 0, next, states => (next, states)
  | count + 1, next, states =>
      let (start, states) := part next states
      copies part count start states

/-- Up to a number of copies of a part, with a way out before each. -/
def options (part : Builder) (greedy : Bool) (exit : Nat) : Nat → Builder
  | 0, next, states => (next, states)
  | count + 1, next, states =>
      let (start, states) := part next states
      let (start, states) := build (decision greedy start exit) states
      options part greedy exit count start states

/-- At least one round of a part: the start of the body and the state that decides about another. -/
def loop (part : Builder) (greedy : Bool) (next : Nat) (states : Array State) :
    Nat × Nat × Array State :=
  let again := states.size
  let (start, states) := part again (states.push .accept)
  (start, again, states.setIfInBounds again (decision greedy start next))

/-- Rounds of a part within bounds. If a round may pass nothing, the first one is decided on before the loop. -/
def rounds (part : Builder) (nullable greedy : Bool) : Nat × Option Nat → Builder
  | (least, some most), next, states =>
      let (start, states) := options part greedy next (most - least) next states
      copies part least start states
  | (0, none), next, states =>
      let (start, again, states) := loop part greedy next states
      if nullable then build (decision greedy start next) states else (again, states)
  | (least + 1, none), next, states =>
      let (start, _, states) := loop part greedy next states
      copies part least start states

def compile : Node → Builder
  | .empty, next, states => (next, states)
  | .char members, next, states => build (.consume members next) states
  | .look assertion, next, states => build (.look assertion next) states
  | .seq first second, next, states =>
      let (start, states) := compile second next states
      compile first start states
  | .alt first second, next, states =>
      let (right, states) := compile second next states
      let (left, states) := compile first next states
      build (.split left right) states
  | .rounds body least most greedy, next, states =>
      rounds (compile body) body.nullable greedy (body.bounds least most) next states

/-- The automaton of a tree; its first state accepts. -/
def ofNode (node : Node) : Automaton :=
  let (start, states) := compile node 0 #[.accept]
  ⟨states, start⟩

def anchored (automaton : Automaton) : Bool :=
  match automaton.states[automaton.start]? with
  | some (.look .textStart _) => true
  | _ => false

end Automaton

end LexKit.Regex
