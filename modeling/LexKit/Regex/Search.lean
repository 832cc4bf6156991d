import LexKit.Regex.Automaton
import LexKit.Regex.Marks

/-!
# Searching

A search walks through the text once and keeps, for the current place, the states that some attempt has
reached, in order of preference, each state once. Attempts that began earlier come before later ones, and
as soon as one of them accepts, the attempts behind it are given up; those before it may still find a
match that is preferred. So the result is the leftmost match, and of those that begin there the one that
trying the alternatives in order would find first.
-/

namespace LexKit.Regex

structure Match where
  start : Nat
  stop : Nat
deriving Repr, DecidableEq

/-- A state that an attempt has reached, with the place where the attempt began. -/
structure Thread where
  state : Nat
  start : Nat
deriving Repr, DecidableEq

/-- The states reached at one place: all of them as marks, and those that consume or accept as threads, the
least preferred first. -/
structure Front where
  seen : Marks
  threads : List Thread
deriving Repr, DecidableEq

namespace Front

/-- Leaves a place: the threads there in order of preference, and the front of the next place, which nothing has
reached yet. -/
def leave (front : Front) : List Thread × Front :=
  (front.threads.reverse, ⟨front.seen.clear, []⟩)

end Front

namespace Automaton

def noFront (automaton : Automaton) : Front := ⟨Marks.empty automaton.states.size, []⟩

/-- Follows states without passing a character, the preferred way first, and leaves out states that were
seen before. Every state is looked into at most once and puts at most two on the list, which bounds the
number of rounds. -/
def explore (automaton : Automaton) (before after : Option Char) (start : Nat) :
    Nat → List Nat → Front → Front
  | 0, _, front => front
  | _ + 1, [], front => front
  | fuel + 1, id :: pending, front =>
      if front.seen.contains id then explore automaton before after start fuel pending front
      else
        let seen := front.seen.insert id
        match automaton.states[id]? with
        | none => explore automaton before after start fuel pending ⟨seen, front.threads⟩
        | some (.split first second) =>
            explore automaton before after start fuel (first :: second :: pending)
              ⟨seen, front.threads⟩
        | some (.look assertion next) =>
            if assertion.holds before after then
              explore automaton before after start fuel (next :: pending) ⟨seen, front.threads⟩
            else explore automaton before after start fuel pending ⟨seen, front.threads⟩
        | some .accept | some (.consume _ _) =>
            explore automaton before after start fuel pending ⟨seen, ⟨id, start⟩ :: front.threads⟩

def enter (automaton : Automaton) (before after : Option Char) (thread : Thread) (front : Front) :
    Front :=
  automaton.explore before after thread.start (2 * automaton.states.size + 2) [thread.state] front

/-- Moves threads over a character, in order of preference, up to the first that accepts: the front behind
the character, and where the accepting attempt began. -/
def advance (automaton : Automaton) (char after : Option Char) :
    List Thread → Front → Front × Option Nat
  | [], front => (front, none)
  | thread :: threads, front =>
      match automaton.states[thread.state]? with
      | some .accept => (front, some thread.start)
      | some (.consume members next) =>
          match char with
          | some char =>
              if members.mem char then
                advance automaton char after threads
                  (automaton.enter char after ⟨next, thread.start⟩ front)
              else advance automaton char after threads front
          | none => advance automaton none after threads front
      | _ => advance automaton char after threads front

/-- Searches on from a place, behind `before`, with the front that earlier characters left. -/
def searchFrom (automaton : Automaton) :
    List Char → Option Char → Nat → Front → Option Match → Option Match
  | rest, before, index, front, found =>
      let front :=
        if found.isNone && (index == 0 || !automaton.anchored) then
          automaton.enter before rest.head? ⟨automaton.start, index⟩ front
        else front
      let (threads, next) := front.leave
      match rest with
      | [] =>
          match (automaton.advance none none threads next).2 with
          | some start => some ⟨start, index⟩
          | none => found
      | char :: rest =>
          let (next, accepted) := automaton.advance (some char) rest.head? threads next
          let found := match accepted with
            | some start => some ⟨start, index⟩
            | none => found
          if next.threads.isEmpty && (found.isSome || automaton.anchored) then found
          else searchFrom automaton rest (some char) (index + 1) next found

/-- The leftmost match in a text that the order of alternatives prefers. -/
def search (automaton : Automaton) (text : List Char) : Option Match :=
  automaton.searchFrom text none 0 automaton.noFront none

end Automaton

end LexKit.Regex
