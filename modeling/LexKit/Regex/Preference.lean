import LexKit.Regex.Node

/-!
# The preferred match of a tree

What a tree takes at a place, said on the tree itself. The alternatives are tried in the order in which they stand,
each with all that follows it before the next one is looked at, and the first that comes to the end counts. Greedy
rounds try another round before what follows, lazy ones after it.

A round that passes no character leads back to where it began, and could be gone through for ever. Where no loop has
such rounds nothing has to be remembered of the way to a place. In general conditions and choices have numbers, which
count from the end of the tree, each copy of a repeated body with its own; and between two characters no number is
passed twice.
-/

namespace LexKit.Regex

/-! ## Without memory -/

/-- What comes of a place, which has the character in front of it and the rest of the text: the number of characters
that are passed from there to the end, if the end is reached. -/
abbrev Plain := Option Char → List Char → Option Nat

namespace Plain

def char (members : CharClass) (next : Plain) : Plain
  | _, [] => none
  | _, char :: rest => if members.mem char then (next (some char) rest).map (· + 1) else none

def look (assertion : Assertion) (next : Plain) : Plain := fun before rest =>
  if assertion.holds before rest.head? then next before rest else none

def orElse (first second : Plain) : Plain := fun before rest => (first before rest).or (second before rest)

def decide (greedy : Bool) (again done : Plain) : Plain :=
  if greedy then again.orElse done else done.orElse again

def times (body : Plain → Plain) : Nat → Plain → Plain
  | 0, next => next
  | count + 1, next => body (times body count next)

def upTo (body : Plain → Plain) (greedy : Bool) : Nat → Plain → Plain
  | 0, next => next
  | count + 1, next => decide greedy (body (upTo body greedy count next)) next

/-- Any number of rounds, each of which passes a character. -/
def loop (body : Plain → Plain) (greedy : Bool) (done : Plain) (before : Option Char) (rest : List Char) :
    Option Nat :=
  let again : Plain := fun before' rest' =>
    if _shorter : rest'.length < rest.length then loop body greedy done before' rest' else none
  decide greedy (body again) done before rest
termination_by rest.length

def rounds (body : Plain → Plain) (greedy : Bool) (least : Nat) : Option Nat → Plain → Plain
  | some most, next => times body least (upTo body greedy (most - least) next)
  | none, next => times body least (loop body greedy next)

end Plain

namespace Node

/-- No loop without a bound goes round without passing a character. -/
def advances : Node → Bool
  | .empty | .char _ | .look _ => true
  | .seq first second | .alt first second => first.advances && second.advances
  | .rounds body _ most _ => body.advances && (most.isSome || !body.nullable)

end Node

/-! ## With numbers -/

/-- What comes of a place that also has the numbers passed since the character in front of it. -/
abbrev Onward := Option Char → List Char → List Nat → Option Nat

namespace Onward

def char (members : CharClass) (next : Onward) : Onward
  | _, [], _ => none
  | _, char :: rest, _ => if members.mem char then (next (some char) rest []).map (· + 1) else none

def look (assertion : Assertion) (next : Onward) : Onward := fun before rest trail =>
  if assertion.holds before rest.head? then next before rest trail else none

/-- Passes a number for the first time. -/
def past (number : Nat) (onward : Onward) : Onward := fun before rest trail =>
  if number ∈ trail then none else onward before rest (number :: trail)

def orElse (first second : Onward) : Onward := fun before rest trail =>
  (first before rest trail).or (second before rest trail)

/-- Another round before being done if rounds are greedy, and after it if they are lazy. -/
def decide (greedy : Bool) (again done : Onward) : Onward :=
  if greedy then again.orElse done else done.orElse again

/-- Decides about another round, with a number for the decision, as often as the last round has passed a character. -/
def loop (body : Onward → Onward) (greedy : Bool) (number : Nat) (done : Onward) (before : Option Char)
    (rest : List Char) (trail : List Nat) : Option Nat :=
  let again : Onward := fun before' rest' trail' =>
    if _shorter : rest'.length < rest.length then loop body greedy number done before' rest' trail' else none
  past number (decide greedy (body again) done) before rest trail
termination_by rest.length

end Onward

/-- The ways through a part whose numbers begin at a given one, to what follows it. -/
abbrev Ways := Nat → Onward → Onward

namespace Ways

def nothing : Ways := fun _ next => next

/-- One part in front of another, which has so many numbers. -/
def seq (front behind : Ways) (size : Nat) : Ways := fun number next =>
  front (number + size) (behind number next)

def optional (part : Ways) (size : Nat) (greedy : Bool) : Ways := fun number next =>
  .past (number + size) (.decide greedy (part number next) next)

def times (body : Ways) (size : Nat) : Nat → Ways
  | 0 => nothing
  | count + 1 => body.seq (times body size count) (count * size)

/-- At most a number of rounds: one and then at most the others, or none. -/
def upTo (body : Ways) (size : Nat) (greedy : Bool) : Nat → Ways
  | 0 => nothing
  | count + 1 =>
      let behind := count * (size + 1)
      (body.seq (upTo body size greedy count) behind).optional (size + behind) greedy

def zeroOrMore (body : Ways) (greedy : Bool) : Ways := fun number next =>
  .loop (body (number + 1)) greedy number next

def oneOrMore (body : Ways) (greedy : Bool) : Ways := fun number next =>
  body (number + 1) (zeroOrMore body greedy number next)

def rounds (body : Ways) (size : Nat) (nullable greedy : Bool) : Nat → Option Nat → Ways
  | least, some most =>
      (body.times size least).seq (body.upTo size greedy (most - least)) ((most - least) * (size + 1))
  | 0, none =>
      -- The first round counts even if it passes nothing, so it is not one of those that the loop decides on.
      if nullable then (body.oneOrMore greedy).optional (size + 1) greedy else body.zeroOrMore greedy
  | least + 1, none => (body.times size least).seq (body.oneOrMore greedy) (size + 1)

end Ways

namespace Node

def tries : Node → Ways
  | .empty => .nothing
  | .char members => fun _ next => .char members next
  | .look assertion => fun number next => .past number (.look assertion next)
  | .seq first second => .seq first.tries second.tries second.states
  | .alt first second => fun number next =>
      .past (number + second.states + first.states)
        (.orElse (first.tries (number + second.states) next) (second.tries number next))
  | .rounds body least most greedy =>
      if body.widthless then
        -- Each round ends where it began, so one is worth as many as there are.
        match least, most with
        | 0, some 0 => .nothing
        | 0, _ => body.tries.optional body.states greedy
        | _ + 1, _ => body.tries
      else body.tries.rounds body.states body.nullable greedy least most

/-- The number of characters that a tree takes at the start of a text, which is all that it sees. -/
def attempt (node : Node) (text : List Char) : Option Nat :=
  node.tries 1 (fun _ _ _ => some 0) none text []

end Node

end LexKit.Regex
