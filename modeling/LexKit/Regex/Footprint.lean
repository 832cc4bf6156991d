import LexKit.Regex.Node

/-!
# The footprint of a pattern

Counted rounds repeat the machine of their body, so a short pattern can ask for a huge machine. Patterns are
refused that no machine which walks through the bytes of a text could match within a limit of memory. What
such a machine takes at least is counted here: states of a fixed size, and small additions for the ways that
lead on from them.
-/

namespace LexKit.Regex

namespace Footprint

def state : Nat := 32

def choice : Nat := 40

/-- The bytes of a state that reads a byte of one range, and of the state behind it. -/
def range : Nat := 72

def beyondAscii : Nat := 900

def limit : Nat := 10 * (1 <<< 20)

/-- The number of states that an automaton may have in any case. -/
def stateLimit : Nat := 1 <<< 24

end Footprint

namespace NamedClass

def footprint : NamedClass → Nat
  | .digit => 5000
  | .blank => 600
  | .word => 45000

def complementFootprint : NamedClass → Nat
  | .digit => 12000
  | .blank => 1800
  | .word => 45000

end NamedClass

namespace CharClass

/-- At least the bytes for reading one character of a class to which others may have been joined. A class that was
put together from others may come out as small as a single character. -/
def joinedFootprint : CharClass → Nat
  | .range low high => if low = high then Footprint.state * low.utf8Size else Footprint.range
  | _ => Footprint.state

/-- At least the bytes for reading one character of a class as it stands. -/
def footprint : CharClass → Nat
  | .named name => name.footprint
  | .compl (.named name) => name.complementFootprint
  | .compl .none => Footprint.beyondAscii
  | .compl (.range low high) =>
      if high.toNat < 128 then Footprint.beyondAscii else joinedFootprint (.compl (.range low high))
  | members => members.joinedFootprint

end CharClass

namespace Node

def roundFootprint (body : Nat) : Nat × Option Nat → Nat
  | (least, some most) => body * max least most + Footprint.choice * (most - least)
  | (least, none) => body * max least 1 + Footprint.choice

/-- At least the bytes for matching a tree. Alternatives may have most in common, and those of their classes that
stand at the same place may be joined. -/
def footprint (joined : Bool) : Node → Nat
  | .empty => 0
  | .char members => if joined then members.joinedFootprint else members.footprint
  | .look _ => Footprint.state
  | .seq first second => first.footprint joined + second.footprint joined
  | .alt first second => max (first.footprint true) (second.footprint true)
  | .rounds body least most _ => roundFootprint (body.footprint joined) (body.bounds least most)

def isTooLarge (node : Node) : Bool :=
  Footprint.limit < node.footprint false || Footprint.stateLimit < node.states

end Node

end LexKit.Regex
