import LexKit.Regex.CharClass

/-!
# Regular expressions as trees

A tree says what a pattern matches: characters of a class, conditions on a place, sequences, alternatives
in order of preference, and repetitions that prefer more or fewer rounds.
-/

namespace LexKit.Regex

/-- Conditions on the place between two characters. -/
inductive Assertion where
  | textStart
  | textEnd
  /-- At the start of a line; with `crlf`, a carriage return ends lines too, alone or before a line feed. -/
  | lineStart (crlf : Bool)
  | lineEnd (crlf : Bool)
  | wordBoundary (unicode : Bool)
  | noWordBoundary (unicode : Bool)
  | wordStart (unicode : Bool)
  | wordEnd (unicode : Bool)
  /-- No word character comes before. -/
  | wordStartHalf (unicode : Bool)
  /-- No word character comes after. -/
  | wordEndHalf (unicode : Bool)
deriving Repr, DecidableEq

namespace Assertion

def isWord (unicode : Bool) : Option Char → Bool
  | none => false
  | some char => if unicode then Unicode.isWord char else CharClass.asciiWord.mem char

/-- Whether the condition holds between two neighbours; a missing one is an end of the text. -/
def holds (assertion : Assertion) (before after : Option Char) : Bool :=
  match assertion with
  | .textStart => before.isNone
  | .textEnd => after.isNone
  | .lineStart false => before.isNone || before == some '\n'
  | .lineStart true =>
      before.isNone || before == some '\n' || (before == some '\r' && after != some '\n')
  | .lineEnd false => after.isNone || after == some '\n'
  | .lineEnd true =>
      after.isNone || after == some '\r' || (after == some '\n' && before != some '\r')
  | .wordBoundary unicode => isWord unicode before != isWord unicode after
  | .noWordBoundary unicode => isWord unicode before == isWord unicode after
  | .wordStart unicode => !isWord unicode before && isWord unicode after
  | .wordEnd unicode => isWord unicode before && !isWord unicode after
  | .wordStartHalf unicode => !isWord unicode before
  | .wordEndHalf unicode => !isWord unicode after

end Assertion

inductive Node where
  /-- Matches the empty text. -/
  | empty
  /-- Matches one character. -/
  | char (members : CharClass)
  | look (assertion : Assertion)
  | seq (first second : Node)
  /-- Prefers its first alternative. -/
  | alt (first second : Node)
  /-- Rounds of a body: at least `least`, and at most `most` if there is a bound. -/
  | rounds (body : Node) (least : Nat) (most : Option Nat) (greedy : Bool)
deriving Repr, DecidableEq

namespace Node

def sequence : List Node → Node
  | [] => .empty
  | [only] => only
  | first :: rest => .seq first (sequence rest)

/-- Trees as alternatives, the preferred first; the class of no character if there are none. -/
def choice : List Node → Node
  | [] => .char .none
  | [only] => only
  | first :: rest => .alt first (choice rest)

def nullable : Node → Bool
  | .empty | .look _ => true
  | .char _ => false
  | .seq first second => first.nullable && second.nullable
  | .alt first second => first.nullable || second.nullable
  | .rounds body least _ _ => least == 0 || body.nullable

def widthless : Node → Bool
  | .empty | .look _ => true
  | .char _ => false
  | .seq first second | .alt first second => first.widthless && second.widthless
  | .rounds body least most _ => (least == 0 && most == some 0) || body.widthless

/-- The bounds of rounds that make a difference: a round without width ends where it began, and a second one is worth
nothing. -/
def bounds (body : Node) (least : Nat) (most : Option Nat) : Nat × Option Nat :=
  if body.widthless then
    match least, most with
    | 0, some 0 => (0, some 0)
    | 0, _ => (0, some 1)
    | _ + 1, _ => (1, some 1)
  else (least, most)

def roundStates (body : Nat) (nullable : Bool) : Nat × Option Nat → Nat
  | (least, some most) => least * body + (most - least) * (body + 1)
  | (0, none) => if nullable then body + 2 else body + 1
  | (least + 1, none) => least * body + (body + 1)

/-- The number of states that a machine has for a tree: one for each character, condition and choice, as often as it is
repeated. -/
def states : Node → Nat
  | .empty => 0
  | .char _ | .look _ => 1
  | .seq first second => first.states + second.states
  | .alt first second => first.states + second.states + 1
  | .rounds body least most _ => roundStates body.states body.nullable (body.bounds least most)

end Node

end LexKit.Regex
