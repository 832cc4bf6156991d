import LexKit.Unicode.Alphabetic
import LexKit.Unicode.CaseOrbit
import LexKit.Unicode.Category
import LexKit.Unicode.Printable
import LexKit.Unicode.Trait
import LexKit.Unicode.Width
import LexKit.Unicode.Word

/-!
# Properties of characters

Membership in the tables of this folder, and the characters that differ from a given one only in case.
-/

namespace LexKit.Unicode

/-- Whether a number lies in one of the ranges, which come in ascending order. -/
def inRanges : List (Nat × Nat) → Nat → Bool
  | [], _ => false
  | (low, high) :: ranges, code =>
      if code < low then false else if code ≤ high then true else inRanges ranges code

/-- Whether a number is one of every `step`-th in one of the ranges, which come in ascending order. -/
def inSpaced (step : Nat) : List (Nat × Nat) → Nat → Bool
  | [], _ => false
  | (low, high) :: ranges, code =>
      if code < low then false
      else if code ≤ high then (code - low) % step == 0
      else inSpaced step ranges code

/-- Blank characters, line ends included. -/
def isBlank (char : Char) : Bool := inRanges blankRanges char.toNat

def isDigit (char : Char) : Bool := inRanges digitRanges char.toNat

def isWord (char : Char) : Bool := inRanges wordRanges char.toNat

def isAlphabetic (char : Char) : Bool := inRanges alphabeticRanges char.toNat

def isNumeric (char : Char) : Bool := inRanges numericRanges char.toNat

def isExtending (char : Char) : Bool := inRanges extendRanges char.toNat

/-- Characters that are not shown where they are not understood. -/
def isIgnorable (char : Char) : Bool := inRanges ignorableRanges char.toNat

/-- Characters with a visible form of their own, and the ordinary space. -/
def isPrintable (char : Char) : Bool := !inRanges unprintableRanges char.toNat

/-- The number of columns that a character takes; the widest sign of all takes three. -/
def displayWidth (char : Char) : Nat :=
  if inRanges zeroWidthRanges char.toNat then 0
  else if inRanges wideRanges char.toNat then 2
  else if char.toNat = 0x17D8 then 3
  else 1

/-- The distance from a character to the next one of its orbit, if it has an orbit. -/
def caseShift? : List CaseRun → Nat → Option Int
  | [], _ => none
  | run :: runs, code =>
      if code < run.first then none
      else if code ≤ run.last ∧ (code - run.first) % run.step = 0 then some run.shift
      else caseShift? runs code

/-- The next character of the orbit; a character without case is alone in its orbit. -/
def nextCase (char : Char) : Char :=
  match caseShift? caseRuns char.toNat with
  | some shift => Char.ofNat (char.toNat + shift).toNat
  | none => char

/-- All characters that differ from the given one at most in case; no orbit has more than four. -/
def caseVariants (char : Char) : List Char :=
  let second := nextCase char
  let third := nextCase second
  [char, second, third, nextCase third]

end LexKit.Unicode
