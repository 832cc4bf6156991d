import LexKit.Regex.Footprint
import LexKit.Regex.Reader
import LexKit.Regex.Search
import LexKit.Step

/-!
# Anchored patterns

A pattern is a regular expression put between a start of text and the end of a group, so that it applies
at the cursor only. The text is pasted in unread: one that closes the group by itself can reach beyond the
anchor, and a match that begins later then passes everything from the cursor up to its end. The pattern
sees the text behind the cursor alone, as if it began there.
-/

namespace LexKit

open Regex

inductive PatternError where
  /-- The text cannot be read. -/
  | malformed
  /-- The automaton would be too large. -/
  | tooLarge
deriving Repr, DecidableEq

/-- A pattern: the text as compiled and its automaton. -/
structure Pattern where
  text : String
  automaton : Automaton
deriving Repr, DecidableEq

namespace Pattern

/-- Ties a regular expression to the place where it is tried. -/
def anchor (text : List Char) : List Char := '^' :: '(' :: '?' :: ':' :: text ++ [')']

def compile (text : List Char) : Except PatternError Automaton :=
  match Reader.read? text with
  | none => .error .malformed
  | some part =>
      if Reader.depthLimit < part.depth then .error .malformed
      else if part.node.isTooLarge then .error .tooLarge
      else .ok (Automaton.ofNode part.node)

def ofString (text : String) : Except PatternError Pattern := do
  let anchored := anchor text.toList
  return ⟨String.ofList anchored, ← compile anchored⟩

/-- The pattern of a regular expression that is known to be well formed. -/
def ofValid (text : String) (valid : (ofString text).toOption.isSome) : Pattern :=
  (ofString text).toOption.get valid

/-- The number of characters from the start of a text to the end of the match, if there is one and it does
not end where the text starts. -/
def reach? (pattern : Pattern) (text : List Char) : Option Nat :=
  match pattern.automaton.search text with
  | some found => if 0 < found.stop then some found.stop else none
  | none => none

/-- Matches the characters up to the end of the match of the pattern. -/
def matcher (pattern : Pattern) : Matcher := fun cursor =>
  match pattern.reach? cursor.rest with
  | some count => cursor.takeText count
  | none => .still .noMatch

end Pattern

end LexKit
