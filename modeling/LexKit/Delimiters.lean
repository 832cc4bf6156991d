import LexKit.Step

/-!
# Delimited regions

Text between an opening and a closing character. Three disciplines say how a closing character gets
into the text: not at all; after an escape character; or written twice, when the closing character is
its own escape. An escape character before anything but the closing character stands for itself.

In the doubling discipline a single closing character is settled by the next character: another one
makes a pair, anything else, or the end of the input, closes the region before it.
-/

namespace LexKit

structure Delimiters where
  opening : Char
  closing : Char
  escape : Option Char
deriving Repr, DecidableEq

namespace Delimiters

def quotes (mark : Char) (escape : Option Char) : Delimiters := ⟨mark, mark, escape⟩

/-- Reads a region behind its opening character: the text kept so far, the nearest character first, and
the number of characters passed so far grow to the whole text and the whole length. -/
def readFrom (delimiters : Delimiters) : List Char → List Char → Nat → Option (List Char × Nat)
  | [], _, _ => none
  | char :: rest, kept, passed =>
      if delimiters.escape = some char then
        match rest with
        | [] => if char = delimiters.closing then some (kept.reverse, passed + 1) else none
        | second :: rest =>
            if second = delimiters.closing then
              readFrom delimiters rest (second :: kept) (passed + 2)
            else if char = delimiters.closing then some (kept.reverse, passed + 1)
            else readFrom delimiters rest (second :: char :: kept) (passed + 2)
      else if char = delimiters.closing then some (kept.reverse, passed + 1)
      else readFrom delimiters rest (char :: kept) (passed + 1)

/-- Matches a region and gives its text without delimiters and escapes. -/
def matcher (delimiters : Delimiters) : Matcher := fun cursor =>
  match cursor.rest with
  | [] => .still .noMatch
  | char :: body =>
      if char = delimiters.opening then
        match delimiters.readFrom body [] 1 with
        | some (text, count) => cursor.take count (some (String.ofList text))
        | none => .still (.failed (.unterminatedDelimiter cursor.position))
      else .still .noMatch

end Delimiters

end LexKit
