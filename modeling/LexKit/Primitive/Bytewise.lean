import LexKit.Primitive

/-!
# Matchers that count bytes

The built-in matchers once more, in terms of bytes. Each of them finds the number of bytes that it takes in
a way of its own and asks the cursor to pass them; the cursor refuses bytes that end inside a character,
behind the input or beyond 64 bits. A matcher that counts characters cannot meet such a refusal, so the two
kinds agree just when no count of bytes is ever off.
-/

namespace LexKit

open Text

namespace Text

def charOffsets : Nat → List Char → List (Nat × Char)
  | _, [] => []
  | offset, char :: rest => (offset, char) :: charOffsets (offset + char.utf8Size) rest

def firstOffset? (property : Char → Bool) (text : List Char) : Option Nat :=
  ((charOffsets 0 text).find? fun (_, char) => property char).map (·.1)

end Text

/-- Looks for a piece of text at a cursor and passes its bytes, unless the cursor refuses. -/
abbrev ByteMatcher := Cursor → Except Fault (Outcome Extract × Cursor)

namespace Cursor

def stay (cursor : Cursor) (outcome : Outcome Extract) : Except Fault (Outcome Extract × Cursor) :=
  .ok (outcome, cursor)

/-- The match of a number of bytes, with a text that stands for them. -/
def passBytes (cursor : Cursor) (length : Nat) (text : Option String) :
    Except Fault (Outcome Extract × Cursor) := do
  let (span, next) ← cursor.advance length
  .ok (.matched ⟨text, span⟩, next)

def takeBytes (cursor : Cursor) (length : Nat) : Except Fault (Outcome Extract × Cursor) := do
  let (text, span, next) ← cursor.consume length
  .ok (.matched ⟨some text, span⟩, next)

end Cursor

namespace Delimiters

/-- Reads a region behind its opening character, one character after another: the text kept so far, the
nearest character first, and whether an escape was passed that waits for the next character. Gives the text
and the length in bytes; `size` is the length of all that is there. -/
def measureFrom (delimiters : Delimiters) (size : Nat) :
    List (Nat × Char) → List Char → Bool → Option (List Char × Nat)
  | [], kept, escaping =>
      if escaping && delimiters.escape == some delimiters.closing then some (kept.reverse, size) else none
  | (offset, char) :: rest, kept, escaping =>
      match delimiters.escape with
      | none =>
          if char = delimiters.closing then some (kept.reverse, offset + char.utf8Size)
          else measureFrom delimiters size rest (char :: kept) false
      | some escape =>
          if escaping then
            if char = delimiters.closing then measureFrom delimiters size rest (char :: kept) false
            else if escape = delimiters.closing then some (kept.reverse, offset)
            else measureFrom delimiters size rest (char :: escape :: kept) false
          else if char = escape then measureFrom delimiters size rest kept true
          else if char = delimiters.closing then some (kept.reverse, offset + char.utf8Size)
          else measureFrom delimiters size rest (char :: kept) false

def bytewise (delimiters : Delimiters) : ByteMatcher := fun cursor =>
  match charOffsets 0 cursor.rest with
  | [] => cursor.stay .noMatch
  | (_, char) :: body =>
      if char = delimiters.opening then
        match delimiters.measureFrom (byteLength cursor.rest) body [] false with
        | some (text, length) => cursor.passBytes length (some (String.ofList text))
        | none => cursor.stay (.failed (.unterminatedDelimiter cursor.position))
      else cursor.stay .noMatch

end Delimiters

namespace Pattern

/-- Matches the bytes up to the end of the match of the pattern, if there are any. -/
def bytewise (pattern : Pattern) : ByteMatcher := fun cursor =>
  match pattern.automaton.search cursor.rest with
  | some found =>
      let length := byteLength (cursor.rest.take found.stop)
      if 0 < length then cursor.takeBytes length else cursor.stay .noMatch
  | none => cursor.stay .noMatch

end Pattern

namespace Primitive

def literalBytewise (text : String) : ByteMatcher := fun cursor =>
  if text.isEmpty || !text.toList.isPrefixOf cursor.rest then cursor.stay .noMatch
  else cursor.takeBytes text.utf8ByteSize

/-- Matches the first of several texts that comes next, going on from where the one before stood still. -/
def firstLiteralBytewise : List String → ByteMatcher
  | [], cursor => cursor.stay .noMatch
  | text :: texts, cursor => do
      let (outcome, next) ← literalBytewise text cursor
      if outcome.isNoMatch then firstLiteralBytewise texts next else .ok (outcome, next)

def blanksBytewise : ByteMatcher := fun cursor =>
  let length := (firstOffset? (fun char => !Unicode.isBlank char) cursor.rest).getD (byteLength cursor.rest)
  if length = 0 then cursor.stay .noMatch else cursor.passBytes length none

def endBytewise : ByteMatcher := fun cursor =>
  if cursor.position = byteLength cursor.text then
    cursor.stay (.matched ⟨none, Span.emptyAt cursor.position⟩)
  else cursor.stay (.failed (.unexpectedTrailingInput cursor.position))

def charBytewise (set : String) : ByteMatcher := fun cursor =>
  match cursor.peek with
  | some char =>
      if set.toList.contains char then cursor.takeBytes char.utf8Size else cursor.stay .noMatch
  | none => cursor.stay .noMatch

def bytewise : Primitive → ByteMatcher
  | .blanks => blanksBytewise
  | .endOfInput => endBytewise
  | .literal text => literalBytewise text
  | .oneCharOf set => charBytewise set
  | .oneOfLiterals texts => firstLiteralBytewise texts
  | .pattern compiled => compiled.bytewise
  | .delimited region => region.bytewise

end Primitive

namespace Rule

variable {τ : Type}

def result : Rule τ → Extract → Option τ
  | .emit _ token, extract => extract.text.map fun text => token text extract.span
  | .skip _, _ => none

def bytewise (rule : Rule τ) (cursor : Cursor) : Except Fault (Outcome (Option τ) × Cursor) := do
  let (outcome, next) ← rule.primitive.bytewise cursor
  .ok (outcome.map rule.result, next)

end Rule

/-! ## Comparing bytes

The matchers of fixed texts once more, which compare the bytes of a text with the bytes that come next and know
nothing of characters. A byte alone does not say where a character begins, so that they never take a part of one is
a property of the encoding. -/

def Text.encode (text : List Char) : List UInt8 := text.flatMap String.utf8EncodeChar

namespace Primitive

/-- Matches a fixed text; the empty one matches nowhere. -/
def literalEncoded (text : String) : ByteMatcher := fun cursor =>
  let bytes := encode text.toList
  if bytes.isEmpty || !bytes.isPrefixOf (encode cursor.rest) then cursor.stay .noMatch
  else cursor.takeBytes bytes.length

def firstLiteralEncoded : List String → ByteMatcher
  | [], cursor => cursor.stay .noMatch
  | text :: texts, cursor => do
      let (outcome, next) ← literalEncoded text cursor
      if outcome.isNoMatch then firstLiteralEncoded texts next else .ok (outcome, next)

end Primitive

end LexKit
