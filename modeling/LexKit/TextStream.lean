import LexKit.Primitive.Bytewise
import LexKit.Scripted

/-!
# Streams

A stream is a text and a number of its bytes that were passed; nothing but what is done with it keeps that number
between two characters. Whoever looks at what is left cuts the text there and faults where it cannot be cut. A
fault takes nothing back: the stream is left as it was at that moment. Matchers, recognizers and scans are here
carried out on streams, one look and one move after another.
-/

namespace LexKit

open Text

structure TextStream where
  contents : List Char
  /-- The number of bytes that were passed. -/
  offset : Nat
deriving DecidableEq

namespace TextStream

/-- Something done with a stream: what it gives or how it faults, and the stream that it leaves. -/
def Action (α : Type) : Type := TextStream → Except Fault α × TextStream

instance : Monad Action where
  pure value := fun stream => (.ok value, stream)
  bind action next := fun stream =>
    match action stream with
    | (.ok value, stream) => next value stream
    | (.error fault, stream) => (.error fault, stream)

variable {α : Type}

def Action.ofExcept (result : Except Fault α) : Action α := fun stream => (result, stream)

def fault (fault : Fault) : Action α := fun stream => (.error fault, stream)

def current : Action TextStream := fun stream => (.ok stream, stream)

def moveTo (offset : Nat) : Action Unit := fun stream => (.ok (), { stream with offset := offset })

def isAtEnd (stream : TextStream) : Bool := stream.offset == byteLength stream.contents

def remaining : Action (List Char) := do
  let stream ← current
  match splitAtByte? stream.offset stream.contents with
  | some (_, rest) => pure rest
  | none => fault .outsideText

def peek : Action (Option Char) := do
  let rest ← remaining
  return rest.head?

def spanOfLength (length : Nat) : Action Span := do
  let stream ← current
  let stop ← Action.ofExcept (Position.advance stream.offset length)
  Action.ofExcept (Span.new? stream.offset stop)

def spanOfRange (start stop : Nat) : Action Span := do
  let stream ← current
  let first ← Action.ofExcept (Position.advance stream.offset start)
  let last ← Action.ofExcept (Position.advance stream.offset stop)
  Action.ofExcept (Span.new? first last)

/-- Passes a number of bytes, which have to end between characters. -/
def advance (length : Nat) : Action Span := do
  let rest ← remaining
  match splitAtByte? length rest with
  | none => do
      let stream ← current
      fault (.cannotAdvance length stream.offset)
  | some _ => do
      -- Nothing has moved yet if the span leaves 64 bits.
      let span ← spanOfLength length
      moveTo span.stop
      return span

def consume (length : Nat) : Action (String × Span) := do
  let rest ← remaining
  match headBytes? length rest with
  | none => fault .outsideText
  | some taken => do
      let span ← advance length
      return (String.ofList taken, span)

/-- The match of a number of bytes, with a text that stands for them. -/
def pass (length : Nat) (text : Option String) : Action (Outcome Extract) := do
  let span ← advance length
  return .matched ⟨text, span⟩

def take (length : Nat) : Action (Outcome Extract) := do
  let (text, span) ← consume length
  return .matched ⟨some text, span⟩

end TextStream

open TextStream

/-! ## Matchers -/

namespace Delimiters

def parse (delimiters : Delimiters) : Action (Outcome Extract) := do
  let rest ← remaining
  match charOffsets 0 rest with
  | [] => return .noMatch
  | (_, char) :: body =>
      if char = delimiters.opening then
        match delimiters.measureFrom (byteLength rest) body [] false with
        | some (text, length) => pass length (some (String.ofList text))
        | none => do
            let stream ← current
            return .failed (.unterminatedDelimiter stream.offset)
      else return .noMatch

end Delimiters

namespace Pattern

def parse (pattern : Pattern) : Action (Outcome Extract) := do
  let rest ← remaining
  match pattern.automaton.search rest with
  | some found =>
      let length := byteLength (rest.take found.stop)
      if 0 < length then take length else return .noMatch
  | none => return .noMatch

end Pattern

namespace Primitive

def parseBlanks : Action (Outcome Extract) := do
  let rest ← remaining
  let length := (firstOffset? (fun char => !Unicode.isBlank char) rest).getD (byteLength rest)
  if length = 0 then return .noMatch else pass length none

def parseEnd : Action (Outcome Extract) := do
  let stream ← current
  if stream.isAtEnd then return .matched ⟨none, Span.emptyAt stream.offset⟩
  else return .failed (.unexpectedTrailingInput stream.offset)

def parseChar (set : String) : Action (Outcome Extract) := do
  match ← peek with
  | some char => if set.toList.contains char then take char.utf8Size else return .noMatch
  | none => return .noMatch

def parseLiteral (text : String) : Action (Outcome Extract) := do
  let rest ← remaining
  if text.isEmpty || !text.toList.isPrefixOf rest then return .noMatch else take text.utf8ByteSize

def parseFirst : List String → Action (Outcome Extract)
  | [] => return .noMatch
  | text :: texts => do
      let outcome ← parseLiteral text
      if outcome.isNoMatch then parseFirst texts else return outcome

def parse : Primitive → Action (Outcome Extract)
  | .blanks => parseBlanks
  | .endOfInput => parseEnd
  | .literal text => parseLiteral text
  | .oneCharOf set => parseChar set
  | .oneOfLiterals texts => parseFirst texts
  | .pattern compiled => compiled.parse
  | .delimited region => region.parse

end Primitive

namespace Scripted

def parseApplies (script : Scripted) : Action Bool := do
  match script.onlyBefore with
  | none => return true
  | some set =>
      match ← peek with
      | none => return false
      | some char => return set.toList.contains char

def parse (script : Scripted) : Action (Outcome Extract) := do
  let applies ← script.parseApplies
  if applies then
    let stream ← current
    let rest ← remaining
    let (text, span) ← consume (byteLength (rest.take script.count))
    match script.reply with
    | .matched => return .matched ⟨some text, span⟩
    | .skipped => return .matched ⟨none, span⟩
    | .noMatch => return .noMatch
    | .unterminated => return .failed (.unterminatedDelimiter stream.offset)
    | .trailing => return .failed (.unexpectedTrailingInput stream.offset)
  else return .noMatch

end Scripted

inductive AnyMatcher where
  | builtIn (primitive : Primitive)
  | scripted (script : Scripted)

namespace AnyMatcher

def matcher : AnyMatcher → Matcher
  | .builtIn primitive => primitive.matcher
  | .scripted script => script.matcher

def parse : AnyMatcher → Action (Outcome Extract)
  | .builtIn primitive => primitive.parse
  | .scripted script => script.parse

end AnyMatcher

/-! ## Recognizers -/

variable {τ : Type}

inductive AnyRule (τ : Type) where
  | emit (source : AnyMatcher) (token : String → Span → τ)
  | skip (source : AnyMatcher)

namespace AnyRule

def recognizer : AnyRule τ → Recognizer τ
  | .emit source token => Matcher.emit source.matcher token
  | .skip source => Matcher.skip source.matcher

def recognize : AnyRule τ → Action (Outcome (Option τ))
  | .emit source token => do
      let outcome ← source.parse
      return outcome.map fun extract => extract.text.map fun text => token text extract.span
  | .skip source => do
      let outcome ← source.parse
      return outcome.map fun _ => none

end AnyRule

/-! ## Scans -/

namespace TextStream

inductive Round (τ : Type) where
  | goesOn (token : Option τ)
  | stops
  | fails (error : ScanError)

/-- Tries rules in order at the offset where the round started. -/
def tryRules (start : Nat) : List (AnyRule τ) → Action (Round τ)
  | [] => do
      -- What is left is asked for once more, to tell how much it is.
      let _ ← remaining
      return .stops
  | rule :: rules => do
      let outcome ← rule.recognize
      let stream ← current
      match outcome with
      | .noMatch => if stream.offset ≠ start then return .stops else tryRules start rules
      | .matched token => if stream.offset = start then return .stops else return .goesOn token
      | .failed error => return .fails error

/-- Scans for a number of rounds, behind the tokens made before, the latest first. -/
def scanRounds (rules : List (AnyRule τ)) : Nat → List τ → Action (Except ScanError (List τ))
  | 0, tokens => return .ok tokens.reverse
  | rounds + 1, tokens => do
      let stream ← current
      if stream.isAtEnd then return .ok tokens.reverse
      else
        match ← tryRules stream.offset rules with
        | .stops => return .ok tokens.reverse
        | .fails error => return .error error
        | .goesOn token => scanRounds rules rounds (token.toList ++ tokens)

/-- Scans from where the stream is. No scan takes more rounds than there are bytes. -/
def scan (rules : List (AnyRule τ)) : Action (Except ScanError (List τ)) := do
  let stream ← current
  scanRounds rules (byteLength stream.contents) []

end TextStream

end LexKit
