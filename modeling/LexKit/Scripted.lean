import LexKit.Step

/-!
# Scripted matchers

Matchers that do as they are told, rule-breaking included: they may pass input and answer that nothing
matched, match without passing anything, or fail after a move. A scan has to cope with all of them.
-/

namespace LexKit

inductive Reply where
  /-- The passed text and its span. -/
  | matched
  /-- The span alone. -/
  | skipped
  | noMatch
  /-- The error of an unclosed region at the place where the matcher started. -/
  | unterminated
  /-- The error of trailing input at the place where the matcher started. -/
  | trailing
deriving Repr, DecidableEq

/-- Passes up to `count` characters and gives the reply. With `onlyBefore`, applies only where one of
its characters comes next. -/
structure Scripted where
  count : Nat
  reply : Reply
  onlyBefore : Option String
deriving Repr, DecidableEq

namespace Scripted

def applies (script : Scripted) (cursor : Cursor) : Bool :=
  match script.onlyBefore with
  | none => true
  | some set => match cursor.peek with
    | none => false
    | some char => set.toList.contains char

def step (script : Scripted) (cursor : Cursor) : Step Extract :=
  match script.reply with
  | .matched => cursor.takeText script.count
  | .skipped => cursor.take script.count none
  | .noMatch => ⟨.noMatch, script.count⟩
  | .unterminated => ⟨.failed (.unterminatedDelimiter cursor.position), script.count⟩
  | .trailing => ⟨.failed (.unexpectedTrailingInput cursor.position), script.count⟩

def matcher (script : Scripted) : Matcher := fun cursor =>
  if script.applies cursor then script.step cursor else .still .noMatch

/-- The script as a recognizer: a reply with a text makes a token of it. -/
def recognizer {τ : Type} (script : Scripted) (token : String → Span → τ) : Recognizer τ :=
  Matcher.emit script.matcher token

end Scripted

end LexKit
