import LexKit.Delimiters
import LexKit.Pattern
import LexKit.Tokenizer

/-!
# Built-in matchers

All matchers that come with the library, as data. Each of them passes characters when it matches, the
check for the end of the input excepted, and stands still otherwise.
-/

namespace LexKit

inductive Primitive where
  /-- Passes a run of blanks. -/
  | blanks
  /-- Matches the end of the input and fails anywhere else. -/
  | endOfInput
  /-- A fixed text. -/
  | literal (text : String)
  /-- One character of a set. -/
  | oneCharOf (set : String)
  /-- The first of the fixed texts that comes next. -/
  | oneOfLiterals (texts : List String)
  /-- What an anchored pattern matches. -/
  | pattern (compiled : Pattern)
  /-- A delimited region. -/
  | delimited (region : Delimiters)
deriving Repr, DecidableEq

namespace Primitive

/-- Matches a fixed text; the empty one matches nowhere. -/
def literalMatcher (text : String) : Matcher := fun cursor =>
  let chars := text.toList
  if !chars.isEmpty && chars.isPrefixOf cursor.rest then cursor.takeText chars.length
  else .still .noMatch

/-- Matches the first of several texts that comes next. -/
def firstLiteral : List String → Matcher
  | [], _ => .still .noMatch
  | text :: texts, cursor =>
      let step := literalMatcher text cursor
      if step.outcome.isNoMatch then firstLiteral texts cursor else step

def blanksMatcher : Matcher := fun cursor =>
  let count := (cursor.rest.takeWhile Unicode.isBlank).length
  if count = 0 then .still .noMatch else cursor.take count none

def endMatcher : Matcher := fun cursor =>
  if cursor.atEnd then cursor.take 0 none
  else .still (.failed (.unexpectedTrailingInput cursor.position))

def charMatcher (set : String) : Matcher := fun cursor =>
  match cursor.peek with
  | some char => if set.toList.contains char then cursor.takeText 1 else .still .noMatch
  | none => .still .noMatch

def matcher : Primitive → Matcher
  | .blanks => blanksMatcher
  | .endOfInput => endMatcher
  | .literal text => literalMatcher text
  | .oneCharOf set => charMatcher set
  | .oneOfLiterals texts => firstLiteral texts
  | .pattern compiled => compiled.matcher
  | .delimited region => region.matcher

end Primitive

/-- A recognizer made of a built-in matcher, as data: it makes tokens or skips. -/
inductive Rule (τ : Type) where
  | emit (primitive : Primitive) (token : String → Span → τ)
  | skip (primitive : Primitive)

namespace Rule

variable {τ : Type}

def primitive : Rule τ → Primitive
  | .emit primitive _ => primitive
  | .skip primitive => primitive

def recognizer : Rule τ → Recognizer τ
  | .emit primitive token => Matcher.emit primitive.matcher token
  | .skip primitive => Matcher.skip primitive.matcher

end Rule

namespace Tokenizer

variable {τ : Type}

def ofRules (rules : List (Rule τ)) : Tokenizer τ := ⟨rules.map Rule.recognizer⟩

end Tokenizer

end LexKit
