import LexKit.Tokenizer

/-!
# Sessions

A session keeps a cursor and a saved place to go back to, and carries out commands one after another. A
command that faults leaves the session as it was. Only going back makes the position smaller.
-/

namespace LexKit

variable {τ : Type}

inductive Command (τ : Type) where
  | parse (matcher : Matcher)
  | recognize (recognizer : Recognizer τ)
  | tokenize (tokenizer : Tokenizer τ)
  | advance (length : Nat)
  | consume (length : Nat)
  | peek
  | remaining
  | contents
  | spanOfLength (length : Nat)
  | spanOfRange (start stop : Nat)
  | save
  | restore

inductive Answer (τ : Type) where
  | parsed (outcome : Outcome Extract)
  | recognized (outcome : Outcome (Option τ))
  | tokens (result : Except ScanError (List τ))
  | span (span : Span)
  | consumed (text : String) (span : Span)
  | char (char : Option Char)
  | text (text : String)
  | done
  | fault (fault : Fault)

/-- The cursor of a session and the place it can go back to. -/
structure Session where
  cursor : Cursor
  saved : Cursor

namespace Session

def ofString (text : String) : Session := ⟨Cursor.ofString text, Cursor.ofString text⟩

def moveTo (session : Session) (cursor : Cursor) : Session := { session with cursor := cursor }

def run (session : Session) : Command τ → Answer τ × Session
  | .parse matcher =>
      let step := matcher session.cursor
      (.parsed step.outcome, session.moveTo (step.next session.cursor))
  | .recognize recognizer =>
      let step := recognizer session.cursor
      (.recognized step.outcome, session.moveTo (step.next session.cursor))
  | .tokenize tokenizer =>
      let scan := tokenizer.scan session.cursor
      (.tokens scan.result, session.moveTo scan.final)
  | .advance length =>
      match session.cursor.advance length with
      | .ok (span, cursor) => (.span span, session.moveTo cursor)
      | .error fault => (.fault fault, session)
  | .consume length =>
      match session.cursor.consume length with
      | .ok (text, span, cursor) => (.consumed text span, session.moveTo cursor)
      | .error fault => (.fault fault, session)
  | .peek => (.char session.cursor.peek, session)
  | .remaining => (.text session.cursor.remaining, session)
  | .contents => (.text session.cursor.contents, session)
  | .spanOfLength length =>
      match session.cursor.spanOfLength length with
      | .ok span => (.span span, session)
      | .error fault => (.fault fault, session)
  | .spanOfRange start stop =>
      match session.cursor.spanOfRange start stop with
      | .ok span => (.span span, session)
      | .error fault => (.fault fault, session)
  | .save => (.done, { session with saved := session.cursor })
  | .restore => (.done, session.moveTo session.saved)

end Session

end LexKit
