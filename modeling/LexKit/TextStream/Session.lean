import LexKit.Session
import LexKit.TextStream

/-!
# Sessions at a stream

The session that keeps a stream instead of a cursor. An instruction that faults leaves whatever stream it had come
to; that this is the stream it started from is a property of what can be instructed.
-/

namespace LexKit

open TextStream

variable {τ α : Type}

inductive Instruction (τ : Type) where
  | parse (source : AnyMatcher)
  | recognize (rule : AnyRule τ)
  | tokenize (rules : List (AnyRule τ))
  | advance (length : Nat)
  | consume (length : Nat)
  | peek
  | remaining
  | contents
  | spanOfLength (length : Nat)
  | spanOfRange (start stop : Nat)
  | save
  | restore

/-- The command that does the same at a cursor. -/
def Instruction.command : Instruction τ → Command τ
  | .parse source => .parse source.matcher
  | .recognize rule => .recognize rule.recognizer
  | .tokenize rules => .tokenize ⟨rules.map AnyRule.recognizer⟩
  | .advance length => .advance length
  | .consume length => .consume length
  | .peek => .peek
  | .remaining => .remaining
  | .contents => .contents
  | .spanOfLength length => .spanOfLength length
  | .spanOfRange start stop => .spanOfRange start stop
  | .save => .save
  | .restore => .restore

/-- The stream of a session and the copy of it that the session can go back to. -/
structure StreamSession where
  stream : TextStream
  saved : TextStream

namespace StreamSession

def ofString (text : String) : StreamSession := ⟨⟨text.toList, 0⟩, ⟨text.toList, 0⟩⟩

def perform (session : StreamSession) (action : Action α) (answer : α → Answer τ) :
    Answer τ × StreamSession :=
  match action session.stream with
  | (.ok value, stream) => (answer value, { session with stream := stream })
  | (.error fault, stream) => (.fault fault, { session with stream := stream })

def carryOut (session : StreamSession) : Instruction τ → Answer τ × StreamSession
  | .parse source => session.perform source.parse .parsed
  | .recognize rule => session.perform rule.recognize .recognized
  | .tokenize rules => session.perform (scan rules) .tokens
  | .advance length => session.perform (TextStream.advance length) .span
  | .consume length => session.perform (TextStream.consume length) fun (text, span) => .consumed text span
  | .peek => session.perform TextStream.peek .char
  | .remaining => session.perform TextStream.remaining fun rest => .text (String.ofList rest)
  | .contents => (.text (String.ofList session.stream.contents), session)
  | .spanOfLength length => session.perform (TextStream.spanOfLength length) .span
  | .spanOfRange start stop => session.perform (TextStream.spanOfRange start stop) .span
  | .save => (.done, { session with saved := session.stream })
  | .restore => (.done, { session with stream := session.saved })

def carryOutAll (session : StreamSession) (script : List (Instruction τ)) : StreamSession :=
  script.foldl (fun session instruction => (session.carryOut instruction).2) session

end StreamSession

end LexKit
