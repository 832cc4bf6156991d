import LexKit.Tokenizer

/-!
# Events

What a scan tells about its course: where it starts, each accepted piece, why it stops before the end of
the input, and what it comes to. Events are ordered by importance, and a reader who asks for a level gets
the events of that level and the more important ones.
-/

namespace LexKit

/-- Importance of an event, the most important first. -/
inductive Level where
  | error
  | warn
  | info
  | debug
  | trace
deriving Repr, DecidableEq

namespace Level

/-- The rank of a level; zero is reserved for hearing nothing. -/
def rank : Level → Nat
  | .error => 1
  | .warn => 2
  | .info => 3
  | .debug => 4
  | .trace => 5

end Level

inductive Event where
  | started (position : Nat) (recognizers : Nat)
  | token (span : Span)
  | skipped (span : Span)
  | strayed (position : Nat)
  | stalled (position : Nat)
  | nothingApplies (position : Nat) (left : Nat)
  | failed (error : ScanError)
  | produced (tokens : Nat)
deriving Repr, DecidableEq

namespace Event

def level : Event → Level
  | .token _ | .skipped _ => .trace
  | _ => .debug

def message : Event → String
  | .started position recognizers =>
      s!"tokenizing from offset {position} with {recognizers} recognizers"
  | .token span => "token at " ++ span.render
  | .skipped span => "skipped " ++ span.render
  | .strayed position =>
      s!"recognizer moved past offset {position} without matching, stopping"
  | .stalled position =>
      s!"recognizer matched at offset {position} without consuming input, stopping"
  | .nothingApplies position left =>
      s!"no recognizer applies at offset {position}, leaving {left} bytes unconsumed"
  | .failed error => "tokenizing failed: " ++ error.render
  | .produced tokens => s!"tokenizing produced {tokens} tokens"

end Event

/-- What is heard and seen of a scan: its events, its tokens or an error, and the cursor that it left behind. -/
structure Log (τ : Type) where
  events : List Event
  result : Except ScanError (List τ)
  final : Cursor

namespace Log

variable {τ : Type}

/-- The end of a scan without an error, behind the events and with the tokens so far, the latest first in both. -/
def finish (told : List Event) (tokens : List τ) (final : Cursor) : Log τ :=
  ⟨(.produced tokens.length :: told).reverse, .ok tokens.reverse, final⟩

end Log

namespace Tokenizer

variable {τ : Type}

/-- Scans from a cursor on and tells of each piece when it is accepted, and of what stops the scan when it does. -/
def logFrom (tokenizer : Tokenizer τ) (cursor : Cursor) (told : List Event) (tokens : List τ) : Log τ :=
  if cursor.atEnd then .finish told tokens cursor
  else
    match _h : attempt cursor tokenizer.recognizers with
    | .halted .atEnd moved => .finish told tokens (cursor.forward moved)
    | .halted .nothingApplies moved =>
        .finish (.nothingApplies cursor.position (Text.byteLength cursor.rest) :: told) tokens (cursor.forward moved)
    | .halted .strayed moved => .finish (.strayed cursor.position :: told) tokens (cursor.forward moved)
    | .halted .stalled moved => .finish (.stalled cursor.position :: told) tokens (cursor.forward moved)
    | .halted (.failed error) moved => ⟨(.failed error :: told).reverse, .error error, cursor.forward moved⟩
    | .accepted (some token) moved =>
        let next := cursor.forward moved
        logFrom tokenizer next (.token ⟨cursor.position, next.position⟩ :: told) (token :: tokens)
    | .accepted none moved =>
        let next := cursor.forward moved
        logFrom tokenizer next (.skipped ⟨cursor.position, next.position⟩ :: told) tokens
termination_by cursor.rest.length
decreasing_by all_goals exact Cursor.length_forward_lt (position_ne_of_attempt _h)

def log (tokenizer : Tokenizer τ) (cursor : Cursor) : Log τ :=
  tokenizer.logFrom cursor [.started cursor.position tokenizer.length] []

def events (tokenizer : Tokenizer τ) (cursor : Cursor) : List Event := (tokenizer.log cursor).events

end Tokenizer

end LexKit
