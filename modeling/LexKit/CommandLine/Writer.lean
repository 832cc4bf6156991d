import LexKit.Sexpr.Token

/-!
# Writers

A writer takes bytes, one offer after another. It may take less than it is offered, but as long as there is
room it takes something, and without room it refuses. What is to be written is offered again and again, each time
what is left of it, and after a refusal nothing more is offered.
-/

namespace LexKit.CommandLine

open Sexpr

structure Writer where
  /-- The number of bytes that it takes in all, if that is limited. -/
  room : Option Nat
  /-- How much of an offer it takes at once, by the number of bytes taken before and of those offered. -/
  portion : Nat → Nat → Nat
  /-- What it says when it refuses. -/
  refusal : String

/-- The bytes that a writer has taken, and whether it has refused the next. -/
structure Output where
  bytes : ByteArray
  refused : Bool

def Output.andThen (output : Output) (next : ByteArray → Output) : Output :=
  if output.refused then output else next output.bytes

namespace Writer

/-- The writer with a number of bytes of room that takes as much as it can. -/
def ofRoom (room : Option Nat) : Writer := ⟨room, fun _ offered => offered, "no room left"⟩

/-- The number of bytes that are taken of an offer, behind a number of bytes taken before. -/
def accepts (writer : Writer) (taken offered : Nat) : Nat :=
  let portion := min (max 1 (writer.portion taken offered)) offered
  match writer.room with
  | none => portion
  | some room => min portion (room - taken)

/-- Offers the bytes of a piece from an offset on, until all are taken or the writer refuses. -/
def writeFrom (writer : Writer) (piece : ByteArray) (start : Nat) (written : ByteArray) : Output :=
  if start < piece.size then
    let count := writer.accepts written.size (piece.size - start)
    if count = 0 then ⟨written, true⟩
    else writer.writeFrom piece (start + count) (written ++ piece.extract start (start + count))
  else ⟨written, false⟩
termination_by piece.size - start

def writePieces (writer : Writer) (written : ByteArray) : List String → Output
  | [] => ⟨written, false⟩
  | piece :: pieces =>
      (writer.writeFrom piece.toUTF8 0 written).andThen fun written => writer.writePieces written pieces

def writeLines (writer : Writer) (written : ByteArray) : List Lexeme → Output
  | [] => ⟨written, false⟩
  | lexeme :: lexemes =>
      (writer.writePieces written lexeme.linePieces).andThen fun written =>
        writer.writeLines written lexemes

end Writer

end LexKit.CommandLine
