import LexKit.Diagnostic
import LexKit.Unicode.Properties

/-!
# Diagnostics in print

A diagnostic is shown with the line that its label is about: a headline, the place, the line behind its
number, and below it a caret under each column of the labelled part, followed by the remark.

Tabs reach to the next multiple of four columns, and all other characters take their display width. What
the line ends with, line ends and null characters, is not shown; a label there gets one caret behind the
line.
-/

namespace LexKit

open Text

namespace Diagnostic

/-- The line around a place: its number, the characters of the line before the place, and those from the
place on. -/
structure SourceLine where
  number : Nat
  before : List Char
  after : List Char
deriving Repr, DecidableEq

def lineAt (source : List Char) (position : Nat) : SourceLine :=
  let (head, tail) := (splitAtByte? position source).getD (source, [])
  ⟨head.count '\n' + 1, (head.reverse.takeWhile (· != '\n')).reverse, tail.takeWhile (· != '\n')⟩

/-- Characters that are not shown at the end of a line. -/
def isLineEnd (char : Char) : Bool := char == '\n' || char == '\r' || char == '\x00'

def SourceLine.shown (line : SourceLine) : List Char :=
  ((line.before ++ line.after).reverse.dropWhile isLineEnd).reverse

/-- Tabs reach to the next multiple of this many columns. -/
def tabWidth : Nat := 4

def columnsOf (column : Nat) (char : Char) : Nat :=
  if char = '\t' then tabWidth - column % tabWidth else Unicode.displayWidth char

def blanks (count : Nat) : List Char := List.replicate count ' '

/-- A character of a line with its byte offset in the line and the columns that it takes. -/
structure Column where
  char : Char
  offset : Nat
  width : Nat
deriving Repr, DecidableEq

/-- The columns of a line, behind a number of bytes and a number of display columns; the columns found so
far come with the latest first. -/
def columnsFrom (offset column : Nat) (before : List Column) : List Char → List Column
  | [] => before.reverse
  | char :: rest =>
      let width := columnsOf column char
      columnsFrom (offset + char.utf8Size) (column + width) (⟨char, offset, width⟩ :: before) rest

def columns (line : List Char) : List Column := columnsFrom 0 0 [] line

def expandTabs (line : List Char) : List Char :=
  (columns line).flatMap fun column =>
    if column.char = '\t' then blanks column.width else [column.char]

/-- What stands below a column: carets if it overlaps the bytes from `start` to `stop`, blanks before
them, and nothing behind them. -/
def mark (start stop : Nat) (column : Column) : List Char :=
  if start < column.offset + column.char.utf8Size ∧ column.offset < stop then
    List.replicate column.width '^'
  else if column.offset < stop then blanks column.width
  else []

/-- The carets below a line. Behind the last character there is a place of one column. -/
def carets (start stop : Nat) (line : List Char) : List Char :=
  (columns line ++ [Column.mk '\x00' (byteLength line) 1]).flatMap (mark start stop)

def render (path : String) (source : List Char) (diagnostic : Diagnostic) : String :=
  let span := diagnostic.label.span
  let line := lineAt source span.start
  let shown := line.shown
  let start := byteLength line.before
  let stop := max (start + span.length) (start + 1)
  let number := toString line.number
  let gutter := String.ofList (blanks number.length)
  let place := path ++ ":" ++ number ++ ":" ++ toString (line.before.length + 1)
  String.join [
    "error[", diagnostic.code, "]: ", diagnostic.message, "\n",
    gutter, " ┌─ ", place, "\n",
    gutter, " │\n",
    number, " │ ", String.ofList (expandTabs shown), "\n",
    gutter, " │ ", String.ofList (carets start stop shown), " ", diagnostic.label.message, "\n",
    "\n"]

end Diagnostic

end LexKit
