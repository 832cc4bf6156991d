import LexKit.CommandLine.Folder
import LexKit.CommandLine.Usage
import LexKit.CommandLine.Writer
import LexKit.Diagnostic.Render
import LexKit.Log
import LexKit.Sexpr.Tokenizer

/-!
# Running the program

A run scans what a file holds and writes one line for each token, or, if the scan fails, nothing but a
report of the error. The lines go to a writer, which may refuse to take all of them.
-/

namespace LexKit.CommandLine

open Sexpr

inductive Verdict where
  | ok
  /-- The file could not be read, or the lines not be written. -/
  | ioError
  /-- The file holds malformed input. -/
  | scanError
deriving Repr, DecidableEq

inductive Notice where
  | opened (path : String) (bytes : Nat) (style : QuoteStyle)
  | scan (event : Event)
deriving Repr, DecidableEq

namespace Notice

def level : Notice → Level
  | .opened _ _ _ => .debug
  | .scan event => event.level

def message : Notice → String
  | .opened path bytes style =>
      "tokenizing " ++ path ++ " (" ++ toString bytes ++ " bytes, quote style " ++ style.describe ++ ")"
  | .scan event => event.message

end Notice

/-- All that a run leaves behind: its verdict, the bytes it wrote, what it reported, and its course. -/
structure Report where
  verdict : Verdict
  output : ByteArray
  errors : String
  notices : List Notice

def errorText (options : Options) (source : String) (error : ScanError) : String :=
  if options.plainErrors then error.describe ++ "\n"
  else (error.diagnostic source.toList).render options.path source.toList

def unreadable (reason : String) : Report :=
  ⟨.ioError, .empty, "Error while reading the source file:\n" ++ reason ++ "\n", []⟩

def runOn (options : Options) (writer : Writer) (source : String) : Report :=
  let tokenizer := Sexpr.tokenizer options.quoteStyle options.endCheck
  let log := tokenizer.log (Cursor.ofString source)
  let notices := .opened options.path source.utf8ByteSize options.quoteStyle :: log.events.map .scan
  match log.result with
  | .error error => ⟨.scanError, .empty, errorText options source error, notices⟩
  | .ok lexemes =>
      let output := writer.writeLines .empty lexemes
      if output.refused then
        ⟨.ioError, output.bytes, "Error while writing tokens:\n" ++ writer.refusal ++ "\n", notices⟩
      else ⟨.ok, output.bytes, "", notices⟩

/-- Runs on what reading the file came to, with any writer. -/
def runTo (options : Options) (writer : Writer) (file : Except ReadFault ByteArray) : Report :=
  match file with
  | .error fault => unreadable fault.reason
  | .ok bytes =>
      match String.fromUTF8? bytes with
      | none => unreadable "stream did not contain valid UTF-8"
      | some source => runOn options writer source

def run (options : Options) (room : Option Nat) (file : Except ReadFault ByteArray) : Report :=
  runTo options (.ofRoom room) file

structure Exit where
  code : UInt32
  output : ByteArray
  errors : String

def Rejection.exit (rejection : Rejection) : Exit :=
  if rejection.isInformation then
    ⟨0, (rejection.printed ++ rejection.message ++ "\n").toUTF8, ""⟩
  else ⟨1, .empty, rejection.message ++ "\n"⟩

def Report.exit (report : Report) : Exit :=
  ⟨if report.verdict = .ok then 0 else 1, report.output, report.errors⟩

end LexKit.CommandLine
