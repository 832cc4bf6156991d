import LexKit.Sexpr.Token
import LexKit.Text.Similarity

/-!
# Options of the command line

Arguments are read from left to right. An argument that starts with two minus signs is a long option, one
that starts with a single minus and has more behind it is a list of one-letter flags, and all others name
the file, of which there is exactly one. Behind `--` every argument names a file. Reading stops at a
request for help or for the version and at an argument that has no place; what is missing, invalid or
repeated is noticed afterwards. A name that no option has is compared with those that there are, in case it
was mistyped.
-/

namespace LexKit.CommandLine

open Sexpr

structure Options where
  path : String
  quoteStyle : QuoteStyle
  /-- Whether input that nothing accepts is an error. -/
  endCheck : Bool
  /-- Whether errors are reported by name only. -/
  plainErrors : Bool := false
deriving Repr, DecidableEq

inductive Complaint where
  | helpWanted
  | versionWanted
  | unknownArgument (argument : String)
  /-- An option that there is not, and the name of one that it resembles, if there is one. -/
  | unknownOption (name : String) (similar : Option String)
  | missingFile
  | invalidStyle (value : String)
  | repeatedStyle
  | repeatedNoEndCheck
deriving Repr, DecidableEq

/-- What was read so far: the file, the values given for the quote style, the latest first, how often
that option was used with or without a value, and how often the end check was switched off. -/
structure Tally where
  file : Option String := none
  styles : List String := []
  styleUses : Nat := 0
  noEndCheckUses : Nat := 0
deriving Repr, DecidableEq

namespace Tally

def addStyle (tally : Tally) (value : String) : Tally :=
  { tally with styles := value :: tally.styles, styleUses := tally.styleUses + 1 }

/-- Notes a use of the quote style without a value, which leaves the default. -/
def addBareStyle (tally : Tally) : Tally := { tally with styleUses := tally.styleUses + 1 }

def addNoEndCheck (tally : Tally) : Tally :=
  { tally with noEndCheckUses := tally.noEndCheckUses + 1 }

end Tally

structure Refusal where
  complaint : Complaint
  tally : Tally
deriving Repr, DecidableEq

namespace Tally

/-- Notes the file; a second one has no place. -/
def addFile (tally : Tally) (argument : String) : Except Refusal Tally :=
  match tally.file with
  | none => .ok { tally with file := some argument }
  | some _ => .error ⟨.unknownArgument argument, tally⟩

/-- The options, if nothing is missing, invalid or repeated. -/
def options (tally : Tally) : Except Complaint Options :=
  match tally.file with
  | none => .error .missingFile
  | some path =>
      let values := tally.styles.reverse
      match values.find? fun value => (QuoteStyle.ofString? value).isNone with
      | some value => .error (.invalidStyle value)
      | none =>
          if 1 < tally.styleUses then .error .repeatedStyle
          else if 1 < tally.noEndCheckUses then .error .repeatedNoEndCheck
          else
            let style := values.head?.bind QuoteStyle.ofString?
            .ok { path, quoteStyle := style.getD .backslash, endCheck := tally.noEndCheckUses == 0 }

end Tally

inductive Argument where
  /-- All that follows names files. -/
  | lastOption
  /-- A long option, with the value behind an equals sign. -/
  | long (name : List Char) (value : Option (List Char))
  /-- One-letter flags. -/
  | short (first : Char)
  | file
deriving Repr, DecidableEq

namespace Argument

def isMinus (char : Char) : Bool := char == '-'

/-- The form of an argument. Any number of minus signs from two on starts a long option, and any number of
equals signs from one on its value. -/
def ofChars : List Char → Argument
  | ['-', '-'] => .lastOption
  | '-' :: '-' :: rest =>
      let (name, value) := (rest.dropWhile isMinus).span (· != '=')
      .long name (if value.isEmpty then none else some (value.dropWhile (· == '=')))
  | '-' :: first :: _ => .short first
  | _ => .file

def isValue : List Char → Bool
  | ['-'] => true
  | '-' :: _ => false
  | _ => true

end Argument

def longNames : List String := ["no-end-check", "help", "version", "quote-style"]

/-- Reads arguments from left to right; the flag holds behind `--`. -/
def readArguments : List String → Bool → Tally → Except Refusal Tally
  | [], _, tally => .ok tally
  | argument :: rest, true, tally => do readArguments rest true (← tally.addFile argument)
  | argument :: rest, false, tally =>
      match Argument.ofChars argument.toList with
      | .lastOption => readArguments rest true tally
      | .file => do readArguments rest false (← tally.addFile argument)
      | .short 'h' => .error ⟨.helpWanted, tally⟩
      | .short 'V' => .error ⟨.versionWanted, tally⟩
      | .short char => .error ⟨.unknownArgument (String.ofList ['-', char]), tally⟩
      | .long name value =>
          match String.ofList name with
          | "quote-style" =>
              match value, rest with
              | some value, rest => readArguments rest false (tally.addStyle (String.ofList value))
              | none, next :: others =>
                  if Argument.isValue next.toList then
                    readArguments others false (tally.addStyle next)
                  else readArguments (next :: others) false tally.addBareStyle
              | none, [] => .ok tally.addBareStyle
          | "no-end-check" => readArguments rest false tally.addNoEndCheck
          | "help" => .error ⟨.helpWanted, tally⟩
          | "version" => .error ⟨.versionWanted, tally⟩
          | name => .error ⟨.unknownOption name (Text.closest? name longNames), tally⟩

def Options.ofArguments (arguments : List String) : Except Refusal Options := do
  let tally ← readArguments arguments false {}
  match tally.options with
  | .ok options => .ok options
  | .error complaint => .error ⟨complaint, tally⟩

end LexKit.CommandLine
