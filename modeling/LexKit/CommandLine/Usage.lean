import LexKit.CommandLine.Options

/-!
# Usage of the program

The texts that explain how the program is called, and what is said about arguments it cannot use.
-/

namespace LexKit.CommandLine

/-- The name and version of the program where it goes by its own name. -/
def ownName : String := "betokened"

def version : String := "0.1.0"

/-- The last part of a path, unless that leads upwards or there is none. -/
def lastName? (path : String) : Option String :=
  match (path.splitOn "/").filter (fun part => part != "" && part != ".") |>.getLast? with
  | some ".." => none
  | name => name

def calledName (path : String) : String := (lastName? path).getD ownName

/-- The program with its version. A called name of several words stands for the name of the program, its
words joined by minus signs. -/
def versionText (name : String) : String :=
  let shown := if name.contains ' ' then name.map fun char => if char = ' ' then '-' else char else ownName
  shown ++ " " ++ version

def longUsage (name : String) : String := name ++ " [FLAGS] [OPTIONS] <FILE>"

/-- The options that a complaint shows: those used so far, and the one that is suggested; where all arguments
were read, the quote style has a value in any case. -/
def shownOptions (refusal : Refusal) : List String :=
  let (style, suggested) : Bool × Option String := match refusal.complaint with
    | .unknownArgument _ => (0 < refusal.tally.styleUses, none)
    | .unknownOption _ similar => (0 < refusal.tally.styleUses, similar)
    | _ => (true, none)
  (if suggested = some "help" then ["--help"] else [])
    ++ (if 0 < refusal.tally.noEndCheckUses ∨ suggested = some "no-end-check" then ["--no-end-check"] else [])
    ++ (if style ∨ suggested = some "quote-style" then ["--quote-style <quote-style>"] else [])
    ++ (if suggested = some "version" then ["--version"] else [])

def usage (name : String) (refusal : Refusal) : String :=
  match shownOptions refusal with
  | [] => longUsage name
  | shown => name ++ " <FILE>" ++ String.join (shown.map (" " ++ ·))

def helpText (name : String) : String :=
  String.join [
    versionText name, "\n",
    "Tokenizes files written in a small s-expression notation\n",
    "\n",
    "USAGE:\n",
    "    ", longUsage name, "\n",
    "\n",
    "FLAGS:\n",
    "    -h, --help            Prints help information\n",
    "        --no-end-check    Stop quietly at unrecognized input instead of reporting an error\n",
    "    -V, --version         Prints version information\n",
    "\n",
    "OPTIONS:\n",
    "        --quote-style <quote-style>    How double quotes are escaped inside strings ",
    "[default: backslash]  [possible\n",
    "                                       values: backslash, doubled]\n",
    "\n",
    "ARGS:\n",
    "    <FILE>    Path to the file to tokenize"]

def tail (usage : String) : String :=
  "\n\nUSAGE:\n    " ++ usage ++ "\n\nFor more information try --help"

def repeatedText (argument : String) : String :=
  "error: The argument '" ++ argument
    ++ "' was provided more than once, but cannot be used multiple times"

def green (text : String) : String := "\x1b[32m" ++ text ++ "\x1b[0m"

def optionHint (similar : Option String) : String :=
  match similar with
  | none => ""
  | some name => "\n\tDid you mean " ++ green "--" ++ green name ++ "?"

def valueHint (similar : Option String) : String :=
  match similar with
  | none => ""
  | some value => "\n\tDid you mean '" ++ green value ++ "'?"

def unexpectedText (argument : String) : String :=
  "error: Found argument '" ++ argument ++ "' which wasn't expected, or isn't valid in this context"

structure Rejection where
  refusal : Refusal
  name : String
deriving Repr, DecidableEq

namespace Rejection

/-- The wording of a rejection. A wanted version is not a matter of words. -/
def message (rejection : Rejection) : String :=
  let ending := tail (usage rejection.name rejection.refusal)
  match rejection.refusal.complaint with
  | .helpWanted => helpText rejection.name
  | .versionWanted => ""
  | .unknownArgument argument => unexpectedText argument ++ ending
  | .unknownOption name similar => unexpectedText ("--" ++ name) ++ optionHint similar ++ ending
  | .missingFile =>
      "error: The following required arguments were not provided:\n    <FILE>" ++ ending
  | .invalidStyle value =>
      "error: '" ++ value ++ "' isn't a valid value for '--quote-style <quote-style>'\n"
        ++ "\t[possible values: " ++ ", ".intercalate Sexpr.QuoteStyle.names ++ "]\n"
        ++ valueHint (Text.closest? value Sexpr.QuoteStyle.names) ++ ending
  | .repeatedStyle => repeatedText "--quote-style <quote-style>" ++ ending
  | .repeatedNoEndCheck => repeatedText "--no-end-check" ++ ending

/-- What is printed at once: the version, where it is wanted. -/
def printed (rejection : Rejection) : String :=
  match rejection.refusal.complaint with
  | .versionWanted => versionText rejection.name
  | _ => ""

def isInformation (rejection : Rejection) : Bool :=
  match rejection.refusal.complaint with
  | .helpWanted | .versionWanted => true
  | _ => false

end Rejection

/-- The options of a call: the path of the program, then its arguments. -/
def Options.ofCall (call : List String) : Except Rejection Options :=
  match Options.ofArguments call.tail with
  | .ok options => .ok options
  | .error refusal => .error ⟨refusal, calledName (call.head?.getD "")⟩

end LexKit.CommandLine
