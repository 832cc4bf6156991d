import LexKit.Unicode.Properties

/-!
# Flags of patterns

Flags change how the text of a pattern is read from some place on. In verbose text, blanks and comments
stand for nothing; a comment runs from `#` to the end of its line.
-/

namespace LexKit.Regex

structure Flags where
  /-- Letters match in either case. -/
  ignoreCase : Bool := false
  /-- Line starts and ends are places of their own. -/
  multiLine : Bool := false
  /-- The dot matches a line end too. -/
  dotAll : Bool := false
  /-- Repetitions prefer few rounds, and many when marked. -/
  swapGreed : Bool := false
  /-- Classes and case reach beyond ASCII. -/
  unicode : Bool := true
  /-- A carriage return ends lines too. -/
  crlf : Bool := false
  /-- Blanks and comments are left out. -/
  verbose : Bool := false
deriving Repr, DecidableEq

/-- Leaves out blanks and comments at the start of a text. -/
def skipVerbose : Bool → List Char → List Char
  | _, [] => []
  | true, char :: rest => skipVerbose (char != '\n') rest
  | false, char :: rest =>
      if Unicode.isBlank char then skipVerbose false rest
      else if char == '#' then skipVerbose true rest
      else char :: rest

/-- Takes characters of a kind from the start of a text, and leaves out blanks and comments before,
between and after them. -/
def spanVerbose (kind : Char → Bool) : Bool → List Char → List Char × List Char
  | _, [] => ([], [])
  | true, char :: rest => spanVerbose kind (char != '\n') rest
  | false, char :: rest =>
      if Unicode.isBlank char then spanVerbose kind false rest
      else if char == '#' then spanVerbose kind true rest
      else if kind char then
        let (taken, rest) := spanVerbose kind false rest
        (char :: taken, rest)
      else ([], char :: rest)

namespace Flags

def skip (flags : Flags) (text : List Char) : List Char :=
  if flags.verbose then skipVerbose false text else text

def span (flags : Flags) (kind : Char → Bool) (text : List Char) : List Char × List Char :=
  if flags.verbose then spanVerbose kind false text
  else (text.takeWhile kind, text.dropWhile kind)

/-- The first character behind the next one, as a look ahead inside brackets sees it: of blanks and the
mark of a comment, but not of the comment itself, it takes no notice. -/
def lookAhead (flags : Flags) (text : List Char) : Option Char :=
  if flags.verbose then
    match text.dropWhile Unicode.isBlank with
    | '#' :: comment => (comment.dropWhile Unicode.isBlank).head?
    | rest => rest.head?
  else text.head?

def set? (flags : Flags) (letter : Char) (value : Bool) : Option Flags :=
  match letter with
  | 'i' => some { flags with ignoreCase := value }
  | 'm' => some { flags with multiLine := value }
  | 's' => some { flags with dotAll := value }
  | 'U' => some { flags with swapGreed := value }
  | 'u' => some { flags with unicode := value }
  | 'R' => some { flags with crlf := value }
  | 'x' => some { flags with verbose := value }
  | _ => none

/-- Reads flag letters up to a colon or a closing parenthesis, which is given back. A minus, at most one
and not the last, clears the flags behind it; no letter comes twice. The letters read so far are kept,
the latest first. -/
def read? (flags : Flags) (letters : List Char) : List Char → Option (Flags × Char × List Char)
  | [] => none
  | char :: rest =>
      if char = ':' ∨ char = ')' then
        if letters.head? = some '-' then none else some (flags, char, rest)
      else if letters.contains char then none
      else if char = '-' then read? flags ('-' :: letters) rest
      else do
        let flags ← flags.set? char (!letters.contains '-')
        read? flags (char :: letters) rest

end Flags

end LexKit.Regex
