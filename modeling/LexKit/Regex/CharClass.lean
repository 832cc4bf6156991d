import LexKit.Unicode.Properties

/-!
# Character classes

A set of characters, written down as it was put together: ranges, named classes, set operations, and
closure under a change of case.
-/

namespace LexKit.Regex

inductive NamedClass where
  | digit
  | blank
  | word
deriving Repr, DecidableEq

namespace NamedClass

def mem : NamedClass → Char → Bool
  | .digit => Unicode.isDigit
  | .blank => Unicode.isBlank
  | .word => Unicode.isWord

end NamedClass

inductive CharClass where
  | none
  | range (low high : Char)
  | named (name : NamedClass)
  /-- The characters whose numbers lie in the ranges of a table. -/
  | table (ranges : List (Nat × Nat))
  /-- The characters at every `step`-th number in the ranges of a table. -/
  | spaced (step : Nat) (ranges : List (Nat × Nat))
  | union (first second : CharClass)
  | inter (first second : CharClass)
  | diff (first second : CharClass)
  /-- Members of exactly one of the two. -/
  | symmDiff (first second : CharClass)
  | compl (members : CharClass)
  /-- Every case variant of a member. -/
  | foldCase (members : CharClass)
  /-- Every case variant of a member among the ASCII letters. -/
  | foldAscii (members : CharClass)
deriving Repr, DecidableEq

namespace CharClass

def swapAscii (char : Char) : Char :=
  if char.isLower then char.toUpper else if char.isUpper then char.toLower else char

def mem : CharClass → Char → Bool
  | .none, _ => false
  | .range low high, char => low ≤ char && char ≤ high
  | .named name, char => name.mem char
  | .table ranges, char => Unicode.inRanges ranges char.toNat
  | .spaced step ranges, char => Unicode.inSpaced step ranges char.toNat
  | .union first second, char => first.mem char || second.mem char
  | .inter first second, char => first.mem char && second.mem char
  | .diff first second, char => first.mem char && !second.mem char
  | .symmDiff first second, char => first.mem char != second.mem char
  | .compl members, char => !members.mem char
  | .foldCase members, char => (Unicode.caseVariants char).any members.mem
  | .foldAscii members, char => members.mem char || members.mem (swapAscii char)

def single (char : Char) : CharClass := .range char char

/-- Every case variant of a member, among the ASCII letters only or among all characters. A single character
without variants stays as it is. -/
def closeCase (unicode : Bool) (members : CharClass) : CharClass :=
  match members with
  | .range low high =>
      if low = high ∧ (if unicode then Unicode.nextCase low else swapAscii low) = low then members
      else if unicode then .foldCase members else .foldAscii members
  | members => if unicode then .foldCase members else .foldAscii members

def all : CharClass := .compl .none

def ofList (classes : List CharClass) : CharClass :=
  match classes with
  | [] => .none
  | [only] => only
  | first :: rest => .union first (ofList rest)

def ofRanges (ranges : List (Char × Char)) : CharClass :=
  ofList (ranges.map fun (low, high) => .range low high)

def asciiDigit : CharClass := .range '0' '9'

def asciiBlank : CharClass := ofRanges [('\t', '\r'), (' ', ' ')]

def asciiWord : CharClass := ofRanges [('0', '9'), ('A', 'Z'), ('_', '_'), ('a', 'z')]

/-- The classes of ASCII characters that can be named inside brackets. -/
def posix? : String → Option CharClass
  | "alnum" => some (ofRanges [('0', '9'), ('A', 'Z'), ('a', 'z')])
  | "alpha" => some (ofRanges [('A', 'Z'), ('a', 'z')])
  | "ascii" => some (.range '\x00' '\x7f')
  | "blank" => some (ofRanges [('\t', '\t'), (' ', ' ')])
  | "cntrl" => some (ofRanges [('\x00', '\x1f'), ('\x7f', '\x7f')])
  | "digit" => some asciiDigit
  | "graph" => some (.range '!' '~')
  | "lower" => some (.range 'a' 'z')
  | "print" => some (.range ' ' '~')
  | "punct" => some (ofRanges [('!', '/'), (':', '@'), ('[', '\x60'), ('\x7b', '~')])
  | "space" => some asciiBlank
  | "upper" => some (.range 'A' 'Z')
  | "word" => some asciiWord
  | "xdigit" => some (ofRanges [('0', '9'), ('A', 'F'), ('a', 'f')])
  | _ => Option.none

end CharClass

end LexKit.Regex
