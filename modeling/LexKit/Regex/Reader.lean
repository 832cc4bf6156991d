import LexKit.Regex.Bracket

/-!
# Reading patterns

The text of a pattern is read from left to right, one item at a time. Groups that are still open wait on
a stack, each with the alternatives and the sequence read so far and with the flags that hold again when
the group inside is closed. A pattern is well formed if every item can be read and no group is left open.

With each part goes the depth of its nesting, so that overly deep patterns can be refused.
-/

namespace LexKit.Regex

/-- A part of a sequence: its tree, the depth of its nesting, and whether it may be repeated, which a
change of flags may not. -/
structure Part where
  node : Node
  depth : Nat
  repeatable : Bool
deriving Repr, DecidableEq

/-- A group that is being read: the flags outside it, the alternatives that are complete and the sequence that is not,
the latest part first in both. -/
structure Group where
  outerFlags : Flags
  branches : List Part
  parts : List Part
deriving Repr, DecidableEq

namespace Group

def sequence (group : Group) : Part :=
  match group.parts with
  | [] => ⟨.empty, 0, false⟩
  | [only] => only
  | parts =>
      ⟨.sequence (parts.reverse.map (·.node)), 1 + (parts.map (·.depth)).foldl max 0, true⟩

def body (group : Group) : Part :=
  match group.branches with
  | [] => group.sequence
  | branches =>
      let all := group.sequence :: branches
      ⟨.choice (all.reverse.map (·.node)), 1 + (all.map (·.depth)).foldl max 0, true⟩

def close (group : Group) : Node × Nat := (group.body.node, group.body.depth + 1)

def add (group : Group) (node : Node) (depth : Nat) : Group :=
  { group with parts := ⟨node, depth, true⟩ :: group.parts }

def addFlags (group : Group) : Group :=
  { group with parts := ⟨.empty, 0, false⟩ :: group.parts }

def branch (group : Group) : Group :=
  { group with branches := group.sequence :: group.branches, parts := [] }

def repeat? (group : Group) (least : Nat) (most : Option Nat) (greedy : Bool) : Option Group :=
  match group.parts with
  | [] => none
  | part :: parts =>
      if part.repeatable then
        some { group with
          parts := ⟨.rounds part.node least most greedy, part.depth + 1, true⟩ :: parts }
      else none

end Group

/-- How far a pattern has been read: the flags in force, the names that groups have so far, the group being read and
the ones around it, the innermost first. -/
structure Reader where
  flags : Flags
  names : List String
  group : Group
  outer : List Group
deriving Repr, DecidableEq

namespace Reader

def initial : Reader := ⟨{}, [], ⟨{}, [], []⟩, []⟩

def add (reader : Reader) (node : Node) (depth : Nat) : Reader :=
  { reader with group := reader.group.add node depth }

def openGroup (reader : Reader) (flags : Flags) : Reader :=
  { reader with
    flags := flags
    group := ⟨reader.flags, [], []⟩
    outer := reader.group :: reader.outer }

/-- Closes the innermost group and puts back the flags from outside it. -/
def closeGroup? (reader : Reader) : Option Reader :=
  match reader.outer with
  | [] => none
  | parent :: outer =>
      let (node, depth) := reader.group.close
      some { reader with
        flags := reader.group.outerFlags
        group := parent.add node depth
        outer := outer }

/-- Repetitions prefer many rounds unless marked or told otherwise by a flag, but not both. -/
def greedy (reader : Reader) (marked : Bool) : Bool := marked == reader.flags.swapGreed

/-- Applies an operator for rounds to the latest part; a question mark, if it is the first thing ahead in the text
behind the operator, turns the preference. -/
def repeat? (reader : Reader) (least : Nat) (most : Option Nat) (ahead text : List Char) :
    Option (Reader × List Char) := do
  let (marked, text) := match ahead with
    | '?' :: rest => (true, rest)
    | _ => (false, text)
  let group ← reader.group.repeat? least most (reader.greedy marked)
  some ({ reader with group := group }, text)

def countLimit : Nat := UInt32.size

/-- Reads a count of rounds and the character behind it, blanks around the count left out. -/
def readCount? (flags : Flags) (text : List Char) : Option ((Nat × Char) × List Char) :=
  let (digits, text) := flags.span Char.isDigit (text.dropWhile Unicode.isBlank)
  let count := Atom.ofDigits 10 (digits.filterMap Atom.hexDigit?)
  if digits.isEmpty ∨ countLimit ≤ count then none
  else
    match text.dropWhile Unicode.isBlank with
    | [] => none
    | stop :: rest => some ((count, stop), rest)

def readMost? (reader : Reader) (least : Nat) (text : List Char) : Option (Reader × List Char) := do
  let ((most, stop), rest) ← readCount? reader.flags (reader.flags.skip text)
  if stop = '\x7d' ∧ least ≤ most then reader.repeat? least (some most) (reader.flags.skip rest) rest
  else none

def readRounds? (reader : Reader) (text : List Char) : Option (Reader × List Char) := do
  let ((least, stop), rest) ← readCount? reader.flags (reader.flags.skip text)
  match stop with
  | '\x7d' => reader.repeat? least (some least) (reader.flags.skip rest) rest
  | ',' =>
      match reader.flags.skip rest with
      | '\x7d' :: rest => reader.repeat? least none (reader.flags.skip rest) rest
      | _ => reader.readMost? least rest
  | _ => none

def isNameChar (first : Bool) (char : Char) : Bool :=
  if first then char == '_' || Unicode.isAlphabetic char
  else
    char == '_' || char == '.' || char == '[' || char == ']' || Unicode.isAlphabetic char ||
      Unicode.isNumeric char

/-- Reads the name of a group, which no other group has, and opens the group. -/
def readName? (reader : Reader) (text : List Char) : Option (Reader × List Char) :=
  match text.span (· != '>') with
  | (first :: rest, _ :: text) =>
      let name := String.ofList (first :: rest)
      if isNameChar true first ∧ rest.all (isNameChar false) ∧ ¬ reader.names.contains name then
        some ({ reader with names := name :: reader.names }.openGroup reader.flags, text)
      else none
  | _ => none

/-- Reads flags behind an opening parenthesis: they hold in the group that they open, or from there on. -/
def readFlags? (reader : Reader) (text : List Char) : Option (Reader × List Char) := do
  let (flags, last, rest) ← reader.flags.read? [] text
  if last = ':' then some (reader.openGroup flags, rest)
  else if text.head? = some ')' then none
  else some ({ reader with flags := flags, group := reader.group.addFlags }, rest)

/-- Reads what follows an opening parenthesis. Looking around is no part of the language. -/
def readGroup? (reader : Reader) (text : List Char) : Option (Reader × List Char) :=
  match reader.flags.skip text with
  | '?' :: '=' :: _ | '?' :: '!' :: _ | '?' :: '<' :: '=' :: _ | '?' :: '<' :: '!' :: _ => none
  | '?' :: 'P' :: '<' :: rest => reader.readName? rest
  | '?' :: '<' :: rest => reader.readName? rest
  | '?' :: rest => reader.readFlags? rest
  | _ => some (reader.openGroup reader.flags, text)

/-- The tree of the start or the end of a line, or of the text where lines are no places of their own. -/
def lineNode (reader : Reader) (line : Bool → Assertion) (text : Assertion) : Node :=
  .look (if reader.flags.multiLine then line reader.flags.crlf else text)

def dotClass? (flags : Flags) : Option CharClass :=
  if flags.unicode then
    some (if flags.dotAll then .all
      else if flags.crlf then .compl (.union (.single '\r') (.single '\n'))
      else .compl (.single '\n'))
  else none

def readItem? (reader : Reader) (char : Char) (rest : List Char) : Option (Reader × List Char) :=
  match char with
  | '(' => reader.readGroup? rest
  | ')' => reader.closeGroup?.map fun reader => (reader, rest)
  | '|' => some ({ reader with group := reader.group.branch }, rest)
  | '[' => do
      let (nested, rest) ← Bracket.read? reader.flags rest
      some (reader.add (.char nested.members) nested.depth, rest)
  | '?' => reader.repeat? 0 (some 1) rest rest
  | '*' => reader.repeat? 0 none rest rest
  | '+' => reader.repeat? 1 none rest rest
  | '\x7b' => reader.readRounds? rest
  | '\\' => do
      let (atom, rest) ← Atom.readEscape? reader.flags rest
      some (reader.add (← atom.node? reader.flags) 0, rest)
  | '.' => do some (reader.add (.char (← dotClass? reader.flags)) 0, rest)
  | '^' => some (reader.add (reader.lineNode .lineStart .textStart) 0, rest)
  | '$' => some (reader.add (reader.lineNode .lineEnd .textEnd) 0, rest)
  | _ => do
      some (reader.add (.char (← Atom.literalClass? reader.flags char false)) 0, rest)

def readFrom? : Nat → Reader → List Char → Option Reader
  | 0, _, _ => none
  | fuel + 1, reader, text =>
      match reader.flags.skip text with
      | [] => some reader
      | char :: rest => do
          let (reader, rest) ← reader.readItem? char rest
          readFrom? fuel reader rest

def finish? (reader : Reader) : Option Part :=
  match reader.outer with
  | [] => some reader.group.body
  | _ :: _ => none

/-- Reads a pattern. Every round passes a character. -/
def read? (text : List Char) : Option Part := do
  let reader ← readFrom? (text.length + 1) initial text
  reader.finish?

def depthLimit : Nat := 250

end Reader

end LexKit.Regex
