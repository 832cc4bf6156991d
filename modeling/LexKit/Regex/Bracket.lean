import LexKit.Regex.Escape

/-!
# Bracketed classes

The text between brackets writes a class: characters, ranges, named classes and nested brackets one after
another make a union, and unions are joined by the operators `&&`, `--` and `~~`, from left to right.
Brackets that are still open wait on a stack while a nested one is read. With each class goes the depth
to which brackets are nested in it.

Where case is ignored, each character, range, class of ASCII and property takes in its case variants at once. The
named classes hold all case variants of their members anyway, and the set operations keep it that way.
-/

namespace LexKit.Regex

inductive SetOperator where
  | inter
  | diff
  | symmDiff
deriving Repr, DecidableEq

structure Nested where
  members : CharClass
  depth : Nat
deriving Repr, DecidableEq

/-- An open bracket: whether it is negated, the operand and operator to the left, and the union that is
being read, its latest part first. -/
structure Bracket where
  negated : Bool
  left : Option (Nested × SetOperator)
  parts : List Nested
deriving Repr, DecidableEq

namespace Bracket

def fold (flags : Flags) (members : CharClass) : CharClass :=
  if flags.ignoreCase then members.closeCase flags.unicode else members

/-- A complement. Outside Unicode it would match parts of characters. -/
def complement? (flags : Flags) (negated : Bool) (members : CharClass) : Option CharClass :=
  if negated then if flags.unicode then some (.compl members) else none else some members

def operand (bracket : Bracket) : Nested :=
  match bracket.parts with
  | [] => ⟨.none, 0⟩
  | [only] => only
  | parts => ⟨.ofList (parts.reverse.map (·.members)), 1 + (parts.map (·.depth)).foldl max 0⟩

def value (bracket : Bracket) : Nested :=
  match bracket.left with
  | none => bracket.operand
  | some (left, operator) =>
      let right := bracket.operand
      let members := match operator with
        | .inter => CharClass.inter left.members right.members
        | .diff => .diff left.members right.members
        | .symmDiff => .symmDiff left.members right.members
      ⟨members, 1 + max left.depth right.depth⟩

def close? (flags : Flags) (bracket : Bracket) : Option Nested := do
  let value := bracket.value
  let members ← complement? flags bracket.negated value.members
  some ⟨members, value.depth + 1⟩

def add (bracket : Bracket) (part : Nested) : Bracket :=
  { bracket with parts := part :: bracket.parts }

def operate (operator : SetOperator) (bracket : Bracket) : Bracket :=
  { bracket with left := some (bracket.value, operator), parts := [] }

/-- Reads what follows an opening bracket and the mark of a negation: minus signs that stand for themselves, and a
closing bracket that comes first and stands for itself. -/
def openBehind? (flags : Flags) (negated : Bool) (text : List Char) : Option (Bracket × List Char) :=
  let (dashes, text) := flags.span (· == '-') text
  let bracket : Bracket := ⟨negated, none, dashes.map fun _ => ⟨.single '-', 0⟩⟩
  match dashes, text with
  | _, [] => none
  | [], ']' :: rest =>
      match flags.skip rest with
      | [] => none
      | rest => some (bracket.add ⟨.single ']', 0⟩, rest)
  | _, text => some (bracket, text)

def open? (flags : Flags) (text : List Char) : Option (Bracket × List Char) :=
  match flags.skip text with
  | '^' :: rest => openBehind? flags true rest
  | _ => openBehind? flags false text

def readPosixName? (negated : Bool) (text : List Char) : Option (Bool × CharClass × List Char) :=
  match text.span (· != ':') with
  | (name, ':' :: ']' :: rest) =>
      (CharClass.posix? (String.ofList name)).map fun members => (negated, members, rest)
  | _ => none

/-- Reads a class such as `[:alpha:]`, behind its opening bracket. -/
def readPosix? : List Char → Option (Bool × CharClass × List Char)
  | ':' :: '^' :: text => readPosixName? true text
  | ':' :: text => readPosixName? false text
  | _ => none

def readAtom? (flags : Flags) : List Char → Option (Atom × List Char)
  | [] => none
  | '\\' :: rest => Atom.readEscape? flags rest
  | char :: rest => some (.literal char false, rest)

/-- The character of an atom that may bound a range; outside Unicode it has to be one of ASCII. -/
def bound? (flags : Flags) : Atom → Option Char
  | .literal char _ => if flags.unicode || char.toNat < 128 then some char else none
  | _ => none

def single? (flags : Flags) (atom : Atom) : Option CharClass :=
  match atom with
  | .literal _ _ => (bound? flags atom).map fun char => fold flags (.single char)
  | .named name negated => Atom.namedClass? flags name negated
  | .property members negated => Atom.propertyClass? flags members negated
  | .look _ => none

/-- Reads an atom, or a range if a minus follows that does not stand for itself. -/
def readRange? (flags : Flags) (text : List Char) : Option (CharClass × List Char) := do
  let (atom, text) ← readAtom? flags text
  match flags.skip text with
  | [] => none
  | '-' :: rest =>
      let ahead := flags.lookAhead rest
      if ahead = some ']' ∨ ahead = some '-' then
        some (← single? flags atom, '-' :: rest)
      else
        let (last, rest) ← readAtom? flags (flags.skip rest)
        let low ← bound? flags atom
        let high ← bound? flags last
        if low ≤ high then some (fold flags (.range low high), rest) else none
  | text => some (← single? flags atom, text)

/-- Reads on inside the innermost of the open brackets until the outermost is closed. -/
def readFrom? (flags : Flags) :
    Nat → Bracket → List Bracket → List Char → Option (Nested × List Char)
  | 0, _, _, _ => none
  | fuel + 1, bracket, outer, text =>
      match flags.skip text with
      | [] => none
      | '[' :: rest =>
          match readPosix? rest with
          | some (negated, members, rest) => do
              let members ← complement? flags negated (fold flags members)
              readFrom? flags fuel (bracket.add ⟨members, 0⟩) outer rest
          | none => do
              let (inner, rest) ← open? flags rest
              readFrom? flags fuel inner (bracket :: outer) rest
      | ']' :: rest => do
          let nested ← bracket.close? flags
          match outer with
          | [] => some (nested, rest)
          | parent :: outer => readFrom? flags fuel (parent.add nested) outer rest
      | '&' :: '&' :: rest => readFrom? flags fuel (bracket.operate .inter) outer rest
      | '-' :: '-' :: rest => readFrom? flags fuel (bracket.operate .diff) outer rest
      | '~' :: '~' :: rest => readFrom? flags fuel (bracket.operate .symmDiff) outer rest
      | text => do
          let (members, rest) ← readRange? flags text
          readFrom? flags fuel (bracket.add ⟨members, 0⟩) outer rest

/-- Reads a class behind its opening bracket. Every round passes a character. -/
def read? (flags : Flags) (text : List Char) : Option (Nested × List Char) := do
  let (bracket, rest) ← open? flags text
  readFrom? flags (text.length + 1) bracket [] rest

end Bracket

end LexKit.Regex
