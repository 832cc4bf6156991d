import LexKit.Regex.Flags
import LexKit.Regex.Node
import LexKit.Regex.Property

/-!
# Escapes in patterns

What a backslash and the characters behind it stand for: a character, a named class, the class of a property or
a condition on the place. Letters and digits without a meaning are refused, all other ASCII characters but the angle
brackets stand for themselves.
-/

namespace LexKit.Regex

/-- The smallest parts of a pattern. -/
inductive Atom where
  /-- A character; `byte` if it was written with two hexadecimal digits. -/
  | literal (char : Char) (byte : Bool)
  | named (name : NamedClass) (negated : Bool)
  | property (members : CharClass) (negated : Bool)
  | look (assertion : Assertion)
deriving Repr, DecidableEq

namespace Atom

def hexDigit? (char : Char) : Option Nat :=
  if char.isDigit then some (char.toNat - '0'.toNat)
  else if 'a' ≤ char ∧ char ≤ 'f' then some (char.toNat - 'a'.toNat + 10)
  else if 'A' ≤ char ∧ char ≤ 'F' then some (char.toNat - 'A'.toNat + 10)
  else none

def ofDigits (base : Nat) (digits : List Nat) : Nat :=
  digits.foldl (fun value digit => base * value + digit) 0

def scalar? (code : Nat) : Option Char := if code.isValidChar then some (Char.ofNat code) else none

def readHexFixed? (flags : Flags) : Nat → List Nat → List Char → Option (List Nat × List Char)
  | 0, digits, text => some (digits.reverse, text)
  | count + 1, digits, text =>
      match flags.skip text with
      | [] => none
      | char :: rest => do
          let digit ← hexDigit? char
          readHexFixed? flags count (digit :: digits) rest

/-- Reads the number of a character, either in braces or with a fixed number of digits. -/
def readHex? (flags : Flags) (count : Nat) (text : List Char) : Option (Atom × List Char) :=
  match flags.skip text with
  | '\x7b' :: rest =>
      match flags.span (fun char => (hexDigit? char).isSome) rest with
      | (digits, '\x7d' :: rest) => do
          if digits.isEmpty then none
          else
            let char ← scalar? (ofDigits 16 (digits.filterMap hexDigit?))
            some (.literal char false, rest)
      | _ => none
  | _ => do
      let (digits, rest) ← readHexFixed? flags count [] text
      let char ← scalar? (ofDigits 16 digits)
      some (.literal char (count == 2), rest)

def wordSide? (unicode : Bool) : String → Option Assertion
  | "start" => some (.wordStart unicode)
  | "end" => some (.wordEnd unicode)
  | "start-half" => some (.wordStartHalf unicode)
  | "end-half" => some (.wordEndHalf unicode)
  | _ => none

/-- Reads what follows `\b`: nothing that belongs to it, or a word in braces. A brace with anything but a
letter or a minus behind it does not belong to it. -/
def readWordSide? (flags : Flags) (text : List Char) : Option (Atom × List Char) :=
  let plain := (Atom.look (.wordBoundary flags.unicode), text)
  let kind := fun char : Char => char.isAlpha || char == '-'
  match text with
  | '\x7b' :: rest =>
      match flags.skip rest with
      | [] => none
      | char :: rest =>
          if kind char then
            match flags.span kind (char :: rest) with
            | (word, '\x7d' :: rest) =>
                (wordSide? flags.unicode (String.ofList word)).map fun side => (.look side, rest)
            | _ => none
          else some plain
  | _ => some plain

/-- Reads the name of a property, either in braces or a single letter. -/
def readProperty? (flags : Flags) (negated : Bool) (text : List Char) :
    Option (Atom × List Char) :=
  match flags.skip text with
  | [] => none
  | '\x7b' :: rest =>
      match flags.span (· != '\x7d') rest with
      | (_, []) => none
      | (name, _ :: rest) => (Property.class? name).map fun members => (.property members negated, rest)
  | letter :: rest => (Property.class? [letter]).map fun members => (.property members negated, rest)

def readEscape? (flags : Flags) : List Char → Option (Atom × List Char)
  | [] => none
  | char :: rest =>
      match char with
      | 'x' => readHex? flags 2 rest
      | 'u' => readHex? flags 4 rest
      | 'U' => readHex? flags 8 rest
      | 'd' => some (.named .digit false, rest)
      | 'D' => some (.named .digit true, rest)
      | 's' => some (.named .blank false, rest)
      | 'S' => some (.named .blank true, rest)
      | 'w' => some (.named .word false, rest)
      | 'W' => some (.named .word true, rest)
      | 'p' => readProperty? flags false rest
      | 'P' => readProperty? flags true rest
      | 'a' => some (.literal '\x07' false, rest)
      | 'f' => some (.literal '\x0c' false, rest)
      | 't' => some (.literal '\t' false, rest)
      | 'n' => some (.literal '\n' false, rest)
      | 'r' => some (.literal '\r' false, rest)
      | 'v' => some (.literal '\x0b' false, rest)
      | 'A' => some (.look .textStart, rest)
      | 'z' => some (.look .textEnd, rest)
      | 'b' => readWordSide? flags rest
      | 'B' => some (.look (.noWordBoundary flags.unicode), rest)
      | '<' => some (.look (.wordStart flags.unicode), rest)
      | '>' => some (.look (.wordEnd flags.unicode), rest)
      | _ =>
          if char.toNat < 128 ∧ ¬ char.isAlphanum then some (.literal char false, rest) else none

/-- The class of a literal character under the flags. Outside Unicode a byte above ASCII is no character,
and there is no case beyond ASCII. -/
def literalClass? (flags : Flags) (char : Char) (byte : Bool) : Option CharClass :=
  if flags.unicode ∨ char.toNat < 128 then
    some (if flags.ignoreCase then .closeCase flags.unicode (.single char) else .single char)
  else if byte then none
  else some (.single char)

/-- A named class under the flags. Outside Unicode its complement would match parts of characters. -/
def namedClass? (flags : Flags) (name : NamedClass) (negated : Bool) : Option CharClass :=
  if flags.unicode then some (if negated then .compl (.named name) else .named name)
  else if negated then none
  else some (match name with
    | .digit => .asciiDigit
    | .blank => .asciiBlank
    | .word => .asciiWord)

/-- The class of a property under the flags, with all case variants of its members where case is ignored; the
complement is taken after that. Outside Unicode there are no properties. -/
def propertyClass? (flags : Flags) (members : CharClass) (negated : Bool) : Option CharClass :=
  if flags.unicode then
    let members := if flags.ignoreCase then .closeCase true members else members
    some (if negated then .compl members else members)
  else none

def node? (flags : Flags) : Atom → Option Node
  | .literal char byte => (literalClass? flags char byte).map .char
  | .named name negated => (namedClass? flags name negated).map .char
  | .property members negated => (propertyClass? flags members negated).map .char
  | .look assertion => some (.look assertion)

end Atom

end LexKit.Regex
