import LexKit.Unicode.Properties

/-!
# Quoted text

A text between double quotes that shows each of its characters: quotes and backslashes are escaped, the
usual control characters have short forms, and any other character that would not be seen as itself is
written by its number.
-/

namespace LexKit.Text

def hexDigits (value : Nat) : List Char := Nat.toDigits 16 value

/-- Whether a character stands for itself between quotes, when it has no short form. -/
def isPlain (char : Char) : Bool :=
  !Unicode.isExtending char && !Unicode.isIgnorable char && Unicode.isPrintable char

def quoteChar : Char → List Char
  | '\x00' => ['\\', '0']
  | '\t' => ['\\', 't']
  | '\r' => ['\\', 'r']
  | '\n' => ['\\', 'n']
  | '"' => ['\\', '"']
  | '\\' => ['\\', '\\']
  | char =>
      if isPlain char then [char]
      else '\\' :: 'u' :: '\x7b' :: hexDigits char.toNat ++ ['\x7d']

def quoteChars (text : List Char) : List Char := text.flatMap quoteChar

def quoted (text : String) : String :=
  String.ofList ('"' :: quoteChars text.toList ++ ['"'])

end LexKit.Text
