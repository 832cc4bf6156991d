import LexKit.Primitive
import LexKit.Sexpr.Token

/-!
# The tokenizer of s-expressions

Twelve rules, tried in order: blanks and comments are skipped; strings, blocks, parentheses, booleans,
operators, integers and identifiers make tokens. With the end check, anything else is an error, otherwise
the scan stops there.
-/

namespace LexKit.Sexpr

/-- Comments run from a semicolon to the end of the line. -/
def comment : Pattern := Pattern.ofValid ";[^\\n]*" (by decide +kernel)

def integer : Pattern := Pattern.ofValid "[0-9]+" (by decide +kernel)

def identifier : Pattern := Pattern.ofValid "[A-Za-z_][A-Za-z0-9_\\-?!]*" (by decide +kernel)

def stringRegion (style : QuoteStyle) : Delimiters := Delimiters.quotes '"' (some style.escape)

/-- Blocks of text stand between braces; a caret keeps a closing brace inside. -/
def blockRegion : Delimiters := ⟨'\x7b', '\x7d', some '^'⟩

/-- The rules but for the end check, in order. -/
def rules (style : QuoteStyle) : List (Rule Lexeme) := [
  .skip .blanks,
  .skip (.pattern comment),
  .emit (.delimited (stringRegion style)) (Token.ofKind .string),
  .emit (.delimited blockRegion) (Token.ofKind .block),
  .emit (.oneCharOf "(") (Token.ofKind .leftParen),
  .emit (.oneCharOf ")") (Token.ofKind .rightParen),
  .emit (.literal "#t") (Token.ofKind .boolean),
  .emit (.literal "#f") (Token.ofKind .boolean),
  .emit (.oneOfLiterals ["<=", ">=", "==", "<", ">", "="]) (Token.ofKind .operator),
  .emit (.oneCharOf "+-*/") (Token.ofKind .operator),
  .emit (.pattern integer) (Token.ofKind .integer),
  .emit (.pattern identifier) (Token.ofKind .identifier)]

def endRules (endCheck : Bool) : List (Rule Lexeme) :=
  if endCheck then [.skip .endOfInput] else []

def tokenizer (style : QuoteStyle) (endCheck : Bool) : Tokenizer Lexeme :=
  Tokenizer.ofRules (rules style ++ endRules endCheck)

end LexKit.Sexpr
