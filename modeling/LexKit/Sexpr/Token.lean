import LexKit.Text.Quoted
import LexKit.Token

/-!
# Tokens of s-expressions

The kinds of tokens that a file of s-expressions is made of, the two ways of writing a double quote inside
a string, and the line that shows a token.
-/

namespace LexKit.Sexpr

inductive Kind where
  | leftParen
  | rightParen
  | operator
  | boolean
  | integer
  | identifier
  | string
  | block
deriving Repr, DecidableEq

namespace Kind

def name : Kind → String
  | .leftParen => "left-paren"
  | .rightParen => "right-paren"
  | .operator => "operator"
  | .boolean => "boolean"
  | .integer => "integer"
  | .identifier => "identifier"
  | .string => "string"
  | .block => "block"

end Kind

/-- How a double quote is written inside a string. -/
inductive QuoteStyle where
  /-- Behind a backslash. -/
  | backslash
  /-- Twice. -/
  | doubled
deriving Repr, DecidableEq

namespace QuoteStyle

def escape : QuoteStyle → Char
  | .backslash => '\\'
  | .doubled => '"'

def names : List String := ["backslash", "doubled"]

def ofString? : String → Option QuoteStyle
  | "backslash" => some .backslash
  | "doubled" => some .doubled
  | _ => none

def unknownMessage (name : String) : String := "unknown quote style: \"" ++ name ++ "\""

def describe : QuoteStyle → String
  | .backslash => "Backslash"
  | .doubled => "Doubled"

end QuoteStyle

abbrev Lexeme := Token Kind

namespace Lexeme

/-- The line that shows a token: its span, its kind and its text. -/
def render (lexeme : Lexeme) : String :=
  lexeme.span.render ++ " " ++ lexeme.kind.name ++ " " ++ Text.quoted lexeme.text

/-- The pieces that the line is written in, one for each field, separator and quoted character. -/
def linePieces (lexeme : Lexeme) : List String :=
  [Position.render lexeme.span.start, "..", Position.render lexeme.span.stop, " ", lexeme.kind.name, " ",
      "\""] ++
    lexeme.text.toList.map (fun char => String.ofList (Text.quoteChar char)) ++ ["\"", "\n"]

theorem join_linePieces (lexeme : Lexeme) :
    String.join lexeme.linePieces = lexeme.render ++ "\n" := by
  have span : lexeme.span.render =
      Position.render lexeme.span.start ++ ".." ++ Position.render lexeme.span.stop := rfl
  apply String.toList_inj.1
  simp [linePieces, render, span, Text.quoted, Text.quoteChars, String.toList_join, List.flatMap_map]

def renderAll (lexemes : List Lexeme) : String :=
  lexemes.foldl (fun text lexeme => text ++ lexeme.render ++ "\n") ""

theorem foldl_renderAll (lexemes : List Lexeme) (text : String) :
    lexemes.foldl (fun text lexeme => text ++ lexeme.render ++ "\n") text = text ++ renderAll lexemes := by
  unfold renderAll
  induction lexemes generalizing text with
  | nil => simp
  | cons lexeme lexemes ih =>
      rw [List.foldl_cons, List.foldl_cons, ih, ih ("" ++ lexeme.render ++ "\n")]
      simp [String.append_assoc]

theorem renderAll_cons (lexeme : Lexeme) (lexemes : List Lexeme) :
    renderAll (lexeme :: lexemes) = lexeme.render ++ "\n" ++ renderAll lexemes := by
  rw [renderAll, List.foldl_cons, foldl_renderAll]
  simp

end Lexeme

end LexKit.Sexpr
