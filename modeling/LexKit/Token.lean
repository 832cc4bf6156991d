import LexKit.Span

/-!
# Tokens

A piece of input with a kind: the span it covers and the text taken out of it.
-/

namespace LexKit

structure Token (κ : Type) where
  kind : κ
  text : String
  span : Span
deriving Repr, DecidableEq

namespace Token

variable {κ : Type}

def ofKind (kind : κ) (text : String) (span : Span) : Token κ := ⟨kind, text, span⟩

def shift (token : Token κ) (bytes : Nat) : Token κ :=
  { token with span := token.span.shift bytes }

end Token

end LexKit
