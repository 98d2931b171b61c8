import FrontEnd.Number.Binary64
import FrontEnd.Token.Kind
import FrontEnd.Utf8

/-!
# Tokens

A token is a run of bytes of its source with the kind, and for literals the value, read off it.
-/

namespace FrontEnd

/-- What a literal stands for. -/
inductive TokenValue where
  | none
  /-- At most `Number.maxSigned64`. -/
  | integer (value : Nat)
  | real (value : Number.Binary64)
  /-- The bytes between the quotes, escapes and all. -/
  | text (bytes : List UInt8)
  deriving DecidableEq, Repr

/-- A lexeme with its kind, its place in the source and its value. -/
structure Token where
  kind : TokenKind
  offset : Nat
  lexeme : List UInt8
  value : TokenValue := .none
  deriving DecidableEq, Repr

namespace Token

/-- The offset after the lexeme. -/
def stop (t : Token) : Nat := t.offset + t.lexeme.length

/-- The lexeme as characters, if it is UTF-8. -/
def text? (t : Token) : Option (List Char) := Utf8.text? t.lexeme

/-- Whether the token is the end of its source. -/
def isEndOfFile (t : Token) : Bool := t.kind == .endOfFile

end Token

end FrontEnd
