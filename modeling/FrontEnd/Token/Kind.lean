import FrontEnd.Token.Symbol
import FrontEnd.Token.Keyword

/-!
# Token kinds

The kinds of tokens, in five families and two kinds of their own. `TokenKind.all` lists the kinds in
order and `TokenKind.index` is the place of each in it.
-/

namespace FrontEnd

/-- Kinds whose text varies. -/
inductive Literal where
  | identifier | string | real | integer
  deriving DecidableEq, Repr

namespace Literal

/-- Every literal kind, in order. -/
def all : List Literal := [identifier, string, real, integer]

/-- A short name for the kind. -/
def name : Literal → String
  | identifier => "Id"
  | string => "Str"
  | real => "Real"
  | integer => "Int"

/-- The kind's identifier. -/
def label : Literal → String
  | identifier => "Identifier"
  | string => "String"
  | real => "Real"
  | integer => "Integer"

end Literal

/-- What a lexer passes over between tokens. -/
inductive Trivia where
  | whitespace | lineComment
  deriving DecidableEq, Repr

namespace Trivia

/-- Both kinds of trivia, in order. -/
def all : List Trivia := [whitespace, lineComment]

/-- A short name for the kind. -/
def name : Trivia → String
  | whitespace => " "
  | lineComment => "Comment"

/-- The kind's identifier. -/
def label : Trivia → String
  | whitespace => "Whitespace"
  | lineComment => "LineComment"

end Trivia

/-- A kind of token. -/
inductive TokenKind where
  | unknown
  | delimiter (bracket : Delimiter)
  | literal (form : Literal)
  | operator (symbol : Operator)
  | keyword (word : Keyword)
  | trivia (form : Trivia)
  | endOfFile
  deriving DecidableEq, Repr

namespace TokenKind

/-- Every kind, in order. -/
def all : List TokenKind :=
  unknown :: Delimiter.all.map delimiter ++ Literal.all.map literal ++
    Operator.all.map operator ++ Keyword.all.map keyword ++ Trivia.all.map trivia ++ [endOfFile]

/-- The place of a kind in `all`. -/
def index : TokenKind → Nat
  | unknown => 0
  | delimiter d => 1 + d.ctorIdx
  | literal l => 7 + l.ctorIdx
  | operator o => 11 + o.ctorIdx
  | keyword k => 44 + k.ctorIdx
  | trivia t => 57 + t.ctorIdx
  | endOfFile => 59

/-- Kinds are ordered as they are listed. -/
instance : Ord TokenKind := ⟨fun a b => compare a.index b.index⟩

/-- The characters of a kind whose text never varies. -/
def spelling? : TokenKind → Option (List Char)
  | delimiter d => some d.spelling
  | operator o => some o.spelling
  | keyword k => some k.spelling
  | _ => none

/-- A kind as it is shown: its text if that never varies, else a short name. -/
def name : TokenKind → String
  | unknown => "<Unknown>"
  | delimiter d => String.ofList d.spelling
  | literal l => l.name
  | operator o => String.ofList o.spelling
  | keyword k => String.ofList k.spelling
  | trivia t => t.name
  | endOfFile => "<EOF>"

instance : ToString TokenKind := ⟨name⟩

/-- A kind's identifier. -/
def label : TokenKind → String
  | unknown => "Unknown"
  | delimiter d => d.label
  | literal l => l.label
  | operator o => o.label
  | keyword k => k.label
  | trivia t => t.label
  | endOfFile => "EndOfFile"

/-- Reserved words. -/
def isKeyword : TokenKind → Bool
  | keyword _ => true
  | _ => false

/-- White space and comments. -/
def isTrivia : TokenKind → Bool
  | trivia _ => true
  | _ => false

/-- Identifiers and literal values. -/
def isLiteral : TokenKind → Bool
  | literal _ => true
  | _ => false

/-- Operators and punctuation. -/
def isOperator : TokenKind → Bool
  | operator _ => true
  | _ => false

/-! ### Reading symbols -/

/-- The kind that one character spells. -/
def ofChar? : Char → Option TokenKind
  | '(' => some (delimiter .parenOpen)
  | ')' => some (delimiter .parenClose)
  | '[' => some (delimiter .squareOpen)
  | ']' => some (delimiter .squareClose)
  | '{' => some (delimiter .curlyOpen)
  | '}' => some (delimiter .curlyClose)
  | '+' => some (operator .plus)
  | '-' => some (operator .minus)
  | '*' => some (operator .star)
  | '/' => some (operator .slash)
  | '%' => some (operator .mod)
  | '&' => some (operator .and)
  | '|' => some (operator .or)
  | '~' => some (operator .tilde)
  | '^' => some (operator .caret)
  | '!' => some (operator .logicNot)
  | '=' => some (operator .assign)
  | '<' => some (operator .less)
  | '>' => some (operator .greater)
  | '.' => some (operator .dot)
  | ':' => some (operator .colon)
  | ';' => some (operator .semicolon)
  | ',' => some (operator .comma)
  | _ => none

/-- The kind that two characters spell together. -/
def ofPair? : Char → Char → Option TokenKind
  | '-', '>' => some (operator .arrowRight)
  | '&', '&' => some (operator .logicAnd)
  | '|', '|' => some (operator .logicOr)
  | '<', '<' => some (operator .shiftLeft)
  | '>', '>' => some (operator .shiftRight)
  | '+', '=' => some (operator .plusAssign)
  | '-', '=' => some (operator .minusAssign)
  | '*', '=' => some (operator .starAssign)
  | '/', '=' => some (operator .slashAssign)
  | '%', '=' => some (operator .modAssign)
  | '&', '=' => some (operator .andAssign)
  | '|', '=' => some (operator .orAssign)
  | '!', '=' => some (operator .notEqual)
  | '=', '=' => some (operator .equal)
  | '<', '=' => some (operator .lessEqual)
  | '>', '=' => some (operator .greaterEqual)
  | _, _ => none

/-- The longer of the symbols that `first` and the character after it spell, with its length. -/
def longestSymbol? (first : Char) (next? : Option Char) : Option (TokenKind × Nat) :=
  match next?.bind (ofPair? first) with
  | some kind => some (kind, 2)
  | none => (ofChar? first).map (·, 1)

end TokenKind

end FrontEnd
