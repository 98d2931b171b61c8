/-!
# Symbols

Brackets, and operators with punctuation. Each is written in one way, of one or two characters.
-/

namespace FrontEnd

/-- Brackets. -/
inductive Delimiter where
  | parenOpen | parenClose | squareOpen | squareClose | curlyOpen | curlyClose
  deriving DecidableEq, Repr

namespace Delimiter

/-- Every bracket, in order. -/
def all : List Delimiter :=
  [parenOpen, parenClose, squareOpen, squareClose, curlyOpen, curlyClose]

/-- The characters that write it. -/
def spelling : Delimiter → List Char
  | parenOpen => ['(']
  | parenClose => [')']
  | squareOpen => ['[']
  | squareClose => [']']
  | curlyOpen => ['{']
  | curlyClose => ['}']

/-- The kind's identifier. -/
def label : Delimiter → String
  | parenOpen => "ParenOpen"
  | parenClose => "ParenClose"
  | squareOpen => "SquareOpen"
  | squareClose => "SquareClose"
  | curlyOpen => "CurlyOpen"
  | curlyClose => "CurlyClose"

end Delimiter

/-- Operators and punctuation. -/
inductive Operator where
  | plus | minus | star | slash | mod
  | and | or | tilde | shiftRight | shiftLeft
  | logicAnd | logicOr | logicNot
  | greater | less | greaterEqual | lessEqual | equal | notEqual
  | assign | arrowRight | dot | caret | colon | semicolon | comma
  | plusAssign | minusAssign | starAssign | slashAssign | modAssign | andAssign | orAssign
  deriving DecidableEq, Repr

namespace Operator

/-- Every operator, in order. -/
def all : List Operator :=
  [plus, minus, star, slash, mod,
   and, or, tilde, shiftRight, shiftLeft,
   logicAnd, logicOr, logicNot,
   greater, less, greaterEqual, lessEqual, equal, notEqual,
   assign, arrowRight, dot, caret, colon, semicolon, comma,
   plusAssign, minusAssign, starAssign, slashAssign, modAssign, andAssign, orAssign]

/-- The characters that write it. -/
def spelling : Operator → List Char
  | plus => ['+']
  | minus => ['-']
  | star => ['*']
  | slash => ['/']
  | mod => ['%']
  | and => ['&']
  | or => ['|']
  | tilde => ['~']
  | shiftRight => ['>', '>']
  | shiftLeft => ['<', '<']
  | logicAnd => ['&', '&']
  | logicOr => ['|', '|']
  | logicNot => ['!']
  | greater => ['>']
  | less => ['<']
  | greaterEqual => ['>', '=']
  | lessEqual => ['<', '=']
  | equal => ['=', '=']
  | notEqual => ['!', '=']
  | assign => ['=']
  | arrowRight => ['-', '>']
  | dot => ['.']
  | caret => ['^']
  | colon => [':']
  | semicolon => [';']
  | comma => [',']
  | plusAssign => ['+', '=']
  | minusAssign => ['-', '=']
  | starAssign => ['*', '=']
  | slashAssign => ['/', '=']
  | modAssign => ['%', '=']
  | andAssign => ['&', '=']
  | orAssign => ['|', '=']

/-- The kind's identifier. -/
def label : Operator → String
  | plus => "Plus"
  | minus => "Minus"
  | star => "Star"
  | slash => "Slash"
  | mod => "Mod"
  | and => "And"
  | or => "Or"
  | tilde => "Tilde"
  | shiftRight => "ShiftRight"
  | shiftLeft => "ShiftLeft"
  | logicAnd => "LogicAnd"
  | logicOr => "LogicOr"
  | logicNot => "LogicNot"
  | greater => "Greater"
  | less => "Less"
  | greaterEqual => "GreaterEqual"
  | lessEqual => "LessEqual"
  | equal => "Equal"
  | notEqual => "NotEqual"
  | assign => "Assign"
  | arrowRight => "ArrowRight"
  | dot => "Dot"
  | caret => "Caret"
  | colon => "Colon"
  | semicolon => "Semicolon"
  | comma => "Comma"
  | plusAssign => "PlusAssign"
  | minusAssign => "MinusAssign"
  | starAssign => "StarAssign"
  | slashAssign => "SlashAssign"
  | modAssign => "ModAssign"
  | andAssign => "AndAssign"
  | orAssign => "OrAssign"

end Operator

end FrontEnd
