import FrontEnd.Lexer.Error
import FrontEnd.Number.Digits
import FrontEnd.Token.Kind
import FrontEnd.Unicode.Alphabetic
import FrontEnd.Unicode.Numeric
import FrontEnd.Unicode.Whitespace
import FrontEnd.Utf8

/-!
# Shapes

`scan` tells what stands at the front of a source and how long it is. It looks at nothing but the
bytes ahead, and leaves it to the lexer to read the value.
-/

namespace FrontEnd.Lexer

open Unicode (isAlphabetic isNumeric isWhitespace)
open Utf8 (decode front? span)

/-! ### Characters -/

/-- Whether a word can start with the character. -/
def isWordStart (c : Char) : Bool := isAlphabetic c || c == '_'

/-- Whether a word can go on with the character. -/
def isWordPart (c : Char) : Bool := isAlphabetic c || isNumeric c || c == '_'

/-- Whether a decimal numeral can go on with the character. -/
def isDigitOrSeparator (c : Char) : Bool := c.isDigit || c == '_'

/-- The byte that may stand between digits. -/
def separator : UInt8 := 0x5F

/-! ### Numbers -/

/-- The base that a letter selects after `0`. -/
def base? : Char → Option Nat
  | 'x' => some 16
  | 'o' => some 8
  | 'b' => some 2
  | _ => none

/-- The ASCII letter after a leading `0`. -/
def selector? (bytes : List UInt8) : Option Char :=
  if front? bytes = some '0' then (front? (bytes.drop 1)).filter Char.isAlpha else none

/-- The first byte that is out of place among the digits of a base; a separator is in place anywhere
but in front. -/
def badDigit? (base : Nat) (digits : List UInt8) : Option Nat :=
  if digits.head? = some separator then some 0
  else digits.findIdx? fun b => b != separator && (Number.digit? base b).isNone

/-! ### Strings -/

/-- The bytes up to and including the quote that closes a string, after `skip` bytes of a unit
already read. An `escaped` unit closes nothing. -/
def closingFrom? : Bool → Nat → List UInt8 → Option Nat
  | _, _, [] => none
  | escaped, skip + 1, _ :: rest => (closingFrom? escaped skip rest).map (· + 1)
  | escaped, 0, lead :: rest =>
    let d := decode (lead :: rest)
    if escaped then (closingFrom? false (d.len - 1) rest).map (· + 1)
    else if d.char = '"' then some 1
    else (closingFrom? (d.char == '\\') (d.len - 1) rest).map (· + 1)

/-- The bytes up to and including the quote that closes a string. -/
def closing? (body : List UInt8) : Option Nat := closingFrom? false 0 body

/-! ### Shapes -/

/-- What stands at the front of a source. -/
inductive Shape where
  /-- A token without a value. -/
  | plain (kind : TokenKind)
  /-- A string with both its quotes. -/
  | quoted
  /-- `0`, a letter that selects the base, and digits of the base. -/
  | based (base : Nat)
  /-- Decimal digits. -/
  | decimal
  /-- Decimal digits, a point, decimal digits. -/
  | fraction
  /-- A numeral with a base, whose byte `index` is out of place. -/
  | badDigit (index base : Nat)
  /-- No token. -/
  | rejected (cause : Cause)
  deriving DecidableEq, Repr

/-- A shape and its length in bytes. -/
structure Scanned where
  shape : Shape
  len : Nat
  deriving DecidableEq, Repr

/-- The shape of a numeral that a letter gives a base. The whole word after the letter belongs to
it, so that a digit out of place does not split the numeral. -/
def scanBased (selector : Char) (bytes : List UInt8) : Scanned :=
  let word := bytes.drop 2
  let len := span isWordPart word
  match base? selector with
  | none => ⟨.rejected (.unknownBase selector), len + 2⟩
  | some base =>
    if len = 0 then ⟨.rejected (.missingDigits base), 2⟩
    else
      match badDigit? base (word.take len) with
      | some index => ⟨.badDigit (index + 2) base, len + 2⟩
      | none => ⟨.based base, len + 2⟩

/-- The shape of a decimal numeral. A point belongs to it only before a digit. -/
def scanDecimal (bytes : List UInt8) : Scanned :=
  let whole := span isDigitOrSeparator bytes
  let after := bytes.drop whole
  if front? after = some '.' ∧ (front? (after.drop 1)).any Char.isDigit then
    ⟨.fraction, whole + 1 + span isDigitOrSeparator (after.drop 1)⟩
  else ⟨.decimal, whole⟩

/-- The shape of a numeral. -/
def scanNumber (bytes : List UInt8) : Scanned :=
  match selector? bytes with
  | some selector => scanBased selector bytes
  | none => scanDecimal bytes

/-- The shape of a word, which is a keyword or an identifier. -/
def scanWord (bytes : List UInt8) : Scanned :=
  let len := span isWordPart bytes
  match Keyword.ofBytes? (bytes.take len) with
  | some word => ⟨.plain (.keyword word), len⟩
  | none => ⟨.plain (.literal .identifier), len⟩

/-- The shape of a string, whose opening quote is the first byte. -/
def scanString (bytes : List UInt8) : Scanned :=
  match closing? (bytes.drop 1) with
  | some len => ⟨.quoted, len + 1⟩
  | none => ⟨.rejected .unterminatedString, bytes.length⟩

/-- The shape of a symbol, the longest there is. -/
def scanSymbol (lead : UInt8) (bytes : List UInt8) : Scanned :=
  let d := decode bytes
  match TokenKind.longestSymbol? d.char (front? (bytes.drop d.len)) with
  | some (kind, len) => ⟨.plain kind, len⟩
  | none => ⟨.rejected (if d.valid then .unexpectedChar d.char else .invalidByte lead), d.len⟩

/-- What stands at the front of a source. -/
def scan : List UInt8 → Scanned
  | [] => ⟨.plain .endOfFile, 0⟩
  | lead :: rest =>
    let bytes := lead :: rest
    let c := (decode bytes).char
    if isWhitespace c then ⟨.plain (.trivia .whitespace), span isWhitespace bytes⟩
    else if c = '/' ∧ front? rest = some '/' then
      ⟨.plain (.trivia .lineComment), span (· != '\n') bytes⟩
    else if isWordStart c then scanWord bytes
    else if c.isDigit then scanNumber bytes
    else if c = '"' then scanString bytes
    else scanSymbol lead bytes

end FrontEnd.Lexer
