import FrontEnd.Memory.Block
import FrontEnd.Unicode.Quoted

/-!
# Lexical errors

An error says where a source went wrong and why. The wording of each cause is in `Cause.message`.
-/

namespace FrontEnd.Lexer

open Memory (AllocError)
open Unicode (quote)

/-- The sorts of lexical error. -/
inductive ErrorKind where
  | badCodepoint | invalidBase | invalidDigit | integerOverflow | unterminatedString
  | scratchExhausted | tokenLimitExceeded
  deriving DecidableEq, Repr

/-- The sort's identifier. -/
def ErrorKind.label : ErrorKind → String
  | badCodepoint => "BadCodepoint"
  | invalidBase => "InvalidBase"
  | invalidDigit => "InvalidDigit"
  | integerOverflow => "IntegerOverflow"
  | unterminatedString => "UnterminatedString"
  | scratchExhausted => "ScratchExhausted"
  | tokenLimitExceeded => "TokenLimitExceeded"

/-- Why a source does not lex. -/
inductive Cause where
  /-- A character that starts no token. -/
  | unexpectedChar (found : Char)
  /-- A byte that starts no UTF-8 sequence. -/
  | invalidByte (byte : UInt8)
  /-- A letter after `0` that selects no base. -/
  | unknownBase (selector : Char)
  /-- A base without digits. -/
  | missingDigits (base : Nat)
  /-- A character that is no digit of the base. -/
  | invalidDigit (found : Char) (base : Nat)
  /-- A fraction that does not read as a real. -/
  | malformedReal
  /-- An integer above the signed words. -/
  | integerOverflow
  /-- A string that its source ends in. -/
  | unterminatedString
  /-- A literal with separators that the scratch arena cannot hold. -/
  | scratchExhausted (refusal : AllocError)
  /-- The caller's limit. -/
  | tokenLimitExceeded (limit : Nat)
  deriving DecidableEq, Repr

namespace Cause

/-- The sort that a cause belongs to. -/
def kind : Cause → ErrorKind
  | unexpectedChar _ => .badCodepoint
  | invalidByte _ => .badCodepoint
  | unknownBase _ => .invalidBase
  | missingDigits _ => .invalidBase
  | invalidDigit _ _ => .invalidDigit
  | malformedReal => .invalidDigit
  | integerOverflow => .integerOverflow
  | unterminatedString => .unterminatedString
  | scratchExhausted _ => .scratchExhausted
  | tokenLimitExceeded _ => .tokenLimitExceeded

/-- A byte as two upper-case hexadecimal digits. -/
def hexByte (b : UInt8) : String :=
  let digit (v : Nat) : Char := (Nat.digitChar v).toUpper
  String.ofList [digit (b.toNat / 16), digit (b.toNat % 16)]

/-- The wording of a cause. -/
def message : Cause → String
  | unexpectedChar found => "unexpected character " ++ quote found
  | invalidByte byte => "invalid UTF-8 byte 0x" ++ hexByte byte
  | unknownBase selector =>
    "unknown number base `0" ++ selector.toString ++ "`, expected `0x`, `0o` or `0b`"
  | missingDigits base => s!"expected base-{base} digits after the prefix"
  | invalidDigit found base => "invalid digit " ++ quote found ++ s!" in base-{base} literal"
  | malformedReal => "malformed real literal"
  | integerOverflow => "integer literal does not fit in 64 bits"
  | unterminatedString => "unterminated string literal, add a closing `\"`"
  | scratchExhausted refusal =>
    "scratch arena exhausted while reading literal: " ++ refusal.message
  | tokenLimitExceeded limit => s!"token limit of {limit} exceeded"

end Cause

/-- An error in a source, at a byte offset of it. -/
structure Error where
  file : String
  offset : Nat
  cause : Cause
  deriving DecidableEq, Repr

namespace Error

/-- The sort of the error. -/
def kind (e : Error) : ErrorKind := e.cause.kind

/-- What is wrong. -/
def message (e : Error) : String := e.cause.message

/-- Where, and what is wrong. -/
def report (e : Error) : String := s!"{e.file}:{e.offset}: {e.message}"

instance : ToString Error := ⟨report⟩

end Error

end FrontEnd.Lexer
