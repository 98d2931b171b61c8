/-!
# Keywords

The reserved words. A word is looked up by the letters that tell it from the others, then compared
as a whole, so that `fnord` is no keyword.
-/

namespace FrontEnd

/-- Reserved words. -/
inductive Keyword where
  | trueWord | falseWord | fnWord | letWord | constWord | structWord | ifWord | elseWord
  | returnWord | forWord | breakWord | continueWord | matchWord
  deriving DecidableEq, Repr

namespace Keyword

/-- Every keyword, in order. -/
def all : List Keyword :=
  [trueWord, falseWord, fnWord, letWord, constWord, structWord, ifWord, elseWord,
   returnWord, forWord, breakWord, continueWord, matchWord]

/-- The characters that write it. -/
def spelling : Keyword → List Char
  | trueWord => ['t', 'r', 'u', 'e']
  | falseWord => ['f', 'a', 'l', 's', 'e']
  | fnWord => ['f', 'n']
  | letWord => ['l', 'e', 't']
  | constWord => ['c', 'o', 'n', 's', 't']
  | structWord => ['s', 't', 'r', 'u', 'c', 't']
  | ifWord => ['i', 'f']
  | elseWord => ['e', 'l', 's', 'e']
  | returnWord => ['r', 'e', 't', 'u', 'r', 'n']
  | forWord => ['f', 'o', 'r']
  | breakWord => ['b', 'r', 'e', 'a', 'k']
  | continueWord => ['c', 'o', 'n', 't', 'i', 'n', 'u', 'e']
  | matchWord => ['m', 'a', 't', 'c', 'h']

/-- The kind's identifier. -/
def label : Keyword → String
  | trueWord => "True"
  | falseWord => "False"
  | fnWord => "Fn"
  | letWord => "Let"
  | constWord => "Const"
  | structWord => "Struct"
  | ifWord => "If"
  | elseWord => "Else"
  | returnWord => "Return"
  | forWord => "For"
  | breakWord => "Break"
  | continueWord => "Continue"
  | matchWord => "Match"

/-- The keyword that a word is, told apart by the first letters that differ. -/
def ofWord? : List Char → Option Keyword
  | 'b' :: rest => if rest = ['r', 'e', 'a', 'k'] then some breakWord else none
  | 'c' :: 'o' :: 'n' :: 's' :: rest => if rest = ['t'] then some constWord else none
  | 'c' :: 'o' :: 'n' :: 't' :: rest =>
    if rest = ['i', 'n', 'u', 'e'] then some continueWord else none
  | 'e' :: rest => if rest = ['l', 's', 'e'] then some elseWord else none
  | 'f' :: 'a' :: rest => if rest = ['l', 's', 'e'] then some falseWord else none
  | 'f' :: 'n' :: rest => if rest = [] then some fnWord else none
  | 'f' :: 'o' :: rest => if rest = ['r'] then some forWord else none
  | 'i' :: rest => if rest = ['f'] then some ifWord else none
  | 'l' :: rest => if rest = ['e', 't'] then some letWord else none
  | 'm' :: rest => if rest = ['a', 't', 'c', 'h'] then some matchWord else none
  | 'r' :: rest => if rest = ['e', 't', 'u', 'r', 'n'] then some returnWord else none
  | 's' :: rest => if rest = ['t', 'r', 'u', 'c', 't'] then some structWord else none
  | 't' :: rest => if rest = ['r', 'u', 'e'] then some trueWord else none
  | _ => none

/-- The keyword that bytes spell. Keywords are ASCII, so a byte is read as the character it
numbers. -/
def ofBytes? (text : List UInt8) : Option Keyword := ofWord? (text.map Char.ofUInt8)

end Keyword

end FrontEnd
