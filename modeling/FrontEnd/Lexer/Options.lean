/-!
# Lexer options
-/

namespace FrontEnd.Lexer

/-- What the caller says of a source: the name it is reported under, and how many results the
iterator may yield. -/
structure Options where
  fileName : String := "<No file>"
  tokenLimit? : Option Nat := none
  deriving DecidableEq, Repr

namespace Options

/-- Options for a named source, without a limit. -/
def forFile (fileName : String) : Options := { fileName }

/-- The options with a limit, in place of any they have. -/
def withTokenLimit (options : Options) (limit : Nat) : Options :=
  { options with tokenLimit? := some limit }

end Options

end FrontEnd.Lexer
