import FrontEnd.Unicode.Escaped

/-!
# Quoted characters

A character in a report stands between single quotes. Six characters have a short escape; those
that have no shape of their own are written by number.
-/

namespace FrontEnd.Unicode

/-- A character's text between the quotes. -/
def escape (c : Char) : String :=
  if c = '\x00' then "\\0"
  else if c = '\t' then "\\t"
  else if c = '\r' then "\\r"
  else if c = '\n' then "\\n"
  else if c = '\'' then "\\'"
  else if c = '\\' then "\\\\"
  else if isEscaped c then "\\u\x7b" ++ String.ofList (Nat.toDigits 16 c.toNat) ++ "\x7d"
  else c.toString

/-- A character between single quotes. -/
def quote (c : Char) : String := "'" ++ escape c ++ "'"

end FrontEnd.Unicode
