/-!
# Digits

Numerals in a base of at most thirty-six, written in ASCII with the letters of either case as the
digits from ten.
-/

namespace FrontEnd.Number

/-- What a byte is worth as a digit, whatever the base. -/
def weight? (b : UInt8) : Option Nat :=
  let v := b.toNat
  if 0x30 ≤ v ∧ v ≤ 0x39 then some (v - 0x30)
  else if 0x41 ≤ v ∧ v ≤ 0x5A then some (v - 0x41 + 10)
  else if 0x61 ≤ v ∧ v ≤ 0x7A then some (v - 0x61 + 10)
  else none

/-- What a byte is worth as a digit of a base. -/
def digit? (base : Nat) (b : UInt8) : Option Nat := (weight? b).filter (· < base)

/-- The number that a numeral goes on to when `v` has been read. -/
def naturalFrom? (base : Nat) : Nat → List UInt8 → Option Nat
  | v, [] => some v
  | v, b :: rest =>
    match digit? base b with
    | some d => naturalFrom? base (v * base + d) rest
    | none => none

/-- The number that a numeral spells; it must have a digit, and nothing else. -/
def natural? (base : Nat) (text : List UInt8) : Option Nat :=
  if text.isEmpty then none else naturalFrom? base 0 text

/-- The largest signed word. -/
def maxSigned64 : Nat := 0x7FFFFFFFFFFFFFFF

/-- The number that a numeral spells, if it fits a signed word. -/
def signed64? (base : Nat) (text : List UInt8) : Option Nat :=
  (natural? base text).filter (· ≤ maxSigned64)

end FrontEnd.Number
