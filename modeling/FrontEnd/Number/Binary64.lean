import FrontEnd.Number.Digits

/-!
# Binary64

Reals as binary floating-point words of 64 bits: a sign, eleven bits of exponent, fifty-two of
fraction. `Binary64.ofRatio` rounds a quotient to the nearest of them, a half to the even neighbour;
`Binary64.ofText?` reads a decimal fraction that way.
-/

namespace FrontEnd.Number

/-- A quotient rounded to the nearest integer, a half to the even one. -/
def roundHalfEven (num den : Nat) : Nat :=
  let q := num / den
  let r := num % den
  if 2 * r < den ∨ 2 * r = den ∧ q % 2 = 0 then q else q + 1

/-- A double, by its bits. -/
structure Binary64 where
  bits : UInt64
  deriving DecidableEq, Repr

namespace Binary64

/-- The bits of positive infinity, above those of every finite number. -/
def infinityBits : Nat := 0x7FF0000000000000

/-- The exponent for which `v`, in units of the smallest subnormal, has 53 bits; zero below that. -/
def exponent (v : Nat) : Nat := v.log2 - 52

/-- The double nearest to a quotient of natural numbers.

In units of `2 ^ -1074` the quotient is `num * 2 ^ 1074 / den`. Its significand of at most 53 bits
is added to the exponent field, not joined to it, so that the leading bit of a normal number and
the carry of one rounded up to a power of two both count as one more exponent. -/
def ofRatio (num den : Nat) : Binary64 :=
  let scaled := num <<< 1074
  let e := exponent (scaled / den)
  let significand := roundHalfEven scaled (den <<< e)
  ⟨.ofNat (min (e <<< 52 + significand) infinityBits)⟩

/-- The double nearest to a decimal fraction: digits, a point, digits. -/
def ofText? (text : List UInt8) : Option Binary64 :=
  let whole := text.takeWhile (· != 0x2E)
  match text.dropWhile (· != 0x2E) with
  | [] => none
  | _ :: fraction =>
    match natural? 10 whole, natural? 10 fraction with
    | some w, some f =>
      let places := Nat.pow 10 fraction.length
      some (ofRatio (w * places + f) places)
    | _, _ => none

end Binary64

end FrontEnd.Number
