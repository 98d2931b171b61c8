import FrontEnd.Number.Digits
import FrontEnd.Proofs.Utf8.Text

/-!
# Decimal numerals

A signed word is read back from the digits that it is written with.
-/

namespace FrontEnd.Number

open Utf8 (ascii_isDigit ofChars)

variable {c : Char} {cs : List Char} {v : Nat}

theorem digit?_of_isDigit (digit : c.isDigit = true) :
    digit? 10 c.toUInt8 = some (c.toNat - '0'.toNat) := by
  have value : c.toUInt8.toNat = c.toNat := Utf8.toNat_toUInt8 (ascii_isDigit c digit)
  have bounds := (Utf8.isDigit_iff c).mp digit
  have zero : '0'.toNat = 0x30 := rfl
  have weight : weight? c.toUInt8 = some (c.toNat - '0'.toNat) := by
    unfold weight?
    rw [value]
    exact if_pos bounds
  unfold digit?
  rw [weight]
  exact Option.filter_some_pos (by simp; omega)

theorem naturalFrom?_digits (digits : ∀ c ∈ cs, c.isDigit = true) (v : Nat) :
    naturalFrom? 10 v (cs.map Char.toUInt8) = some (Nat.ofDigitChars 10 cs v) := by
  induction cs generalizing v with
  | nil => rfl
  | cons c cs ih =>
    rw [List.map_cons, naturalFrom?, digit?_of_isDigit (digits c List.mem_cons_self)]
    dsimp only
    rw [ih (fun c later => digits c (List.mem_cons_of_mem _ later)), Nat.ofDigitChars_cons,
      Nat.mul_comm]

theorem isDigit_of_mem_repr (member : c ∈ v.repr.toList) : c.isDigit = true := by
  rw [Nat.toList_repr] at member
  exact Nat.isDigit_of_mem_toDigits (by decide) (by decide) member

theorem repr_ne_nil (v : Nat) : v.repr.toList ≠ [] := by
  rw [Nat.toList_repr]
  exact Nat.toDigits_ne_nil

theorem ofChars_repr (v : Nat) : ofChars v.repr.toList = v.repr.toList.map Char.toUInt8 :=
  Utf8.ofChars_ascii fun c member => ascii_isDigit c (isDigit_of_mem_repr member)

/-- A number is read back from its digits. -/
theorem signed64?_repr (fits : v ≤ maxSigned64) :
    signed64? 10 (ofChars v.repr.toList) = some v := by
  have read : natural? 10 (ofChars v.repr.toList) = some v := by
    have some_digit : (v.repr.toList.map Char.toUInt8).isEmpty = false := by
      simp
    unfold natural?
    rw [ofChars_repr, some_digit, naturalFrom?_digits fun c => isDigit_of_mem_repr, Nat.toList_repr,
      Nat.ofDigitChars_ten_toDigits]
    rfl
  unfold signed64?
  rw [read]
  exact Option.filter_some_pos (by simpa using fits)

end FrontEnd.Number
