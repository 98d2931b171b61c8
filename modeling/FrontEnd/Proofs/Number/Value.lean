import Mathlib.Data.Nat.Digits.Defs
import FrontEnd.Number.Binary64
import FrontEnd.Proofs.Lexer.Numerals

/-!
# What digits are worth

`value` is what digits of a base stand for, place by place. A numeral of nothing but digits is read
as its value (`natural?_value`), if it fits where that is asked for (`signed64?_value`).
-/

namespace FrontEnd.Number

open Lexer (forall_byte)

/-- The place of a byte among the digits, in either case; `16` if it is none of them. -/
def worth (b : UInt8) : Nat := "0123456789abcdef".toList.idxOf (Char.ofUInt8 b).toLower

/-- What digits are worth in a base, the last one counting as it is. -/
def value (base : Nat) (digits : List UInt8) : Nat := Nat.ofDigits base (digits.reverse.map worth)

variable {base v : Nat} {b : UInt8} {digits part : List UInt8}

@[simp] theorem value_nil (base : Nat) : value base [] = 0 := rfl

theorem value_append (base : Nat) (digits part : List UInt8) :
    value base (digits ++ part) = value base digits * base ^ part.length + value base part := by
  simp [value, Nat.ofDigits_append, Nat.mul_comm, Nat.add_comm]

theorem value_cons (base : Nat) (b : UInt8) (digits : List UInt8) :
    value base (b :: digits) = worth b * base ^ digits.length + value base digits := by
  rw [← List.singleton_append, value_append]
  simp [value]

/-! ### Digits -/

theorem digit?_sixteen (b : UInt8) :
    digit? 16 b = if worth b < 16 then some (worth b) else none :=
  @forall_byte (fun b => digit? 16 b = if worth b < 16 then some (worth b) else none)
    (by decide +kernel) b

theorem digit?_eq (small : base ≤ 16) (b : UInt8) :
    digit? base b = if worth b < base then some (worth b) else none := by
  have narrows : digit? base b = (digit? 16 b).filter (· < base) := by
    unfold digit?
    rw [Option.filter_filter]
    congr 1
    funext v
    simp
    omega
  rw [narrows, digit?_sixteen]
  by_cases low : worth b < 16
  · rw [if_pos low, Option.filter_some]
    simp
  · rw [if_neg low, if_neg (by omega)]
    rfl

theorem isSome_digit?_iff (small : base ≤ 16) : (digit? base b).isSome ↔ worth b < base := by
  rw [digit?_eq small]
  split
  · simp [*]
  · simp [*]

/-! ### Numerals -/

theorem naturalFrom?_value (small : base ≤ 16) (each : ∀ b ∈ digits, worth b < base) (v : Nat) :
    naturalFrom? base v digits = some (v * base ^ digits.length + value base digits) := by
  induction digits generalizing v with
  | nil => simp [naturalFrom?]
  | cons b digits ih =>
    rw [List.forall_mem_cons] at each
    rw [naturalFrom?, digit?_eq small, if_pos each.1]
    dsimp only
    rw [ih each.2, value_cons, List.length_cons]
    congr 1
    ring

theorem natural?_value (small : base ≤ 16) (each : ∀ b ∈ digits, worth b < base)
    (more : digits ≠ []) : natural? base digits = some (value base digits) := by
  unfold natural?
  rw [naturalFrom?_value small each]
  simp [more]

theorem signed64?_value (small : base ≤ 16) (each : ∀ b ∈ digits, worth b < base)
    (more : digits ≠ []) :
    signed64? base digits =
      if value base digits ≤ maxSigned64 then some (value base digits) else none := by
  unfold signed64?
  rw [natural?_value small each more]
  rw [Option.filter_some]
  simp

theorem ne_point_of_worth (digit : worth b < 10) : b ≠ 0x2E := by
  rintro rfl
  exact absurd digit (by decide)

/-- A fraction is read as the quotient that its digits stand for. -/
theorem ofText?_value (whole_digits : ∀ b ∈ digits, worth b < 10) (more : digits ≠ [])
    (places : ∀ b ∈ part, worth b < 10) (some_place : part ≠ []) :
    Binary64.ofText? (digits ++ 0x2E :: part) =
      some (.ofRatio (value 10 (digits ++ part)) (10 ^ part.length)) := by
  have passes : ∀ b ∈ digits, (b != 0x2E) = true := by
    intro b member
    simpa using ne_point_of_worth (whole_digits b member)
  have whole : (digits ++ 0x2E :: part).takeWhile (· != 0x2E) = digits := by
    simp [List.takeWhile_append_of_pos passes]
  have rest : (digits ++ 0x2E :: part).dropWhile (· != 0x2E) = 0x2E :: part := by
    simp [List.dropWhile_append_of_pos passes]
  unfold Binary64.ofText?
  simp only [whole, rest, natural?_value (by decide) whole_digits more,
    natural?_value (by decide) places some_place, value_append]
  rfl

end FrontEnd.Number
