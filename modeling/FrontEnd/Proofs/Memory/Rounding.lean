import FrontEnd.Memory.Arena

/-!
# Rounding addresses up

What `alignUp` comes to: the least multiple at or after an address. For a power of two a mask finds
it. `Arena.padding` leads there unless it is past the last machine word.
-/

namespace FrontEnd.Memory

variable {align here unit other : Nat}

theorem isAlignment_iff : isAlignment align = true ↔ align.isPowerOfTwo := by
  unfold isAlignment
  rw [beq_iff_eq, Nat.one_shiftLeft]
  constructor
  · intro same
    exact ⟨align.log2, same.symm⟩
  · rintro ⟨k, rfl⟩
    rw [Nat.log2_two_pow]

theorem isPowerOfTwo_max (power : align.isPowerOfTwo) : (max align minAlignment).isPowerOfTwo := by
  rcases Nat.le_total align minAlignment with small | large
  · rw [Nat.max_eq_right small]
    exact ⟨4, rfl⟩
  · rw [Nat.max_eq_left large]
    exact power

theorem minAlignment_dvd_max (power : align.isPowerOfTwo) :
    minAlignment ∣ max align minAlignment := by
  rcases Nat.le_total align minAlignment with small | large
  · exact ⟨1, by rw [Nat.mul_one, Nat.max_eq_right small]⟩
  · rw [Nat.max_eq_left large]
    obtain ⟨k, rfl⟩ := power
    have four_le : 4 ≤ k := by
      apply Nat.le_of_not_lt
      intro few
      have less := Nat.pow_lt_pow_right Nat.one_lt_two few
      exact absurd large (Nat.not_le.mpr less)
    exact Nat.pow_dvd_pow 2 four_le

theorem max_minAlignment_pos (align : Nat) : 0 < max align minAlignment :=
  Nat.lt_of_lt_of_le (by decide) (Nat.le_max_right align minAlignment)

/-! ### The least multiple -/

theorem le_alignUp (here unit : Nat) : here ≤ alignUp here unit := by
  unfold alignUp
  split
  · exact Nat.le_refl here
  · exact Nat.le_add_right here _

theorem alignUp_lt (here : Nat) (positive : 0 < unit) : alignUp here unit < here + unit := by
  unfold alignUp
  split <;> omega

theorem dvd_alignUp (here : Nat) (positive : 0 < unit) : unit ∣ alignUp here unit := by
  have below := Nat.mod_lt here positive
  have parts := Nat.div_add_mod here unit
  unfold alignUp
  split
  · rename_i multiple
    exact Nat.dvd_of_mod_eq_zero multiple
  · refine ⟨here / unit + 1, ?_⟩
    rw [Nat.mul_add_one]
    omega

theorem alignUp_le (after : here ≤ other) (multiple : unit ∣ other) (positive : 0 < unit) :
    alignUp here unit ≤ other := by
  apply Nat.le_of_lt_add_of_dvd _ (dvd_alignUp here positive) multiple
  exact Nat.lt_of_lt_of_le (alignUp_lt here positive) (Nat.add_le_add_right after unit)

theorem alignUp_eq_mask (here : Nat) (power : unit.isPowerOfTwo) :
    alignUp here unit =
      if here &&& (unit - 1) = 0 then here else here + (unit - (here &&& (unit - 1))) := by
  obtain ⟨k, rfl⟩ := power
  rw [Nat.and_two_pow_sub_one_eq_mod]
  rfl

/-- In the lower half of the words there is always a multiple that is a word. -/
theorem alignUp_lt_wordLimit (low : here ≤ 0x8000000000000000) (power : unit.isPowerOfTwo)
    (bounded : unit < wordLimit) : alignUp here unit < wordLimit := by
  obtain ⟨k, rfl⟩ := power
  have small : k < 64 := (Nat.pow_lt_pow_iff_right Nat.one_lt_two).mp bounded
  have multiple : 2 ^ k ∣ 0x8000000000000000 := Nat.pow_dvd_pow 2 (Nat.le_of_lt_succ small)
  exact Nat.lt_of_le_of_lt (alignUp_le low multiple (Nat.two_pow_pos k)) (by decide)

/-! ### Padding -/

theorem Arena.padding_eq_ok_iff {a : Arena} {padding : Nat} :
    a.padding unit = .ok padding ↔
      alignUp (a.address + a.offset) unit < wordLimit ∧
        padding = alignUp (a.address + a.offset) unit - (a.address + a.offset) := by
  have after := le_alignUp (a.address + a.offset) unit
  unfold Arena.padding
  by_cases fits : alignUp (a.address + a.offset) unit < wordLimit
  · have here : a.address + a.offset < wordLimit := Nat.lt_of_le_of_lt after fits
    simp [word_eq, here, fits, wordSub_of_le after, bind, Except.bind, eq_comm]
  · by_cases here : a.address + a.offset < wordLimit
    · simp [word_eq, here, fits, bind, Except.bind]
    · simp [word_eq, here, fits, bind, Except.bind]

end FrontEnd.Memory
