import Mathlib.Data.Nat.Dist
import FrontEnd.Number.Binary64

/-!
# The nearest double

`ofRatio_nearest`: no double is nearer to a quotient than the one that `ofRatio` gives, and of two
that are equally near it gives the even one. Doubles are compared with the quotient as integers: the
one with the bits `b` is `units b / 2 ^ 1074`.
-/

namespace FrontEnd.Number

variable {num den e m n k b c : Nat}

/-! ### The nearest integer -/

theorem roundHalfEven_cases (num den : Nat) :
    (roundHalfEven num den = num / den ∧
      (2 * (num % den) < den ∨ 2 * (num % den) = den ∧ num / den % 2 = 0)) ∨
    (roundHalfEven num den = num / den + 1 ∧
      (den < 2 * (num % den) ∨ 2 * (num % den) = den ∧ num / den % 2 = 1)) := by
  unfold roundHalfEven
  dsimp only
  split
  · rename_i down
    exact Or.inl ⟨rfl, down⟩
  · rename_i up
    exact Or.inr ⟨rfl, by omega⟩

/-- Where the multiple of a number stands to two multiples next to each other. -/
theorem mul_cases (k q den : Nat) :
    k * den + den ≤ q * den ∨ k = q ∨ k = q + 1 ∨ (q + 1) * den + den ≤ k * den := by
  rcases Nat.lt_or_ge k q with below | above
  · left
    rw [← Nat.succ_mul]
    exact Nat.mul_le_mul_right den below
  · rcases Nat.lt_or_ge (q + 1) k with far | near
    · right; right; right
      rw [← Nat.succ_mul]
      exact Nat.mul_le_mul_right den far
    · omega

/-- No multiple is nearer than the rounded one, and one that is as near stands across from an even
one. -/
theorem roundHalfEven_nearest (pos : 0 < den) (num k : Nat) :
    Nat.dist num (roundHalfEven num den * den) ≤ Nat.dist num (k * den) ∧
      (Nat.dist num (roundHalfEven num den * den) = Nat.dist num (k * den) →
        k = roundHalfEven num den ∨ roundHalfEven num den % 2 = 0) := by
  have split := Nat.div_add_mod num den
  have small := Nat.mod_lt num pos
  have next : (num / den + 1) * den = num / den * den + den := Nat.succ_mul _ _
  rw [Nat.mul_comm] at split
  unfold Nat.dist
  rcases roundHalfEven_cases num den with ⟨same, down⟩ | ⟨same, up⟩
  · rw [same]
    rcases mul_cases k (num / den) den with far | rfl | rfl | far
    · omega
    · omega
    · rw [next]
      omega
    · omega
  · rw [same]
    rcases mul_cases k (num / den) den with far | rfl | rfl | far
    · omega
    · rw [next]
      omega
    · omega
    · omega

namespace Binary64

/-- What the bits of a double without a sign stand for, in units of `2 ^ -1074`. Infinity counts as
the power of two that the finite doubles run up to. -/
def units (bits : Nat) : Nat :=
  if bits < 2 ^ 52 then bits else (2 ^ 52 + bits % 2 ^ 52) * 2 ^ (bits / 2 ^ 52 - 1)

/-- No double is nearer to the quotient, and one that is as near is odd. -/
structure Nearest (x : Binary64) (num den : Nat) : Prop where
  le : x.bits.toNat ≤ infinityBits
  least : ∀ b ≤ infinityBits,
    Nat.dist (num * 2 ^ 1074) (units x.bits.toNat * den) ≤ Nat.dist (num * 2 ^ 1074) (units b * den)
  even : ∀ b ≤ infinityBits, b ≠ x.bits.toNat →
    Nat.dist (num * 2 ^ 1074) (units x.bits.toNat * den) = Nat.dist (num * 2 ^ 1074) (units b * den) →
    x.bits.toNat % 2 = 0

/-! ### Doubles in units -/

/-- An exponent and a significand stand for their product, also where the significand carries. -/
theorem units_eq (small : m ≤ 2 ^ 53) (normal : e = 0 ∨ 2 ^ 52 ≤ m) :
    units (e <<< 52 + m) = m * 2 ^ e := by
  rw [Nat.shiftLeft_eq]
  unfold units
  rcases Nat.lt_or_ge m (2 ^ 52) with low | high
  · obtain rfl : e = 0 := by omega
    rw [Nat.zero_mul, Nat.zero_add, if_pos low, Nat.pow_zero, Nat.mul_one]
  · rw [if_neg (by omega)]
    obtain ⟨f, rfl⟩ := Nat.exists_eq_add_of_le high
    rcases Nat.lt_or_ge f (2 ^ 52) with short | carries
    · have exponent : (e * 2 ^ 52 + (2 ^ 52 + f)) / 2 ^ 52 - 1 = e := by omega
      have fraction : (e * 2 ^ 52 + (2 ^ 52 + f)) % 2 ^ 52 = f := by omega
      rw [exponent, fraction]
    · obtain rfl : f = 2 ^ 52 := by omega
      have exponent : (e * 2 ^ 52 + (2 ^ 52 + 2 ^ 52)) / 2 ^ 52 - 1 = e + 1 := by omega
      have fraction : (e * 2 ^ 52 + (2 ^ 52 + 2 ^ 52)) % 2 ^ 52 = 0 := by omega
      rw [exponent, fraction, Nat.pow_succ]
      omega

/-- A double is a multiple of a power of two, or below the normal significands at that exponent. -/
theorem units_grid (bits e : Nat) :
    (∃ k, units bits = k * 2 ^ e) ∨ 0 < e ∧ units bits < 2 ^ 52 * 2 ^ e := by
  unfold units
  split
  · rename_i low
    rcases Nat.eq_zero_or_pos e with rfl | pos
    · exact Or.inl ⟨bits, (Nat.mul_one bits).symm⟩
    · exact Or.inr ⟨pos, Nat.lt_of_lt_of_le low (Nat.le_mul_of_pos_right _ (Nat.two_pow_pos e))⟩
  · generalize bits / 2 ^ 52 - 1 = q
    have short : 2 ^ 52 + bits % 2 ^ 52 < 2 ^ 53 := by omega
    rcases Nat.lt_or_ge q e with fine | coarse
    · right
      refine ⟨Nat.zero_lt_of_lt fine, ?_⟩
      calc (2 ^ 52 + bits % 2 ^ 52) * 2 ^ q
        _ < 2 ^ 53 * 2 ^ q := Nat.mul_lt_mul_of_pos_right short (Nat.two_pow_pos q)
        _ = 2 ^ 52 * 2 ^ (q + 1) := by rw [Nat.pow_succ 2 q]; omega
        _ ≤ 2 ^ 52 * 2 ^ e := Nat.mul_le_mul_left _ (Nat.pow_le_pow_right Nat.two_pos fine)
    · left
      obtain ⟨more, rfl⟩ := Nat.exists_eq_add_of_le coarse
      refine ⟨(2 ^ 52 + bits % 2 ^ 52) * 2 ^ more, ?_⟩
      rw [Nat.mul_assoc, ← Nat.pow_add, Nat.add_comm more]

theorem units_strictMono : StrictMono units := by
  intro b c before
  unfold units
  rcases Nat.lt_or_ge c (2 ^ 52) with low | high
  · rw [if_pos low, if_pos (Nat.lt_trans before low)]
    exact before
  rw [if_neg (Nat.not_lt_of_ge high)]
  split
  · rename_i low
    have normal : 2 ^ 52 ≤ (2 ^ 52 + c % 2 ^ 52) * 2 ^ (c / 2 ^ 52 - 1) :=
      Nat.le_trans (Nat.le_add_right _ _) (Nat.le_mul_of_pos_right _ (Nat.two_pow_pos _))
    exact Nat.lt_of_lt_of_le low normal
  · rcases Nat.lt_or_ge (b / 2 ^ 52) (c / 2 ^ 52) with coarser | same
    · calc (2 ^ 52 + b % 2 ^ 52) * 2 ^ (b / 2 ^ 52 - 1)
        _ < 2 ^ 53 * 2 ^ (b / 2 ^ 52 - 1) :=
          Nat.mul_lt_mul_of_pos_right (by omega) (Nat.two_pow_pos _)
        _ = 2 ^ 52 * 2 ^ (b / 2 ^ 52 - 1 + 1) := by rw [Nat.pow_succ 2 (b / 2 ^ 52 - 1)]; omega
        _ ≤ (2 ^ 52 + c % 2 ^ 52) * 2 ^ (c / 2 ^ 52 - 1) :=
          Nat.mul_le_mul (Nat.le_add_right _ _) (Nat.pow_le_pow_right Nat.two_pos (by omega))
    · have exponent : b / 2 ^ 52 = c / 2 ^ 52 := by omega
      rw [exponent]
      exact Nat.mul_lt_mul_of_pos_right (by omega) (Nat.two_pow_pos _)

/-! ### Rounding -/

theorem exponent_spec (v : Nat) :
    v < 2 ^ (exponent v + 53) ∧ (exponent v = 0 ∨ 2 ^ (exponent v + 52) ≤ v) := by
  have above : v < 2 ^ (v.log2 + 1) := Nat.lt_log2_self
  unfold exponent
  refine ⟨Nat.lt_of_lt_of_le above (Nat.pow_le_pow_right Nat.two_pos (by omega)), ?_⟩
  rcases Nat.lt_or_ge 52 v.log2 with large | small
  · right
    rw [Nat.sub_add_cancel (Nat.le_of_lt large)]
    exact Nat.log2_self_le (by rintro rfl; simp at large)
  · exact Or.inl (Nat.sub_eq_zero_of_le small)

/-- At the exponent of a quotient its significand has 53 bits, or the exponent is the least. -/
theorem significand_bounds (pos : 0 < den) (e_eq : exponent (num / den) = e) :
    roundHalfEven num (den * 2 ^ e) ≤ 2 ^ 53 ∧
      (e = 0 ∨ 2 ^ 52 ≤ roundHalfEven num (den * 2 ^ e) ∧ 2 ^ 52 * (den * 2 ^ e) ≤ num) := by
  obtain ⟨above, below⟩ := exponent_spec (num / den)
  rw [e_eq] at above below
  have unit : 0 < den * 2 ^ e := Nat.mul_pos pos (Nat.two_pow_pos e)
  have scaled (k : Nat) : 2 ^ (e + k) * den = 2 ^ k * (den * 2 ^ e) := by
    rw [Nat.add_comm, Nat.pow_add, Nat.mul_assoc, Nat.mul_comm den]
  rw [Nat.div_lt_iff_lt_mul pos, scaled, ← Nat.div_lt_iff_lt_mul unit] at above
  have rounded := roundHalfEven_cases num (den * 2 ^ e)
  refine ⟨by omega, below.imp_right fun normal => ?_⟩
  rw [Nat.le_div_iff_mul_le pos, scaled] at normal
  have whole := (Nat.le_div_iff_mul_le unit).mpr normal
  exact ⟨by omega, normal⟩

theorem toNat_ofRatio {scaled : Nat} (scales : num <<< 1074 = scaled)
    (e_eq : exponent (scaled / den) = e) :
    (ofRatio num den).bits.toNat =
      min (e <<< 52 + roundHalfEven scaled (den * 2 ^ e)) infinityBits := by
  unfold ofRatio
  dsimp only
  rw [UInt64.toNat_ofNat', scales, e_eq, Nat.shiftLeft_eq den]
  apply Nat.mod_eq_of_lt
  exact Nat.lt_of_le_of_lt (Nat.min_le_right _ _) (by decide)

/-- Rounded to the significands at its exponent, a quotient is rounded to the nearest double. -/
theorem grid_nearest (pos : 0 < den) (e_eq : exponent (num / den) = e) (b : Nat) :
    let m := roundHalfEven num (den * 2 ^ e)
    Nat.dist num (m * 2 ^ e * den) ≤ Nat.dist num (units b * den) ∧
      (Nat.dist num (m * 2 ^ e * den) = Nat.dist num (units b * den) →
        units b = m * 2 ^ e ∨ m % 2 = 0) := by
  intro m
  obtain ⟨-, normal⟩ := significand_bounds pos e_eq
  have unit : 0 < den * 2 ^ e := Nat.mul_pos pos (Nat.two_pow_pos e)
  have regroup (k : Nat) : k * 2 ^ e * den = k * (den * 2 ^ e) := by
    rw [Nat.mul_assoc, Nat.mul_comm den]
  rw [regroup]
  rcases units_grid b e with ⟨k, same⟩ | ⟨some_exponent, low⟩
  · rw [same, regroup]
    obtain ⟨near, tie⟩ := roundHalfEven_nearest unit num k
    exact ⟨near, fun equal => (tie equal).imp_left fun here => by rw [here]⟩
  · -- the least normal significand lies between the quotient and the double
    obtain ⟨-, above⟩ := normal.resolve_left (Nat.ne_of_gt some_exponent)
    have near := (roundHalfEven_nearest unit num (2 ^ 52)).1
    have below : units b * den < 2 ^ 52 * (den * 2 ^ e) := by
      rw [← regroup]
      exact Nat.mul_lt_mul_of_pos_right low pos
    have strict : Nat.dist num (2 ^ 52 * (den * 2 ^ e)) < Nat.dist num (units b * den) := by
      rw [Nat.dist_eq_sub_of_le_right above, Nat.dist_eq_sub_of_le_right (by omega)]
      omega
    have nearer := Nat.lt_of_le_of_lt near strict
    exact ⟨Nat.le_of_lt nearer, fun equal => absurd equal (Nat.ne_of_lt nearer)⟩

/-- `ofRatio` rounds to the nearest double, a tie to the even one. -/
theorem ofRatio_nearest (pos : 0 < den) (num : Nat) : Nearest (ofRatio num den) num den := by
  generalize scales : num <<< 1074 = scaled
  generalize e_eq : exponent (scaled / den) = e
  have bits := toNat_ofRatio scales e_eq
  have near := grid_nearest pos e_eq
  obtain ⟨small, normal⟩ := significand_bounds pos e_eq
  rw [Nat.shiftLeft_eq] at scales
  generalize roundHalfEven scaled (den * 2 ^ e) = m at bits near small normal
  rcases Nat.lt_or_ge infinityBits (e <<< 52 + m) with past | finite
  · rw [Nat.min_eq_right (Nat.le_of_lt past)] at bits
    have reaches : infinityBits ≤ e <<< 52 + 2 ^ 52 ∧ e ≠ 0 := by
      rw [Nat.shiftLeft_eq] at past ⊢
      unfold infinityBits at past ⊢
      omega
    obtain ⟨-, above⟩ := normal.resolve_left reaches.2
    -- the quotient is not below infinity, and no double is above it
    have top : units infinityBits * den ≤ scaled := by
      calc units infinityBits * den
        _ ≤ 2 ^ 52 * 2 ^ e * den := by
          rw [← units_eq (by decide) (Or.inr (Nat.le_refl _))]
          exact Nat.mul_le_mul_right den (units_strictMono.monotone reaches.1)
        _ = 2 ^ 52 * (den * 2 ^ e) := by rw [Nat.mul_assoc, Nat.mul_comm den]
        _ ≤ scaled := above
    refine ⟨Nat.le_of_eq bits, fun b le => ?_, fun _ _ _ _ => by rw [bits]; decide⟩
    have below := Nat.mul_le_mul_right den (units_strictMono.monotone le)
    rw [scales, bits, Nat.dist_eq_sub_of_le_right top,
      Nat.dist_eq_sub_of_le_right (Nat.le_trans below top)]
    exact Nat.sub_le_sub_left below scaled
  · rw [Nat.min_eq_left finite] at bits
    have shown : units (e <<< 52 + m) = m * 2 ^ e := units_eq small (normal.imp_right And.left)
    refine ⟨by rwa [bits], fun b _ => ?_, fun b _ other => ?_⟩
    · rw [scales, bits, shown]
      exact (near b).1
    · rw [scales, bits, shown]
      intro equal
      rcases (near b).2 equal with same | even
      · rw [← shown] at same
        rw [bits] at other
        exact absurd (units_strictMono.injective same) other
      · rw [Nat.shiftLeft_eq]
        omega

end Binary64

end FrontEnd.Number
