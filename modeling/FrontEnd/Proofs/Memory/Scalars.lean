import Mathlib.Algebra.Group.Nat.Defs
import FrontEnd.Memory.Arena
import FrontEnd.Memory.Scalar
import FrontEnd.Proofs.Buffer

/-!
# Scalars as bytes

A value is read back from the bytes that it is written as, whatever its type and width
(`Scalar.ofBytes_encode`). Zero is written as zeros, so memory just handed out holds it.
-/

namespace FrontEnd.Memory

open Buffer (window)

/-! ### Numbers, low byte first -/

theorem length_littleEndian (count v : Nat) : (littleEndian count v).length = count := by
  induction count generalizing v with
  | zero => rfl
  | succ count ih => rw [littleEndian, List.length_cons, ih]

theorem littleEndian_zero (count : Nat) : littleEndian count 0 = List.replicate count 0 := by
  induction count with
  | zero => rfl
  | succ count ih =>
    rw [littleEndian, Nat.zero_div, ih]
    rfl

/-- A number comes back but for what does not fit the bytes. -/
theorem ofLittleEndian_littleEndian (count v : Nat) :
    ofLittleEndian (littleEndian count v) = v % 256 ^ count := by
  induction count generalizing v with
  | zero =>
    rw [Nat.pow_zero, Nat.mod_one]
    rfl
  | succ count ih =>
    have low : (UInt8.ofNat (v % 256)).toNat = v % 256 := by
      rw [UInt8.toNat_ofNat']
      exact Nat.mod_mod v 256
    rw [littleEndian, ofLittleEndian, low, ih, Nat.pow_succ', Nat.mod_mul]

namespace Scalar

variable {t : Scalar} {bytes : List UInt8}

/-! ### Alignments -/

theorem isPowerOfTwo_bytes (w : Width) : w.bytes.isPowerOfTwo := by
  cases w with
  | w8 => exact ⟨0, rfl⟩
  | w16 => exact ⟨1, rfl⟩
  | w32 => exact ⟨2, rfl⟩
  | w64 => exact ⟨3, rfl⟩
  | w128 => exact ⟨4, rfl⟩

theorem isPowerOfTwo_align (t : Scalar) : t.align.isPowerOfTwo := by
  cases t with
  | unsigned w => exact isPowerOfTwo_bytes w
  | signed w => exact isPowerOfTwo_bytes w
  | float32 => exact ⟨2, rfl⟩
  | float64 => exact ⟨3, rfl⟩
  | bool => exact ⟨0, rfl⟩
  | char => exact ⟨2, rfl⟩

theorem align_le (t : Scalar) : t.align ≤ minAlignment := by
  have width (w : Width) : w.bytes ≤ minAlignment := by cases w <;> decide
  cases t with
  | unsigned w => exact width w
  | signed w => exact width w
  | float32 | float64 | bool | char => decide

/-! ### Words -/

theorem toWord_lt (v : t.Value) : t.toWord v < 256 ^ t.size := by
  have bits (w : Width) (v : BitVec (8 * w.bytes)) : v.toNat < 256 ^ w.bytes := by
    have below := v.isLt
    rwa [Nat.pow_mul] at below
  cases t with
  | unsigned w => exact bits w v
  | signed w => exact bits w v
  | float32 => exact BitVec.isLt v
  | float64 => exact BitVec.isLt v
  | bool => exact Nat.lt_trans (Bool.toNat_lt v) (by decide)
  | char => exact UInt32.toNat_lt v.val

/-- Also `true` and every character come back, though other words read as them too. -/
theorem ofWord_toWord (v : t.Value) : t.ofWord (t.toWord v) = v := by
  have bits {n : Nat} (v : BitVec n) : BitVec.ofNat n v.toNat = v := by
    rw [BitVec.ofNat_toNat, BitVec.setWidth_eq]
  cases t with
  | unsigned w => exact bits v
  | signed w => exact bits v
  | float32 => exact bits v
  | float64 => exact bits v
  | bool => cases v <;> rfl
  | char => exact Char.ofNat_toNat v

theorem toWord_zero (t : Scalar) : t.toWord t.zero = 0 := by
  cases t with
  | unsigned w => exact BitVec.toNat_zero
  | signed w => exact BitVec.toNat_zero
  | float32 | float64 | bool | char => rfl

/-! ### Bytes -/

/-- The value that bytes of its size hold. -/
def ofBytes (t : Scalar) (raw : List UInt8) : t.Value := t.ofWord (ofLittleEndian raw)

theorem length_encode (v : t.Value) : (t.encode v).length = t.size := length_littleEndian _ _

theorem ofBytes_encode (v : t.Value) : t.ofBytes (t.encode v) = v := by
  unfold ofBytes encode
  rw [ofLittleEndian_littleEndian, Nat.mod_eq_of_lt (toWord_lt v), ofWord_toWord]

theorem encode_zero (t : Scalar) : t.encode t.zero = List.replicate t.size 0 := by
  rw [encode, toWord_zero, littleEndian_zero]

theorem read_window {start : Nat} (inside : start + t.size ≤ bytes.length) :
    t.read (window bytes start t.size) = .ok (t.ofBytes (window bytes start t.size)) := by
  have width := Buffer.length_window inside
  have all := Buffer.slice_eq_window (Nat.zero_le _) (Nat.le_of_eq width.symm)
  rw [Nat.sub_zero, Buffer.window_window (Nat.le_of_eq (Nat.zero_add _)), Nat.add_zero] at all
  unfold read
  rw [all]
  rfl

end Scalar

end FrontEnd.Memory
