import FrontEnd.Fault

/-!
# Blocks

A block names bytes of an arena; it is a handle, and copying it copies no bytes. Offsets and lengths
are machine words. What the end of a block is that runs past the last word is up to the `Build`: if
sums are checked it faults, and else it comes round.
-/

namespace FrontEnd.Memory

/-- One past the largest machine word. -/
def wordLimit : Nat := 0x10000000000000000

/-- What a program was built to do where a sum is past the last machine word, or a difference below
zero. -/
inductive Build where
  /-- It faults. -/
  | checked
  /-- It goes on with what is left modulo `wordLimit`. -/
  | wrapping
  deriving DecidableEq, Repr

attribute [class] Build

/-- Sums are checked where nothing else is said. -/
instance : Build := .checked

/-- A sum as a machine word. -/
def word [build : Build] (n : Nat) : Except Fault Nat :=
  match build with
  | .checked => if n < wordLimit then .ok n else .error .wordOverflow
  | .wrapping => .ok (n % wordLimit)

/-- The difference of two machine words. -/
def wordSub [build : Build] (m n : Nat) : Except Fault Nat :=
  match build with
  | .checked => if n ≤ m then .ok (m - n) else .error .wordOverflow
  | .wrapping => .ok ((m + (wordLimit - n)) % wordLimit)

theorem word_eq (n : Nat) : word n = if n < wordLimit then .ok n else .error .wordOverflow := rfl

theorem eq_of_word {n m : Nat} (came : word n = .ok m) : m = n := by
  rw [word_eq] at came
  split at came <;> cases came
  rfl

/-- A sum that is a machine word comes out as it is in every build. -/
theorem word_of_lt [build : Build] {n : Nat} (short : n < wordLimit) : word n = .ok n := by
  unfold word
  cases build with
  | checked => exact if_pos short
  | wrapping => exact congrArg Except.ok (Nat.mod_eq_of_lt short)

theorem word_of_past [build : Build] {n : Nat} (wraps : build = .wrapping) (past : wordLimit ≤ n)
    (low : n - wordLimit < wordLimit) : word n = .ok (n - wordLimit) := by
  subst wraps
  show Except.ok (n % wordLimit) = _
  rw [Nat.mod_eq_sub_mod past, Nat.mod_eq_of_lt low]

theorem word_overflows [build : Build] {n : Nat} (checked : build ≠ .wrapping)
    (past : wordLimit ≤ n) : word n = .error .wordOverflow := by
  cases build with
  | checked => exact if_neg (Nat.not_lt.mpr past)
  | wrapping => exact absurd rfl checked

theorem wordSub_of_le {m n : Nat} (ordered : n ≤ m) : wordSub m n = .ok (m - n) := if_pos ordered

/-- `len` bytes from `offset` on, in the arena `owner`. -/
structure Block where
  owner : UInt32
  offset : Nat
  len : Nat
  deriving DecidableEq, Repr

/-- One past the last byte. -/
def Block.stop [Build] (b : Block) : Except Fault Nat := word (b.offset + b.len)

/-- Whether a block has no bytes. -/
def Block.isEmpty (b : Block) : Bool := b.len == 0

/-- Why an allocation was refused. The caller is expected to go on. -/
inductive AllocError where
  /-- The request and its padding exceed what is left. -/
  | outOfMemory (requested available : Nat)
  /-- The elements' bytes do not fit a machine word. -/
  | sizeOverflow (count size : Nat)
  deriving DecidableEq, Repr

/-- The report of a refused allocation. -/
def AllocError.message : AllocError → String
  | outOfMemory requested available =>
    s!"out of memory: requested {requested} bytes, {available} available"
  | sizeOverflow count size => s!"allocation size overflow: {count} elements of {size} bytes"

end FrontEnd.Memory
