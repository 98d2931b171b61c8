import Mathlib.Order.Bounds.Defs
import FrontEnd.Proofs.Memory.Operations
import FrontEnd.Proofs.Memory.Rounding

/-!
# Where a block is placed

`alloc` takes the first place there is. A place is said to fit in plain arithmetic, without words
and masks (`Arena.Fits`), and `alloc_takes_first_fit` says that the machine's arithmetic finds the
first one whenever there is one.
-/

namespace FrontEnd.Memory

namespace Arena

/-- `size` bytes at `start` are free, lie inside, and begin at a multiple of `unit`. -/
structure Fits (a : Arena) (unit size start : Nat) : Prop where
  free : a.offset ≤ start
  aligned : unit ∣ a.address + start
  inside : start + size ≤ a.capacity

/-- The first place that is free and aligned, whether there is room or not. -/
def frontier (a : Arena) (unit : Nat) : Nat :=
  a.offset + (alignUp (a.address + a.offset) unit - (a.address + a.offset))

variable {a : Arena} {unit size start align : Nat}

theorem address_add_frontier (a : Arena) (unit : Nat) :
    a.address + a.frontier unit = alignUp (a.address + a.offset) unit := by
  have after := le_alignUp (a.address + a.offset) unit
  unfold frontier
  omega

theorem offset_le_frontier (a : Arena) (unit : Nat) : a.offset ≤ a.frontier unit :=
  Nat.le_add_right a.offset _

theorem Fits.frontier_le (fits : a.Fits unit size start) (positive : 0 < unit) :
    a.frontier unit ≤ start := by
  have here : a.address + a.offset ≤ a.address + start := Nat.add_le_add_left fits.free a.address
  have least := alignUp_le here fits.aligned positive
  rw [← address_add_frontier] at least
  exact Nat.le_of_add_le_add_left least

theorem fits_frontier_iff (positive : 0 < unit) :
    a.Fits unit size (a.frontier unit) ↔ a.frontier unit + size ≤ a.capacity := by
  constructor
  · exact Fits.inside
  · intro inside
    refine ⟨offset_le_frontier a unit, ?_, inside⟩
    rw [address_add_frontier]
    exact dvd_alignUp _ positive

theorem exists_fits_iff (positive : 0 < unit) :
    (∃ start, a.Fits unit size start) ↔ a.frontier unit + size ≤ a.capacity := by
  rw [← fits_frontier_iff positive]
  constructor
  · rintro ⟨start, fits⟩
    have first := fits.frontier_le positive
    exact (fits_frontier_iff positive).mpr
      (Nat.le_trans (Nat.add_le_add_right first size) fits.inside)
  · intro fits
    exact ⟨_, fits⟩

theorem eq_frontier_of_isLeast (positive : 0 < unit)
    (first : IsLeast {start | a.Fits unit size start} start) : start = a.frontier unit := by
  obtain ⟨fits, least⟩ := first
  have room := (exists_fits_iff positive).mp ⟨start, fits⟩
  exact Nat.le_antisymm (least ((fits_frontier_iff positive).mpr room)) (fits.frontier_le positive)

theorem handOut_zeros (inside : start + size ≤ a.capacity) (i : Nat) :
    (a.handOut start (List.replicate size 0)).data[i]? =
      if start ≤ i ∧ i < start + size then some 0 else a.data[i]? := by
  have fits : start + (List.replicate size (0 : UInt8)).length ≤ a.data.length := by
    rw [List.length_replicate]
    exact inside
  unfold handOut
  dsimp only
  rw [Buffer.getElem?_splice fits, List.length_replicate]
  by_cases handed : start ≤ i ∧ i < start + size
  · rw [if_pos handed, if_pos handed, List.getElem?_replicate, if_pos (by omega)]
  · rw [if_neg handed, if_neg handed]

/-- Over addresses that leave enough to spare nothing but room decides. -/
theorem alloc_at_frontier (size : Nat) (power : align.isPowerOfTwo)
    (addressable : alignUp (a.address + a.offset) (max align minAlignment) < wordLimit)
    (word : a.capacity < wordLimit) (inside : a.offset ≤ a.capacity) :
    let start := a.frontier (max align minAlignment)
    (start + size ≤ a.capacity ∧ alloc size align a =
      .ok (.ok ⟨a.id, start, size⟩) (a.handOut start (List.replicate size 0))) ∨
    (¬start + size ≤ a.capacity ∧
      alloc size align a = .ok (.error (.outOfMemory size a.remaining)) a) := by
  intro start
  have allowed := isAlignment_iff.mpr power
  have skipped := padding_eq_ok_iff.mpr ⟨addressable, rfl⟩
  have place : start = a.offset + _ := rfl
  rcases alloc_cases a size align with ⟨odd, -⟩ | ⟨fault, -, overflows, -⟩ |
    ⟨padding, -, found, full, refused⟩ | ⟨padding, -, found, -, room, handed⟩
  · rw [allowed] at odd
    cases odd
  · rw [skipped] at overflows
    cases overflows
  · right
    cases skipped.symm.trans found
    refine ⟨?_, refused⟩
    unfold remaining at full
    omega
  · left
    cases skipped.symm.trans found
    refine ⟨?_, handed⟩
    unfold remaining at room
    omega

end Arena

open Arena (alloc)

/-- In a buffer below 2^48 a block is placed at the first multiple of its alignment at which there is
room, and nothing but its bytes and the two marks changes; if there is none, nothing changes at all.
The address is found with a mask, over sums that are words. -/
theorem alloc_takes_first_fit {a : Arena} {size align : Nat}
    (placed : a.address + a.capacity ≤ 0x1000000000000) (inside : a.offset ≤ a.capacity)
    (power : align.isPowerOfTwo) (bounded : align ≤ 0x8000000000000000) :
    let unit := max align minAlignment
    let here := a.address + a.offset
    let low := here &&& (unit - 1)
    ((∃ b a', alloc size align a = .ok (.ok b) a') ↔ ∃ start, a.Fits unit size start) ∧
    (∀ start, IsLeast {start | a.Fits unit size start} start →
      ∃ a', alloc size align a = .ok (.ok ⟨a.id, start, size⟩) a' ∧
        a'.offset = start + size ∧ a'.last? = some start ∧
        a'.id = a.id ∧ a'.address = a.address ∧ a'.regions = a.regions ∧
        a'.capacity = a.capacity ∧
        ∀ i : Nat, a'.data[i]? = if start ≤ i ∧ i < start + size then some 0 else a.data[i]?) ∧
    ((¬∃ start, a.Fits unit size start) →
      alloc size align a = .ok (.error (.outOfMemory size a.remaining)) a) ∧
    here < wordLimit ∧ here + (unit - low) < wordLimit ∧
    a.padding unit = .ok (if low = 0 then 0 else unit - low) ∧
    ∀ start, a.Fits unit size start → start + size < wordLimit := by
  intro unit here low
  have positive : 0 < unit := max_minAlignment_pos align
  have spare : here + unit < wordLimit := by
    have low_enough : unit ≤ 0x8000000000000000 := Nat.max_le.mpr ⟨bounded, by decide⟩
    unfold wordLimit
    omega
  have capacity : a.capacity < wordLimit := by
    unfold wordLimit
    omega
  have addressable : alignUp here unit < wordLimit := Nat.lt_trans (alignUp_lt here positive) spare
  have outcome := Arena.alloc_at_frontier size power addressable capacity inside
  have exists_iff : (∃ start, a.Fits unit size start) ↔ _ := Arena.exists_fits_iff positive
  refine ⟨?_, ?_, ?_, ?_, ?_, ?_, ?_⟩
  · rw [exists_iff]
    rcases outcome with ⟨room, handed⟩ | ⟨full, refused⟩
    · exact ⟨fun _ => room, fun _ => ⟨_, _, handed⟩⟩
    · constructor
      · rintro ⟨b, a', handed⟩
        cases refused.symm.trans handed
      · exact fun room => absurd room full
  · intro start first
    have room := first.1.inside
    cases Arena.eq_frontier_of_isLeast positive first
    rcases outcome with ⟨-, handed⟩ | ⟨full, -⟩
    · refine ⟨_, handed, ?_, rfl, rfl, rfl, rfl, ?_, Arena.handOut_zeros room⟩
      · rw [Arena.handOut, List.length_replicate]
      · apply Buffer.length_splice
        rw [List.length_replicate]
        exact room
    · exact absurd room full
  · intro none_fits
    rcases outcome with ⟨room, -⟩ | ⟨-, refused⟩
    · exact absurd (exists_iff.mpr room) none_fits
    · exact refused
  · omega
  · omega
  · refine Arena.padding_eq_ok_iff.mpr ⟨addressable, ?_⟩
    rw [alignUp_eq_mask here (isPowerOfTwo_max power)]
    split
    · exact (Nat.sub_self here).symm
    · exact (Nat.add_sub_cancel_left here _).symm
  · intro start fits
    exact Nat.lt_of_le_of_lt fits.inside capacity

/-- In a buffer at an odd address eight bytes at a multiple of 64 go behind padding, and at a multiple
of 2^63 nowhere. -/
theorem alloc_takes_first_fit_odd_address :
    let a : Arena := { id := 1, address := 4097, data := List.replicate 80 7, offset := 20 }
    (∃ a', alloc 8 64 a = .ok (.ok ⟨1, 63, 8⟩) a' ∧ a'.offset = 71 ∧ a'.last? = some 63 ∧
      ∀ i : Nat, a'.data[i]? = if 63 ≤ i ∧ i < 63 + 8 then some 0 else a.data[i]?) ∧
    alloc 8 0x8000000000000000 a = .ok (.error (.outOfMemory 8 60)) a := by
  intro a
  have placed : a.address + a.capacity ≤ 0x1000000000000 := by decide
  have inside : a.offset ≤ a.capacity := by decide
  constructor
  · have first : IsLeast {start | a.Fits 64 8 start} 63 := by
      have frontier : a.frontier 64 = 63 := by decide
      refine ⟨⟨by decide, by decide, by decide⟩, fun start fits => ?_⟩
      rw [← frontier]
      exact fits.frontier_le (by decide)
    have power : Nat.isPowerOfTwo 64 := ⟨6, rfl⟩
    obtain ⟨-, handed, -⟩ := alloc_takes_first_fit placed inside power (by decide)
    obtain ⟨a', handed, offset, last, -, -, -, -, data⟩ := handed 63 first
    exact ⟨a', handed, offset, last, data⟩
  · have power : Nat.isPowerOfTwo 0x8000000000000000 := ⟨63, rfl⟩
    obtain ⟨-, -, refused, -⟩ := alloc_takes_first_fit placed inside power (by decide)
    apply refused
    rintro ⟨start, -, ⟨k, multiple⟩, room⟩
    have room : start + 8 ≤ 80 := room
    have multiple : 4097 + start = 0x8000000000000000 * k := multiple
    omega

end FrontEnd.Memory
