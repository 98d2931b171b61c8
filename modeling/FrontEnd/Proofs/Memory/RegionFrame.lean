import FrontEnd.Proofs.Memory.Session

/-!
# Regions leave no trace

`region_leaves_no_trace`: whatever is asked of an arena while a region is open on it, closing the
region brings back the offset, the last block and the count of regions, and below its checkpoint
only bytes that were written have changed.
-/

namespace FrontEnd.Memory

/-- The last block starts in the part of the buffer that is in use. -/
structure Arena.InBounds (a : Arena) : Prop where
  last_le : ∀ start, a.last? = some start → start ≤ a.offset
  offset_le : a.offset ≤ a.capacity

/-- A region just opened starts where the arena was in use up to. -/
theorem nested_of_openRegion {a : Arena} (inside : a.offset ≤ a.capacity)
    (countable : a.regions.toNat + 1 < UInt32.size) :
    Session.Nested a.offset (a.regions.toNat + 1)
      ⟨{ a with last? := none, regions := a.regions + 1 }, []⟩ :=
  ⟨inside, Arena.toNat_regions_succ countable, Nat.le_refl _, fun l none => by cases none⟩

/-- Requests made while a region is open, on whatever blocks and with whatever faults, as long as
the regions opened among them are closed again. -/
theorem region_leaves_no_trace {a : Arena} (inBounds : a.InBounds)
    (countable : a.regions.toNat + 1 < UInt32.size) :
    ∃ checkpoint opened, Arena.openRegion a = .ok checkpoint opened ∧
      ∀ requests : List (Request Block), (Session.run ⟨opened, []⟩ requests).guards = [] →
        ∃ closed,
          Arena.closeRegion checkpoint (Session.run ⟨opened, []⟩ requests).arena =
            .ok () closed ∧
          closed.offset = a.offset ∧ closed.last? = a.last? ∧ closed.regions = a.regions ∧
          closed.id = a.id ∧ closed.address = a.address ∧ closed.capacity = a.capacity ∧
          ∀ i < a.offset, ¬Session.Written ⟨opened, []⟩ i requests →
            closed.data[i]? = a.data[i]? := by
  rcases Arena.openRegion_cases a with ⟨uncountable, -⟩ | ⟨-, opens⟩
  · omega
  refine ⟨_, _, opens, ?_⟩
  intro requests balanced
  have opened := nested_of_openRegion inBounds.offset_le countable
  obtain ⟨nested, keeps⟩ := Session.run_nested opened (Or.inr (Nat.succ_pos _)) requests
  generalize Session.run _ requests = s at balanced nested keeps ⊢
  have counted : s.arena.regions.toNat = a.regions.toNat + 1 := by
    rw [nested.counted, balanced]
    rfl
  have above : a.offset ≤ s.arena.offset := nested.stacked.base_le.1
  have closes := Arena.closeRegion_run (c := ⟨a.offset, a.last?⟩) (by omega) above
  refine ⟨_, closes, rfl, rfl, ?_, keeps.id, keeps.address, keeps.capacity, ?_⟩
  · apply UInt32.toNat_inj.mp
    show (s.arena.regions - 1).toNat = a.regions.toNat
    rw [Arena.toNat_regions_pred (by omega), counted, Nat.add_sub_cancel]
  · exact keeps.below

/-- An arena with one block, of which each byte is 7. -/
def inUse : Arena :=
  { id := 1, address := 4096, data := List.replicate 64 7, offset := 16, last? := some 0 }

/-- What is no business of a region: to move the block of `inUse`, to resize it and to write to it,
with a block of another arena and an alignment that is none. -/
def intrusion : List (Request Block) :=
  [.alloc 8 8, .alloc 8 3, .openRegion, .realloc ⟨1, 0, 16⟩ 24 1, .resize ⟨1, 0, 16⟩ 4,
    .closeRegion, .write ⟨1, 0, 16⟩ 2 [9], .write ⟨2, 0, 16⟩ 3 [9], .resize ⟨1, 16, 8⟩ 2]

theorem intrusion_leaves_no_trace :
    ∃ checkpoint opened closed, Arena.openRegion inUse = .ok checkpoint opened ∧
      Arena.closeRegion checkpoint (Session.run ⟨opened, []⟩ intrusion).arena = .ok () closed ∧
      closed.offset = 16 ∧ closed.last? = some 0 ∧ closed.regions = 0 ∧
      ∀ i < 16, i ≠ 2 → closed.data[i]? = some 7 := by
  have inBounds : inUse.InBounds := ⟨by rintro start ⟨⟩; decide, by decide⟩
  obtain ⟨checkpoint, opened, opens, closes⟩ := region_leaves_no_trace inBounds (by decide)
  have known : Arena.openRegion inUse =
    .ok ⟨16, some 0⟩ { inUse with last? := none, regions := 1 } := rfl
  cases known.symm.trans opens
  have balanced : (Session.run ⟨{ inUse with last? := none, regions := 1 }, []⟩ intrusion).guards =
      [] := by
    decide +kernel
  -- the second write faults over a block of another arena
  have unwritten : ∀ i < 16, i ≠ 2 →
      ¬Session.Written ⟨{ inUse with last? := none, regions := 1 }, []⟩ i intrusion := by
    decide +kernel
  obtain ⟨closed, closing, offset, last, regions, -, -, -, kept⟩ := closes intrusion balanced
  refine ⟨_, _, closed, opens, closing, offset, last, regions, fun i low other => ?_⟩
  rw [kept i low (unwritten i low other)]
  exact List.getElem?_replicate_of_lt (by omega)

end FrontEnd.Memory
