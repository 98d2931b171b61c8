import FrontEnd.Memory.Arena

/-!
# Regions

A region is a checkpoint of an arena. Closing it drops every block handed out since it was opened,
and makes the last block before it resizable again.
-/

namespace FrontEnd.Memory

/-- What closing a region goes back to. -/
structure Checkpoint where
  offset : Nat
  last? : Option Nat
  deriving DecidableEq, Repr

/-- A block of a region that is closed again, with the arena as it was inside. -/
structure ScopedBlock where
  checkpoint : Checkpoint
  inside : Arena
  block : Block
  deriving DecidableEq, Repr

namespace Arena

/-- Opens a region. No block handed out before it can be resized while it is open, nor after the
fault of a region too many to count. -/
def openRegion : ArenaM Checkpoint := do
  let a ← get
  if a.regions.toNat + 1 < UInt32.size then
    set { a with last? := none, regions := a.regions + 1 }
    return ⟨a.offset, a.last?⟩
  else
    set { a with last? := none }
    throw .wordOverflow

/-- Closes a region, which must be open, on an arena that has not been rewound below it. -/
def closeRegion (c : Checkpoint) : ArenaM Unit := do
  let a ← get
  if a.regions = 0 then throw (.improperRegionCounter a.id)
  else if a.offset < c.offset then throw (.belowCheckpoint a.id a.offset c.offset)
  else set { a with offset := c.offset, last? := c.last?, regions := a.regions - 1 }

/-- Runs a computation in a region of its own. A fault inside leaves the region open. -/
def inRegion {α : Type} (body : Checkpoint → ArenaM α) : ArenaM α := do
  let c ← openRegion
  let answer ← body c
  closeRegion c
  return answer

/-- Hands out a block in a region of its own. -/
def allocScoped (size align : Nat) : ArenaM (Except AllocError ScopedBlock) :=
  inRegion fun checkpoint => do
    let answer ← alloc size align
    let inside ← get
    return answer.map fun block => { checkpoint, inside, block }

end Arena

end FrontEnd.Memory
