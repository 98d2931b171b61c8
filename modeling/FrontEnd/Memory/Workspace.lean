import FrontEnd.Memory.Region

/-!
# Workspaces

Several arenas in numbered slots, with the regions open on them. Arenas can change places; a region
belongs to a slot, and closes on the arena that it finds there.
-/

namespace FrontEnd.Memory

/-- An open region of the arena in a slot. -/
structure Guard where
  slot : Nat
  checkpoint : Checkpoint
  deriving DecidableEq, Repr

/-- Arenas in slots, the open regions with the innermost first, and the next identity to give. -/
structure Workspace where
  slots : List Arena := []
  guards : List Guard := []
  nextId : UInt32 := 1
  deriving DecidableEq, Repr

/-- A change to a workspace that may fault. -/
abbrev WorkspaceM := EStateM Fault Workspace

namespace Workspace

/-- A workspace with one more slot, for a new arena over a buffer. -/
def addArena (w : Workspace) (address : Nat) (data : List UInt8) : Workspace :=
  { w with
    slots := w.slots ++ [{ id := w.nextId, address, data }]
    nextId := w.nextId + 1 }

/-- Runs a computation on the arena in a slot. -/
def onSlot {α : Type} (slot : Nat) (action : ArenaM α) : WorkspaceM α := fun w =>
  match w.slots[slot]? with
  | none => .error .outOfRange w
  | some a =>
    match action a with
    | .ok answer a => .ok answer { w with slots := w.slots.set slot a }
    | .error fault a => .error fault { w with slots := w.slots.set slot a }

/-- Opens a region on the arena in a slot. -/
def openRegion (slot : Nat) : WorkspaceM Checkpoint := do
  let checkpoint ← onSlot slot Arena.openRegion
  modify fun w => { w with guards := ⟨slot, checkpoint⟩ :: w.guards }
  return checkpoint

/-- Closes the region that is `depth` regions out from the innermost. It is gone even if the close
faults. The answer is `none` if there is no such region. -/
def closeRegion? (depth : Nat) : WorkspaceM (Option Guard) := do
  let w ← get
  match w.guards[depth]? with
  | none => return none
  | some guard =>
    set { w with guards := w.guards.eraseIdx depth }
    onSlot guard.slot (Arena.closeRegion guard.checkpoint)
    return some guard

/-- Moves the arena in the slot `source` to the slot `target`, over the arena there. A new identity
is used up by the emptied arena, also if that is the one overwritten. -/
def relocate (source target : Nat) : WorkspaceM Unit := do
  let w ← get
  if target < w.slots.length then
    let moved ← onSlot source (Arena.relocate w.nextId)
    modify fun w => { w with slots := w.slots.set target moved, nextId := w.nextId + 1 }
  else
    throw .outOfRange

/-- Exchanges the arenas in two slots. -/
def swap (i j : Nat) : WorkspaceM Unit := do
  let w ← get
  match w.slots[i]?, w.slots[j]? with
  | some a, some b => set { w with slots := (w.slots.set i b).set j a }
  | _, _ => throw .outOfRange

end Workspace

end FrontEnd.Memory
