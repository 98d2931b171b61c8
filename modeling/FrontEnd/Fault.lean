/-!
# Faults

A fault is a defect of the calling code: a block used with the wrong arena, an index past the end,
regions closed out of order. Running out of space is not one; see `FrontEnd.Memory.AllocError`.
-/

namespace FrontEnd

/-- What the calling code did wrong. -/
inductive Fault where
  /-- An alignment that is zero or not a power of two. -/
  | badAlignment (align : Nat)
  /-- A block of one arena handed to another. -/
  | foreignBlock (owner arena : UInt32)
  /-- A block that ends past its arena. -/
  | blockOutside (start stop : Nat) (arena : UInt32) (capacity : Nat)
  /-- Everything was to be released while regions are open. -/
  | danglingRegions (arena regions : UInt32)
  /-- An arena was to be moved while regions are open. -/
  | relocatedWhileOpen (arena regions : UInt32)
  /-- A region closed on an arena that has none open. -/
  | improperRegionCounter (arena : UInt32)
  /-- A region closed on an arena that was rewound below the region's checkpoint. -/
  | belowCheckpoint (arena : UInt32) (offset saved : Nat)
  /-- An element index past the end of a vector. -/
  | indexOutOfBounds (index len : Nat)
  /-- A cursor started past the end of its buffer. -/
  | pastEnd (offset size : Nat)
  /-- A range that does not lie inside its buffer. -/
  | outOfRange
  /-- A sum that does not fit a machine word, or a difference below zero. -/
  | wordOverflow
  deriving DecidableEq, Repr

namespace Fault

/-- The report of a fault. A bare range and a bare sum have none. -/
def message? : Fault → Option String
  | badAlignment align => some s!"alignment must be a power of two greater than 0, got {align}"
  | foreignBlock owner arena => some s!"block owned by arena {owner} used with arena {arena}"
  | blockOutside start stop arena capacity =>
    some s!"block {start}..{stop} lies outside arena {arena} (capacity {capacity})"
  | danglingRegions arena regions => some s!"arena {arena} has {regions} dangling region(s)"
  | relocatedWhileOpen arena regions =>
    some s!"cannot relocate arena {arena} with {regions} open region(s)"
  | improperRegionCounter arena => some s!"arena {arena} has an improper region counter"
  | belowCheckpoint arena offset saved =>
    some s!"arena {arena} offset {offset} is below region checkpoint {saved}"
  | indexOutOfBounds index len =>
    some s!"index {index} out of bounds for typed slice of length {len}"
  | pastEnd offset size => some s!"offset {offset} is past the end of a {size}-byte buffer"
  | outOfRange => none
  | wordOverflow => none

end Fault

/-- A checked value, in a computation that stops at a fault and keeps the state it had reached. -/
def orFault {σ α : Type} : Except Fault α → EStateM Fault σ α
  | .ok a => pure a
  | .error fault => throw fault

end FrontEnd
