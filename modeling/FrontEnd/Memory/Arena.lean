import FrontEnd.Buffer
import FrontEnd.Memory.Block

/-!
# Arenas

An arena hands out blocks of one buffer by moving a single offset through it. Blocks are not given
back one by one: the last can grow or shrink where it lies, and `Arena.freeAll` drops all of them.

Space that runs out is a value, an `AllocError`. A fault stops an operation, and the arena stays as
the operation had left it by then.

Whatever adds up machine words depends on the `Build`.
-/

namespace FrontEnd.Memory

/-- Every block starts at a multiple of this. -/
def minAlignment : Nat := 16

/-- Whether a number can be asked for as an alignment: it must be a power of two. -/
def isAlignment (align : Nat) : Bool := 1 <<< align.log2 == align

/-- The first multiple of `align` at or after an address. -/
def alignUp (address align : Nat) : Nat :=
  if address % align = 0 then address else address + (align - address % align)

/-- A buffer at an address, of which the bytes before `offset` are in use. -/
structure Arena where
  /-- Stamped into every block handed out. -/
  id : UInt32
  /-- Where the buffer lies in the machine's memory. -/
  address : Nat
  data : List UInt8
  offset : Nat := 0
  /-- Where the last block starts, if it may still be resized. -/
  last? : Option Nat := none
  /-- How many regions are open. -/
  regions : UInt32 := 0
  deriving DecidableEq, Repr

/-- A change to an arena that may fault. -/
abbrev ArenaM := EStateM Fault Arena

namespace Arena

/-- The bytes of the buffer. -/
def capacity (a : Arena) : Nat := a.data.length

/-- The bytes not yet in use. -/
def remaining (a : Arena) : Nat := a.capacity - a.offset

/-- The bytes to skip so that a block starts at a multiple of `align`. -/
def padding [Build] (a : Arena) (align : Nat) : Except Fault Nat := do
  let here ← word (a.address + a.offset)
  let aligned ← word (alignUp here align)
  wordSub aligned here

/-- The arena as it is shown. -/
def describe (a : Arena) : String :=
  let last := match a.last? with
    | some start => s!"Some({start})"
    | none => "None"
  "Arena \x7b id: " ++ s!"{a.id}, offset: {a.offset}, capacity: {a.capacity}, " ++
    s!"last_allocation: {last}, region_count: {a.regions}, .. \x7d"

/-! ### Bytes of blocks -/

/-- A block can be used with the arena that owns it, if it ends inside. -/
def checkOwned [Build] (a : Arena) (b : Block) : Except Fault Unit :=
  if b.owner ≠ a.id then .error (.foreignBlock b.owner a.id)
  else do
    let stop ← b.stop
    if a.capacity < stop then .error (.blockOutside b.offset stop a.id a.capacity) else .ok ()

/-- The bytes of a block. -/
def bytes [Build] (a : Arena) (b : Block) : Except Fault (List UInt8) := do
  a.checkOwned b
  let stop ← b.stop
  Buffer.slice a.data b.offset stop

/-- Replaces the bytes of a block. -/
def modifyBytes [Build] (b : Block) (f : List UInt8 → Except Fault (List UInt8)) : ArenaM Unit := do
  let a ← get
  let new ← orFault (a.bytes b >>= f)
  set { a with data := Buffer.splice a.data b.offset new }

/-- Writes bytes into a block, from its byte `start` on. -/
def writeBytes [Build] (b : Block) (start : Nat) (new : List UInt8) : ArenaM Unit :=
  modifyBytes b fun old => Buffer.overwrite old start new

/-- Sets every byte of a block. -/
def fill [Build] (b : Block) (byte : UInt8) : ArenaM Unit :=
  modifyBytes b fun old => .ok (List.replicate old.length byte)

/-! ### Blocks -/

/-- Hands out `size` zero bytes at the first multiple of `align`, or of `minAlignment` if that is
larger. The bytes that this takes are added up with a check in every build. -/
def alloc [Build] (size align : Nat) : ArenaM (Except AllocError Block) := do
  let a ← get
  if isAlignment align then
    let padding ← orFault (a.padding (max align minAlignment))
    if padding + size < wordLimit ∧ padding + size ≤ a.remaining then
      let start := a.offset + padding
      set { a with
        data := Buffer.splice a.data start (List.replicate size 0)
        offset := start + size
        last? := some start }
      return .ok ⟨a.id, start, size⟩
    else
      return .error (.outOfMemory size a.remaining)
  else
    throw (.badAlignment align)

/-- Moves the end of the last block, if there is room. The answer is the block with its new length,
or `none` for a block that is not the last. -/
def resize? [Build] (b : Block) (size : Nat) : ArenaM (Option Block) := do
  let a ← get
  orFault (a.checkOwned b)
  if a.last? = some b.offset ∧ size ≤ a.capacity - b.offset then
    set { a with offset := b.offset + size }
    return some { b with len := size }
  else
    return none

/-- Zeroes a range of the buffer. -/
def clear (start stop : Nat) : ArenaM Unit := do
  let a ← get
  let old ← orFault (Buffer.slice a.data start stop)
  set { a with data := Buffer.splice a.data start (List.replicate old.length 0) }

/-- Copies a range of the buffer to `target`. -/
def copyWithin (start stop target : Nat) : ArenaM Unit := do
  let a ← get
  let new ← orFault (Buffer.slice a.data start stop >>= Buffer.overwrite a.data target)
  set { a with data := new }

/-- Gives a block another size, where it lies if that is possible and else in a new block. The
common bytes are kept, and those added are zero. -/
def realloc [Build] (b : Block) (size align : Nat) : ArenaM (Except AllocError Block) := do
  match ← resize? b size with
  | some resized =>
    -- a block that grows where it lies ends inside before and after, so both sums are words
    if b.len < size then clear (b.offset + b.len) (b.offset + size)
    return .ok resized
  | none =>
    match ← alloc size align with
    | .ok fresh =>
      let stop ← orFault (word (b.offset + min b.len size))
      copyWithin b.offset stop fresh.offset
      return .ok fresh
    | .error refusal => return .error refusal

/-- Gives up a block, whose bytes stay in use until a region closes or `freeAll`. -/
def free (_ : Block) (_align : Nat) : ArenaM Unit := pure ()

/-- Drops every block. The bytes stay as they are until they are handed out again. -/
def freeAll : ArenaM Unit := do
  let a ← get
  if a.regions = 0 then set { a with offset := 0, last? := none }
  else throw (.danglingRegions a.id a.regions)

/-! ### Moving -/

/-- An arena without a buffer. Its address is that of no byte. -/
def empty (id : UInt32) : Arena := { id, address := 1, data := [] }

/-- Takes the buffer and the identity out of an arena and leaves it empty, under the identity
`spare`. The answer holds what was taken out. -/
def relocate (spare : UInt32) : ArenaM Arena := do
  let a ← get
  if a.regions = 0 then
    set (empty spare)
    return a
  else
    throw (.relocatedWhileOpen a.id a.regions)

end Arena

end FrontEnd.Memory
