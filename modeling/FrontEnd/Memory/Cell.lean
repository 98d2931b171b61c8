import FrontEnd.Memory.Arena
import FrontEnd.Memory.Scalar

/-!
# Cells

Scalars in an arena, one by one or in arrays. A handle names the scalar's type, so that callers give
no sizes or alignments.
-/

namespace FrontEnd.Memory

/-- One scalar in an arena. -/
structure Cell (t : Scalar) where
  block : Block
  deriving DecidableEq, Repr

/-- `count` scalars in an arena, one after the other. -/
structure CellArray (t : Scalar) where
  block : Block
  count : Nat
  deriving DecidableEq, Repr

/-- Whether an array has no elements. -/
def CellArray.isEmpty {t : Scalar} (cells : CellArray t) : Bool := cells.count == 0

namespace Arena

/-! ### One scalar -/

/-- The scalar in a cell. -/
def load {t : Scalar} (a : Arena) (cell : Cell t) : Except Fault t.Value := do
  t.read (← a.bytes cell.block)

/-- Puts a scalar into a cell. -/
def store {t : Scalar} (cell : Cell t) (v : t.Value) : ArenaM Unit :=
  modifyBytes cell.block (t.write v)

/-- Hands out a cell that holds zero. -/
def make (t : Scalar) : ArenaM (Except AllocError (Cell t)) := do
  match ← alloc t.size t.align with
  | .ok block =>
    store (t := t) ⟨block⟩ t.zero
    return .ok ⟨block⟩
  | .error refusal => return .error refusal

/-- Gives up a cell. -/
def destroy {t : Scalar} (cell : Cell t) : ArenaM Unit := free cell.block t.align

/-! ### Arrays -/

/-- The element `i` of an array. -/
def element {t : Scalar} (a : Arena) (cells : CellArray t) (i : Nat) : Except Fault t.Value :=
  if i < cells.count then do
    let all ← a.bytes cells.block
    t.read (← Buffer.slice all (i * t.size) (i * t.size + t.size))
  else .error (.indexOutOfBounds i cells.count)

/-- Puts a scalar into the element `i` of an array. -/
def setElement {t : Scalar} (cells : CellArray t) (i : Nat) (v : t.Value) : ArenaM Unit :=
  if i < cells.count then writeBytes cells.block (i * t.size) (t.encode v)
  else throw (.indexOutOfBounds i cells.count)

/-- The elements of an array. -/
def elements {t : Scalar} (a : Arena) (cells : CellArray t) : Except Fault (List t.Value) :=
  (List.range cells.count).mapM (a.element cells)

/-- Hands out an array of `count` zeros. -/
def makeArray (t : Scalar) (count : Nat) : ArenaM (Except AllocError (CellArray t)) := do
  if count * t.size < wordLimit then
    match ← alloc (count * t.size) t.align with
    | .ok block =>
      writeBytes block 0 (List.replicate count (t.encode t.zero)).flatten
      return .ok ⟨block, count⟩
    | .error refusal => return .error refusal
  else
    return .error (.sizeOverflow count t.size)

/-- Gives up an array. -/
def destroyArray {t : Scalar} (cells : CellArray t) : ArenaM Unit := free cells.block t.align

end Arena

end FrontEnd.Memory
