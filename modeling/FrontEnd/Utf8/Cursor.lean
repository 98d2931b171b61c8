import FrontEnd.Fault
import FrontEnd.Utf8

/-!
# Cursors

A cursor walks a buffer unit by unit in either direction. `prev?` keeps no history: it looks back
over continuation bytes for a sequence that ends at the cursor.
-/

namespace FrontEnd.Utf8

/-- A position in a buffer, with the position that the walk began at. -/
structure Cursor where
  data : List UInt8
  current : Nat
  origin : Nat
  deriving DecidableEq, Repr

namespace Cursor

/-- A cursor at the front of a buffer. -/
def new (data : List UInt8) : Cursor := ⟨data, 0, 0⟩

/-- A cursor at an offset, which must not be past the end. -/
def startAt (data : List UInt8) (offset : Nat) : Except Fault Cursor :=
  if offset ≤ data.length then .ok ⟨data, offset, offset⟩
  else .error (.pastEnd offset data.length)

/-- The bytes ahead. -/
def rest (c : Cursor) : List UInt8 := c.data.drop c.current

/-- The unit ahead and the cursor after it; `none` at the end. -/
def next? (c : Cursor) : Option (Decoded × Cursor) :=
  if c.current < c.data.length then
    let d := decode c.rest
    some (d, { c with current := c.current + d.len })
  else none

/-- The lowest start that a sequence ending at the cursor may have. A walk that is past its origin
does not look back across it. -/
def floor (c : Cursor) : Nat := max (c.current - 4) (if c.origin < c.current then c.origin else 0)

/-- The start found by stepping back from `i` over at most `n` continuation bytes. -/
def leadBefore (data : List UInt8) : Nat → Nat → Nat
  | 0, i => i
  | n + 1, i =>
    match data[i]? with
    | some b => if isContinuation b then leadBefore data n (i - 1) else i
    | none => i

/-- The unit behind and the cursor before it; `none` at the front. -/
def prev? (c : Cursor) : Option (Decoded × Cursor) :=
  if c.current = 0 then none
  else
    let last := c.current - 1
    let start := leadBefore c.data (last - c.floor) last
    let d := decode ((c.data.drop start).take (c.current - start))
    if d.valid ∧ start + d.len = c.current then some (d, { c with current := start })
    else some (malformed, { c with current := last })

/-- The units ahead, front to back, and the cursor after them. -/
def drain (c : Cursor) : List Decoded × Cursor :=
  (units c.rest, { c with current := max c.current c.data.length })

end Cursor

end FrontEnd.Utf8
