import FrontEnd.Fault

/-!
# Buffers

Ranges of a list of bytes. A range is checked, as a range of memory would be.
-/

namespace FrontEnd.Buffer

/-- The bytes from `start` up to `stop`, which must be a range inside the buffer. -/
def slice (bytes : List UInt8) (start stop : Nat) : Except Fault (List UInt8) :=
  if start ≤ stop ∧ stop ≤ bytes.length then .ok ((bytes.drop start).take (stop - start))
  else .error .outOfRange

/-- The bytes from `start` on, which must not be past the end. -/
def sliceFrom (bytes : List UInt8) (start : Nat) : Except Fault (List UInt8) :=
  if start ≤ bytes.length then .ok (bytes.drop start) else .error .outOfRange

/-- A buffer with `new` in place of its bytes from `start` on. -/
def splice (bytes : List UInt8) (start : Nat) (new : List UInt8) : List UInt8 :=
  bytes.take start ++ new ++ bytes.drop (start + new.length)

theorem length_splice {bytes new : List UInt8} {start : Nat}
    (h : start + new.length ≤ bytes.length) : (splice bytes start new).length = bytes.length := by
  simp only [splice, List.length_append, List.length_take, List.length_drop]
  omega

/-- `splice` where `new` must fit the buffer. -/
def overwrite (bytes : List UInt8) (start : Nat) (new : List UInt8) : Except Fault (List UInt8) :=
  if start + new.length ≤ bytes.length then .ok (splice bytes start new) else .error .outOfRange

end FrontEnd.Buffer
