import FrontEnd.Buffer

/-!
# Scalars

Values of fixed width that can lie in an arena. A scalar is written as a word of its width, low byte
first. Every word reads as some value, also one that no value is written as.
-/

namespace FrontEnd.Memory

/-- The widths of integers. -/
inductive Width where
  | w8 | w16 | w32 | w64 | w128
  deriving DecidableEq, Repr

/-- A width in bytes. -/
def Width.bytes : Width → Nat
  | w8 => 1
  | w16 => 2
  | w32 => 4
  | w64 => 8
  | w128 => 16

/-- The types of scalars. -/
inductive Scalar where
  | unsigned (width : Width)
  | signed (width : Width)
  | float32
  | float64
  | bool
  | char
  deriving DecidableEq, Repr

/-- The bytes that represent a number, low byte first. -/
def littleEndian : Nat → Nat → List UInt8
  | 0, _ => []
  | count + 1, v => .ofNat (v % 256) :: littleEndian count (v / 256)

/-- The number that bytes represent, low byte first. -/
def ofLittleEndian : List UInt8 → Nat
  | [] => 0
  | b :: rest => b.toNat + 256 * ofLittleEndian rest

namespace Scalar

/-- The bytes of a value. -/
def size : Scalar → Nat
  | unsigned w => w.bytes
  | signed w => w.bytes
  | float32 => 4
  | float64 => 8
  | bool => 1
  | char => 4

/-- What the address of a value is a multiple of. -/
def align (t : Scalar) : Nat := t.size

/-- The values of a type. Integers and floats are their bits. -/
abbrev Value : Scalar → Type
  | unsigned w => BitVec (8 * w.bytes)
  | signed w => BitVec (8 * w.bytes)
  | float32 => BitVec 32
  | float64 => BitVec 64
  | bool => Bool
  | char => Char

/-- The word of a value. -/
def toWord : (t : Scalar) → t.Value → Nat
  | unsigned _, v => BitVec.toNat v
  | signed _, v => BitVec.toNat v
  | float32, v => BitVec.toNat v
  | float64, v => BitVec.toNat v
  | bool, v => Bool.toNat v
  | char, v => Char.toNat v

/-- The value of a word. Any word but zero is `true`, and one that is no scalar value of Unicode is
the null character. -/
def ofWord : (t : Scalar) → Nat → t.Value
  | unsigned _, n => BitVec.ofNat _ n
  | signed _, n => BitVec.ofNat _ n
  | float32, n => BitVec.ofNat _ n
  | float64, n => BitVec.ofNat _ n
  | bool, n => n != 0
  | char, n => Char.ofNat n

/-- What memory holds before a value is stored. -/
def zero (t : Scalar) : t.Value := t.ofWord 0

/-- The bytes of a value. -/
def encode (t : Scalar) (v : t.Value) : List UInt8 := littleEndian t.size (t.toWord v)

/-- A buffer with a value over its first bytes. -/
def write (t : Scalar) (v : t.Value) (out : List UInt8) : Except Fault (List UInt8) :=
  Buffer.overwrite out 0 (t.encode v)

/-- The value in the first bytes of a buffer. -/
def read (t : Scalar) (bytes : List UInt8) : Except Fault t.Value :=
  (Buffer.slice bytes 0 t.size).map fun raw => t.ofWord (ofLittleEndian raw)

end Scalar

end FrontEnd.Memory
