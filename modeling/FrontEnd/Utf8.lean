/-!
# UTF-8

`encode` writes one scalar value and `decode` reads the sequence at the front of a buffer. Both are
strict: surrogates, values above `maxScalar` and overlong forms are refused. A refused read takes
one byte, so that `units` gets through any buffer and resumes at the next sequence.
-/

namespace FrontEnd.Utf8

/-- `U+FFFD`, which stands for whatever cannot be encoded or decoded. -/
def replacement : Nat := 0xFFFD

/-- The largest scalar value. -/
def maxScalar : Nat := 0x10FFFF

/-- Scalar values are the code points that are not surrogates. -/
def IsScalar (v : Nat) : Prop := v < 0xD800 ∨ 0xDFFF < v ∧ v ≤ maxScalar

instance : DecidablePred IsScalar := fun v =>
  inferInstanceAs (Decidable (v < 0xD800 ∨ 0xDFFF < v ∧ v ≤ maxScalar))

/-! ### Encoding -/

/-- Four bytes, the first `len` of which are a sequence. They are `valid` unless the sequence stands
in for a value that has none. -/
structure Encoded where
  bytes : List UInt8
  len : Nat
  valid : Bool
  deriving DecidableEq, Repr

/-- The sequence held, unless `len` exceeds the bytes there are. -/
def Encoded.sequence? (e : Encoded) : Option (List UInt8) :=
  if e.len ≤ e.bytes.length then some (e.bytes.take e.len) else none

/-- A byte that carries six bits of a scalar value. -/
def tailByte (v : Nat) : UInt8 := .ofNat (0x80 + v % 64)

/-- The sequence of a scalar value: a lead byte, then six bits a byte. -/
def sequence (v : Nat) : List UInt8 :=
  if v < 0x80 then [.ofNat v]
  else if v < 0x800 then [.ofNat (0xC0 + v / 64), tailByte v]
  else if v < 0x10000 then [.ofNat (0xE0 + v / 4096), tailByte (v / 64), tailByte v]
  else [.ofNat (0xF0 + v / 262144), tailByte (v / 4096), tailByte (v / 64), tailByte v]

/-- The encoding of a code point, `replacement` in place of one that is no scalar value. -/
def encode (v : Nat) : Encoded :=
  let held := sequence (if IsScalar v then v else replacement)
  ⟨held ++ List.replicate (4 - held.length) 0, held.length, decide (IsScalar v)⟩

/-! ### Decoding -/

/-- A code point read, the bytes it took, and whether they are its sequence. -/
structure Decoded where
  codepoint : Nat
  len : Nat
  valid : Bool
  deriving DecidableEq, Repr

/-- The code point as a character, `replacement` for one that is no scalar value. -/
def Decoded.char (d : Decoded) : Char :=
  Char.ofNat (if IsScalar d.codepoint then d.codepoint else replacement)

/-- One byte that starts no sequence. -/
def malformed : Decoded := ⟨replacement, 1, false⟩

/-- Continuation bytes carry six bits under the mark `10`. -/
def isContinuation (b : UInt8) : Bool := b.toNat / 64 == 2

/-- `v` extended by the six bits of each of the next `n` bytes, which must be continuations. -/
def extend? : Nat → Nat → List UInt8 → Option Nat
  | 0, v, _ => some v
  | _ + 1, _, [] => none
  | n + 1, v, b :: rest =>
    if isContinuation b then extend? n (v * 64 + b.toNat % 64) rest else none

/-- A sequence with `n` continuation bytes, whose lead carries `v` and whose value must not fit a
shorter one, that is be `least` or more. -/
def decodeTail (n v least : Nat) (rest : List UInt8) : Decoded :=
  match extend? n v rest with
  | some w => if least ≤ w ∧ IsScalar w then ⟨w, n + 1, true⟩ else malformed
  | none => malformed

/-- The sequence at the front of a buffer. -/
def decode : List UInt8 → Decoded
  | [] => malformed
  | lead :: rest =>
    let v := lead.toNat
    if v < 0x80 then ⟨v, 1, true⟩
    else if v < 0xC0 then malformed
    else if v < 0xE0 then decodeTail 1 (v % 32) 0x80 rest
    else if v < 0xF0 then decodeTail 2 (v % 16) 0x800 rest
    else if v < 0xF8 then decodeTail 3 (v % 8) 0x10000 rest
    else malformed

/-! ### Whole buffers -/

/-- The units of a buffer whose first `skip` bytes belong to a unit already read. -/
def unitsFrom : Nat → List UInt8 → List Decoded
  | _, [] => []
  | skip + 1, _ :: rest => unitsFrom skip rest
  | 0, lead :: rest =>
    let d := decode (lead :: rest)
    d :: unitsFrom (d.len - 1) rest

/-- The units of a buffer, front to back. -/
def units (bytes : List UInt8) : List Decoded := unitsFrom 0 bytes

/-- The bytes of the leading units that satisfy `p`, after `skip` bytes of a unit that does. -/
def spanFrom (p : Char → Bool) : Nat → List UInt8 → Nat
  | _, [] => 0
  | skip + 1, _ :: rest => spanFrom p skip rest + 1
  | 0, lead :: rest =>
    let d := decode (lead :: rest)
    if p d.char then spanFrom p (d.len - 1) rest + 1 else 0

/-- The length in bytes of the longest run of leading units whose characters satisfy `p`. -/
def span (p : Char → Bool) (bytes : List UInt8) : Nat := spanFrom p 0 bytes

/-- The bytes that units took. -/
def extent : List Decoded → Nat
  | [] => 0
  | d :: rest => d.len + extent rest

/-- Where the last unit of a buffer starts. -/
def lastStart (bytes : List UInt8) : Nat := extent (units bytes).dropLast

/-- The first character of a buffer. -/
def front? : List UInt8 → Option Char
  | [] => none
  | lead :: rest => some (decode (lead :: rest)).char

/-! ### Unit by unit

`unitsFrom` and `spanFrom` go byte by byte. The lemmas below let them go unit by unit, which is how
everything else is proved of them. -/

theorem decodeTail_len_pos (n v least : Nat) (rest : List UInt8) :
    0 < (decodeTail n v least rest).len := by
  unfold decodeTail
  split
  · split <;> simp [malformed]
  · simp [malformed]

theorem decode_len_pos (bytes : List UInt8) : 0 < (decode bytes).len := by
  unfold decode
  split
  · simp [malformed]
  · dsimp only
    repeat' split
    all_goals simp [malformed, decodeTail_len_pos]

theorem length_of_extend? {n v w : Nat} {rest : List UInt8} (h : extend? n v rest = some w) :
    n ≤ rest.length := by
  fun_induction extend? n v rest with
  | case1 => exact Nat.zero_le _
  | case2 => simp at h
  | case3 n v b rest hb ih => exact Nat.succ_le_succ (ih h)
  | case4 => simp at h

theorem decodeTail_len_le (n v least : Nat) (rest : List UInt8) :
    (decodeTail n v least rest).len ≤ rest.length + 1 := by
  unfold decodeTail
  split
  · rename_i w hw
    have := length_of_extend? hw
    split
    · simpa using this
    · simp [malformed]
  · simp [malformed]

/-- A unit lies inside its buffer. -/
theorem decode_len_le (lead : UInt8) (rest : List UInt8) :
    (decode (lead :: rest)).len ≤ rest.length + 1 := by
  unfold decode
  dsimp only
  repeat' split
  all_goals simp [malformed, decodeTail_len_le]

theorem unitsFrom_eq (skip : Nat) (bytes : List UInt8) :
    unitsFrom skip bytes = units (bytes.drop skip) := by
  induction bytes generalizing skip with
  | nil => simp [unitsFrom, units]
  | cons b rest ih =>
    cases skip with
    | zero => rfl
    | succ skip => rw [unitsFrom, ih, List.drop_succ_cons]

@[simp] theorem units_nil : units [] = [] := rfl

/-- A buffer starts with the unit that `decode` reads, and goes on after it. -/
theorem units_cons (lead : UInt8) (rest : List UInt8) :
    units (lead :: rest) =
      decode (lead :: rest) :: units ((lead :: rest).drop (decode (lead :: rest)).len) := by
  obtain ⟨n, hn⟩ := Nat.exists_eq_succ_of_ne_zero (Nat.ne_of_gt (decode_len_pos (lead :: rest)))
  conv => lhs; rw [units, unitsFrom]
  simp [hn, unitsFrom_eq]

theorem spanFrom_eq (p : Char → Bool) (skip : Nat) (bytes : List UInt8) :
    spanFrom p skip bytes = min skip bytes.length + span p (bytes.drop skip) := by
  induction bytes generalizing skip with
  | nil => simp [spanFrom, span]
  | cons b rest ih =>
    cases skip with
    | zero => simp [span]
    | succ skip => rw [spanFrom, ih, List.drop_succ_cons, List.length_cons]; omega

@[simp] theorem span_nil (p : Char → Bool) : span p [] = 0 := rfl

theorem span_eq_zero {p : Char → Bool} {lead : UInt8} {rest : List UInt8}
    (h : p (decode (lead :: rest)).char = false) : span p (lead :: rest) = 0 := by
  simp [span, spanFrom, h]

/-- A run that has a unit goes on after it. -/
theorem span_cons {p : Char → Bool} {lead : UInt8} {rest : List UInt8}
    (h : p (decode (lead :: rest)).char = true) :
    span p (lead :: rest) =
      (decode (lead :: rest)).len + span p ((lead :: rest).drop (decode (lead :: rest)).len) := by
  have inside := decode_len_le lead rest
  obtain ⟨n, hn⟩ := Nat.exists_eq_succ_of_ne_zero (Nat.ne_of_gt (decode_len_pos (lead :: rest)))
  conv => lhs; rw [span, spanFrom]
  simp only [h, if_true, hn, Nat.succ_sub_one, spanFrom_eq, List.drop_succ_cons]
  omega

/-- The characters of a buffer that is UTF-8 throughout. -/
def text? (bytes : List UInt8) : Option (List Char) :=
  let read := units bytes
  if read.all Decoded.valid then some (read.map Decoded.char) else none

end FrontEnd.Utf8
