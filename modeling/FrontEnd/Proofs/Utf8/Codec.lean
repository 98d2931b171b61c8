import FrontEnd.Utf8

/-!
# Reading accepts what writing produces

A sequence is a lead byte and the continuation bytes of `tail`, and `extend?` undoes `tail`. From
that `decode_of_sequence` and `decode_cases` follow: a buffer that starts with the sequence of a
scalar value reads as that value, and any other as `malformed`.
-/

namespace FrontEnd.Utf8

/-- A value without the bits of its last `n` continuation bytes. -/
def leading : Nat → Nat → Nat
  | 0, v => v
  | n + 1, v => leading n v / 64

/-- The last `n` continuation bytes of a value. -/
def tail : Nat → Nat → List UInt8
  | 0, _ => []
  | n + 1, v => tailByte (leading n v) :: tail n v

variable {n v w least : Nat} {b : UInt8} {bytes rest : List UInt8}

/-! ### Continuation bytes -/

theorem tailByte_eq_iff : tailByte v = b ↔ isContinuation b = true ∧ b.toNat % 64 = v % 64 := by
  have value : (tailByte v).toNat = 0x80 + v % 64 := by
    simp only [tailByte, UInt8.toNat_ofNat']
    omega
  rw [← UInt8.toNat_inj, value]
  simp only [isContinuation, beq_iff_eq]
  omega

@[simp] theorem length_tail (n v : Nat) : (tail n v).length = n := by
  induction n with
  | zero => rfl
  | succ n ih => simp [tail, ih]

theorem isContinuation_of_mem_tail (h : b ∈ tail n v) : isContinuation b = true := by
  induction n with
  | zero => simp [tail] at h
  | succ n ih =>
    obtain rfl | later := List.mem_cons.mp h
    · exact (tailByte_eq_iff.mp rfl).1
    · exact ih later

/-- Continuation bytes give back the bits that they were made of. -/
theorem extend?_eq_some_iff :
    extend? n v rest = some w ↔ leading n w = v ∧ tail n w <+: rest := by
  induction n generalizing v rest with
  | zero => simp [extend?, leading, tail, eq_comm]
  | succ n ih =>
    cases rest with
    | nil => simp [extend?, tail]
    | cons b rest =>
      simp only [extend?, tail, leading, List.cons_prefix_cons, tailByte_eq_iff]
      by_cases more : isContinuation b = true
      · rw [if_pos more, ih]
        constructor
        · rintro ⟨value, shown⟩
          exact ⟨by omega, ⟨more, by omega⟩, shown⟩
        · rintro ⟨value, ⟨-, low⟩, shown⟩
          exact ⟨by omega, shown⟩
      · simp [more]

theorem decodeTail_of_tail (large : least ≤ w) (scalar : IsScalar w)
    (shown : tail n w <+: rest) : decodeTail n (leading n w) least rest = ⟨w, n + 1, true⟩ := by
  have read : extend? n (leading n w) rest = some w := extend?_eq_some_iff.mpr ⟨rfl, shown⟩
  simp [decodeTail, read, large, scalar]

theorem decodeTail_cases (n v least : Nat) (rest : List UInt8) :
    decodeTail n v least rest = malformed ∨
    ∃ w, least ≤ w ∧ IsScalar w ∧ leading n w = v ∧ tail n w <+: rest ∧
      decodeTail n v least rest = ⟨w, n + 1, true⟩ := by
  cases read : extend? n v rest with
  | none =>
    left
    simp [decodeTail, read]
  | some w =>
    obtain ⟨rfl, shown⟩ := extend?_eq_some_iff.mp read
    by_cases good : least ≤ w ∧ IsScalar w
    · right
      exact ⟨w, good.1, good.2, rfl, shown, decodeTail_of_tail good.1 good.2 shown⟩
    · left
      simp [decodeTail, read, good]

/-! ### Sequences -/

/-- The sequences of more than one byte: how many continuation bytes, what marks the lead byte, how
many values that has room for, and the least value that is not written shorter. -/
inductive Form : Nat → Nat → Nat → Nat → Prop where
  | two : Form 1 0xC0 0x20 0x80
  | three : Form 2 0xE0 0x10 0x800
  | four : Form 3 0xF0 0x08 0x10000

variable {mark room x : Nat}

theorem Form.sequence_eq (form : Form n mark room least) (large : least ≤ v)
    (fits : leading n v < room) : sequence v = .ofNat (mark + leading n v) :: tail n v := by
  unfold sequence
  cases form <;> simp only [leading, tail] at fits ⊢
  case two => rw [if_neg (by omega), if_pos (by omega)]
  case three =>
    rw [if_neg (by omega), if_neg (by omega), if_pos (by omega), Nat.div_div_eq_div_mul]
  case four =>
    rw [if_neg (by omega), if_neg (by omega), if_neg (by omega)]
    simp only [Nat.div_div_eq_div_mul]

theorem Form.decode_eq (form : Form n mark room least) (fits : x < room) :
    decode (.ofNat (mark + x) :: rest) = decodeTail n x least rest := by
  have lead : (UInt8.ofNat (mark + x)).toNat = mark + x := by
    rw [UInt8.toNat_ofNat']
    cases form <;> omega
  simp only [decode, lead]
  cases form
  case two =>
    rw [if_neg (by omega), if_neg (by omega), if_pos (by omega)]
    congr 1
    omega
  case three =>
    rw [if_neg (by omega), if_neg (by omega), if_neg (by omega), if_pos (by omega)]
    congr 1
    omega
  case four =>
    rw [if_neg (by omega), if_neg (by omega), if_neg (by omega), if_neg (by omega),
      if_pos (by omega)]
    congr 1
    omega

theorem Form.lead_ne (form : Form n mark room least) (fits : x < room) :
    isContinuation (.ofNat (mark + x)) = false := by
  simp only [isContinuation, UInt8.toNat_ofNat', beq_eq_false_iff_ne]
  cases form <;> omega

theorem Form.of_scalar (scalar : IsScalar v) (long : 0x80 ≤ v) :
    ∃ n mark room least, Form n mark room least ∧ least ≤ v ∧ leading n v < room := by
  have small : v < 0x110000 := by
    unfold IsScalar maxScalar at scalar
    omega
  rcases Nat.lt_or_ge v 0x800 with low | high
  · exact ⟨_, _, _, _, .two, long, by simp only [leading]; omega⟩
  rcases Nat.lt_or_ge v 0x10000 with low | high
  · exact ⟨_, _, _, _, .three, by omega, by simp only [leading]; omega⟩
  · exact ⟨_, _, _, _, .four, by omega, by simp only [leading]; omega⟩

theorem sequence_ascii (low : v < 0x80) : sequence v = [.ofNat v] := if_pos low

theorem sequence_eq_cons (scalar : IsScalar v) :
    ∃ lead n, n ≤ 3 ∧ sequence v = lead :: tail n v ∧ isContinuation lead = false := by
  rcases Nat.lt_or_ge v 0x80 with low | long
  · refine ⟨.ofNat v, 0, Nat.zero_le 3, sequence_ascii low, ?_⟩
    simp only [isContinuation, UInt8.toNat_ofNat', beq_eq_false_iff_ne]
    omega
  · obtain ⟨n, mark, room, least, form, large, fits⟩ := Form.of_scalar scalar long
    refine ⟨_, n, ?_, form.sequence_eq large fits, form.lead_ne fits⟩
    cases form <;> decide

/-- A buffer reads as the value whose sequence it starts with. -/
theorem decode_of_sequence (scalar : IsScalar v) (shown : sequence v <+: bytes) :
    decode bytes = ⟨v, (sequence v).length, true⟩ := by
  obtain ⟨more, rfl⟩ := shown
  rcases Nat.lt_or_ge v 0x80 with low | long
  · have lead : (UInt8.ofNat v).toNat = v := by
      rw [UInt8.toNat_ofNat']
      omega
    simp [sequence_ascii low, decode, lead, low]
  · obtain ⟨n, mark, room, least, form, large, fits⟩ := Form.of_scalar scalar long
    have shown : tail n v <+: tail n v ++ more := List.prefix_append _ _
    rw [form.sequence_eq large fits, List.cons_append, form.decode_eq fits,
      decodeTail_of_tail large scalar shown, List.length_cons, length_tail]

theorem decode_cons_cases (lead : UInt8) (rest : List UInt8) :
    lead.toNat < 0x80 ∨ decode (lead :: rest) = malformed ∨
    ∃ n mark room least x, Form n mark room least ∧ x < room ∧ lead = .ofNat (mark + x) := by
  have back (mark x : Nat) (value : lead.toNat = mark + x) : lead = .ofNat (mark + x) := by
    rw [← value, UInt8.ofNat_toNat]
  rcases Nat.lt_or_ge lead.toNat 0x80 with ascii | high
  · exact Or.inl ascii
  right
  rcases Nat.lt_or_ge lead.toNat 0xC0 with stray | high
  · left
    simp only [decode]
    rw [if_neg (by omega), if_pos stray]
  rcases Nat.lt_or_ge lead.toNat 0xE0 with two | high
  · exact Or.inr ⟨_, _, _, _, lead.toNat - 0xC0, .two, by omega, back _ _ (by omega)⟩
  rcases Nat.lt_or_ge lead.toNat 0xF0 with three | high
  · exact Or.inr ⟨_, _, _, _, lead.toNat - 0xE0, .three, by omega, back _ _ (by omega)⟩
  rcases Nat.lt_or_ge lead.toNat 0xF8 with four | high
  · exact Or.inr ⟨_, _, _, _, lead.toNat - 0xF0, .four, by omega, back _ _ (by omega)⟩
  · left
    simp only [decode]
    rw [if_neg (by omega), if_neg (by omega), if_neg (by omega), if_neg (by omega),
      if_neg (by omega)]

/-- Whatever reads as a value starts with its sequence. -/
theorem decode_cases (bytes : List UInt8) :
    decode bytes = malformed ∨
    ∃ v, IsScalar v ∧ sequence v <+: bytes ∧ decode bytes = ⟨v, (sequence v).length, true⟩ := by
  have read (v : Nat) (scalar : IsScalar v) (shown : sequence v <+: bytes) :
      decode bytes = malformed ∨
      ∃ v, IsScalar v ∧ sequence v <+: bytes ∧ decode bytes = ⟨v, (sequence v).length, true⟩ :=
    Or.inr ⟨v, scalar, shown, decode_of_sequence scalar shown⟩
  cases bytes with
  | nil => exact Or.inl rfl
  | cons lead rest =>
    obtain ascii | bad | ⟨n, mark, room, least, x, form, fits, rfl⟩ := decode_cons_cases lead rest
    · refine read lead.toNat (Or.inl (by omega)) ?_
      simp [sequence_ascii ascii]
    · exact Or.inl bad
    · obtain bad | ⟨v, large, scalar, rfl, shown, -⟩ := decodeTail_cases n x least rest
      · exact Or.inl ((form.decode_eq fits).trans bad)
      · refine read v scalar ?_
        rw [form.sequence_eq large fits, List.cons_prefix_cons]
        exact ⟨rfl, shown⟩

/-! ### The written form -/

theorem sequence?_encode (v : Nat) :
    (encode v).sequence? = some (sequence (if IsScalar v then v else replacement)) := by
  simp [encode, Encoded.sequence?]

/-- A buffer that starts with the written form of a code point. -/
def StartsWith (bytes : List UInt8) (v : Nat) : Prop :=
  ∃ held, (encode v).sequence? = some held ∧ held <+: bytes

theorem startsWith_iff (scalar : IsScalar v) : StartsWith bytes v ↔ sequence v <+: bytes := by
  simp [StartsWith, sequence?_encode, scalar]

theorem valid_decode_iff :
    (decode bytes).valid = true ↔ ∃ v, IsScalar v ∧ StartsWith bytes v := by
  constructor
  · intro valid
    obtain bad | ⟨v, scalar, shown, -⟩ := decode_cases bytes
    · rw [bad] at valid
      cases valid
    · exact ⟨v, scalar, (startsWith_iff scalar).mpr shown⟩
  · rintro ⟨v, scalar, starts⟩
    rw [decode_of_sequence scalar ((startsWith_iff scalar).mp starts)]

/-- A buffer reads as a scalar value if and only if it starts with what that value is written as,
and the value, its length and its bytes are then given back. Any other buffer reads as one
malformed byte, and any other code point is written as the replacement. -/
theorem decode_inverts_encode (bytes : List UInt8) :
    ((decode bytes).valid = true ↔ ∃ v, IsScalar v ∧ StartsWith bytes v) ∧
    (∀ v, IsScalar v → StartsWith bytes v →
      (∀ w, IsScalar w → StartsWith bytes w → w = v) ∧
      decode bytes = ⟨v, (encode v).len, true⟩ ∧
      (encode (decode bytes).codepoint).sequence? = some (bytes.take (decode bytes).len)) ∧
    ((¬∃ v, IsScalar v ∧ StartsWith bytes v) → decode bytes = ⟨replacement, 1, false⟩) ∧
    ∀ v, ¬IsScalar v →
      encode v = { encode replacement with valid := false } ∧
      (encode v).sequence? = some [0xEF, 0xBF, 0xBD] := by
  refine ⟨valid_decode_iff, ?_, ?_, ?_⟩
  · intro v scalar starts
    have shown := (startsWith_iff scalar).mp starts
    have read := decode_of_sequence scalar shown
    refine ⟨?_, ?_, ?_⟩
    · intro w scalar' starts'
      have read' := decode_of_sequence scalar' ((startsWith_iff scalar').mp starts')
      rw [read] at read'
      exact (congrArg Decoded.codepoint read').symm
    · simp [read, encode, scalar]
    · rw [read, sequence?_encode, if_pos scalar]
      exact congrArg some (List.prefix_iff_eq_take.mp shown)
  · intro none_starts
    obtain bad | ⟨v, scalar, shown, -⟩ := decode_cases bytes
    · exact bad
    · exact absurd ⟨v, scalar, (startsWith_iff scalar).mpr shown⟩ none_starts
  · intro v other
    have stands_in : IsScalar replacement := by decide
    refine ⟨by simp [encode, other, stands_in], ?_⟩
    rw [sequence?_encode, if_neg other]
    decide

end FrontEnd.Utf8
