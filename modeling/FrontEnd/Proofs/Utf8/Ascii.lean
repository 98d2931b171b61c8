import FrontEnd.Proofs.Utf8.Codec

/-!
# ASCII in a buffer

A byte below `0x80` is a character of its own, and no other unit reads as one of those characters.
Questions about ASCII characters are therefore questions about bytes: `front?_eq_some_iff` for the
first character and `Ascii.span_eq` for a run of them.
-/

namespace FrontEnd.Utf8

variable {p : Char → Bool} {c : Char} {b lead : UInt8} {bytes rest word : List UInt8}

theorem decode_ascii (low : b.toNat < 0x80) : decode (b :: rest) = ⟨b.toNat, 1, true⟩ := by
  simp [decode, low]

theorem toNat_ofUInt8 (b : UInt8) : (Char.ofUInt8 b).toNat = b.toNat := rfl

theorem toNat_char {d : Decoded} (scalar : IsScalar d.codepoint) : d.char.toNat = d.codepoint := by
  have valid : d.codepoint.isValidChar := by
    unfold IsScalar maxScalar at scalar
    unfold Nat.isValidChar
    omega
  unfold Decoded.char Char.ofNat
  rw [if_pos scalar, dif_pos valid]
  rfl

theorem char_ascii (low : b.toNat < 0x80) : (decode (b :: rest)).char = .ofUInt8 b := by
  rw [decode_ascii low]
  have value := @toNat_char ⟨b.toNat, 1, true⟩ (Or.inl (Nat.lt_trans low (by decide)))
  exact Char.toNat_inj.mp (value.trans (toNat_ofUInt8 b).symm)

/-- No unit but a byte below `0x80` reads as an ASCII character. -/
theorem lead_of_char_ascii (ascii : (decode (lead :: rest)).char.toNat < 0x80) :
    lead.toNat < 0x80 := by
  obtain bad | ⟨v, scalar, shown, read⟩ := decode_cases (lead :: rest)
  · rw [bad] at ascii
    exact absurd ascii (by decide)
  · rw [read, toNat_char scalar] at ascii
    have small : v < 0x80 := ascii
    rw [sequence_ascii small, List.cons_prefix_cons] at shown
    rw [← shown.1, UInt8.toNat_ofNat']
    omega

theorem toUInt8_ofUInt8 (b : UInt8) : (Char.ofUInt8 b).toUInt8 = b :=
  UInt8.toUInt8_toUInt32 b

theorem ofUInt8_toUInt8 (ascii : c.toNat < 0x80) : .ofUInt8 c.toUInt8 = c := by
  apply Char.toNat_inj.mp
  rw [toNat_ofUInt8]
  show c.val.toUInt8.toNat = c.toNat
  rw [UInt32.toNat_toUInt8]
  exact Nat.mod_eq_of_lt (Nat.lt_trans ascii (by decide))

theorem toNat_toUInt8 (ascii : c.toNat < 0x80) : c.toUInt8.toNat = c.toNat := by
  rw [← toNat_ofUInt8, ofUInt8_toUInt8 ascii]

theorem toUInt8_inj {d : Char} (ascii : c.toNat < 0x80) (ascii' : d.toNat < 0x80)
    (same : c.toUInt8 = d.toUInt8) : c = d := by
  rw [← ofUInt8_toUInt8 ascii, same, ofUInt8_toUInt8 ascii']

theorem front?_eq_some_iff (ascii : c.toNat < 0x80) :
    front? bytes = some c ↔ bytes.head? = some c.toUInt8 := by
  cases bytes with
  | nil => simp [front?]
  | cons lead rest =>
    simp only [front?, List.head?_cons, Option.some.injEq]
    constructor
    · rintro rfl
      rw [char_ascii (lead_of_char_ascii ascii), toUInt8_ofUInt8]
    · rintro rfl
      have low : c.toUInt8.toNat < 0x80 := by rwa [toNat_toUInt8 ascii]
      rw [char_ascii low, ofUInt8_toUInt8 ascii]

theorem lead_of_char (ascii : c.toNat < 0x80) (read : (decode (lead :: rest)).char = c) :
    lead = c.toUInt8 := by
  have front : front? (lead :: rest) = some c := congrArg some read
  exact Option.some.inj ((front?_eq_some_iff ascii).mp front)

/-! ### Runs -/

/-- Only ASCII characters have the property. -/
def Ascii (p : Char → Bool) : Prop := ∀ c, p c = true → c.toNat < 0x80

theorem isDigit_iff (c : Char) : c.isDigit = true ↔ 0x30 ≤ c.toNat ∧ c.toNat ≤ 0x39 := by
  simp only [Char.isDigit, Bool.and_eq_true, decide_eq_true_eq, UInt32.le_iff_toNat_le]
  rfl

theorem ascii_isDigit : Ascii Char.isDigit := fun c digit =>
  Nat.lt_of_le_of_lt ((isDigit_iff c).mp digit).2 (by decide)

theorem ascii_isAlpha : Ascii Char.isAlpha := by
  intro c alpha
  have ranges : (decide ('A'.val ≤ c.val ∧ c.val ≤ 'Z'.val) ||
    decide ('a'.val ≤ c.val) && decide (c.val ≤ 'z'.val)) = true := alpha
  simp only [Bool.or_eq_true, Bool.and_eq_true, decide_eq_true_eq, UInt32.le_iff_toNat_le] at ranges
  have upper : 'Z'.val.toNat = 90 := rfl
  have lower : 'z'.val.toNat = 122 := rfl
  show c.val.toNat < 128
  omega

theorem Ascii.decode_char (ascii : Ascii p) (lead : UInt8) (rest : List UInt8) :
    p (decode (lead :: rest)).char = p (.ofUInt8 lead) := by
  rw [Bool.eq_iff_iff]
  constructor
  · intro holds
    rwa [char_ascii (lead_of_char_ascii (ascii _ holds))] at holds
  · intro holds
    rwa [char_ascii (ascii _ holds)]

theorem Ascii.front?_any (ascii : Ascii p) (bytes : List UInt8) :
    (front? bytes).any p = bytes.head?.any fun b => p (.ofUInt8 b) := by
  cases bytes with
  | nil => rfl
  | cons lead rest => exact ascii.decode_char lead rest

theorem span_cons_ascii (low : b.toNat < 0x80) (holds : p (.ofUInt8 b) = true) :
    span p (b :: rest) = span p rest + 1 := by
  rw [span_cons (by rwa [char_ascii low]), decode_ascii low]
  exact Nat.add_comm 1 _

/-- A run of ASCII characters is a run of bytes. -/
theorem Ascii.span_eq (ascii : Ascii p) (bytes : List UInt8) :
    span p bytes = (bytes.takeWhile fun b => p (.ofUInt8 b)).length := by
  induction bytes with
  | nil => rfl
  | cons lead rest ih =>
    cases holds : p (.ofUInt8 lead) with
    | true =>
      rw [span_cons_ascii (ascii _ holds) holds, ih]
      simp [holds]
    | false =>
      rw [span_eq_zero ((ascii.decode_char lead rest).trans holds)]
      simp [holds]

/-- A run goes on through bytes that are such characters, whatever else satisfies the predicate. -/
theorem span_eq_length (holds : ∀ b ∈ word, b.toNat < 0x80 ∧ p (.ofUInt8 b) = true) :
    span p word = word.length := by
  induction word with
  | nil => rfl
  | cons b word ih =>
    obtain ⟨low, first⟩ := holds b List.mem_cons_self
    rw [span_cons_ascii low first, ih fun b later => holds b (List.mem_cons_of_mem _ later),
      List.length_cons]

end FrontEnd.Utf8
