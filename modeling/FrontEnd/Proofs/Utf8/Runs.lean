import FrontEnd.Proofs.Utf8.Text
import FrontEnd.Proofs.Utf8.Visits

/-!
# Text in parts

A buffer that is cut at a boundary reads as its two parts do (`Boundary.units_eq`), so text that is cut
there is text on either side. The longest run of characters of a class that a buffer starts with is
what `span` counts, if the class leaves out the replacement character (`longest_run`).
-/

namespace FrontEnd.Utf8

/-- What scalar values are written as, one after the other. -/
def IsText (bytes : List UInt8) : Prop :=
  ∃ values, (∀ v ∈ values, IsScalar v) ∧ encodeAll? values = some bytes

/-- What characters of a class are written as, one after the other. -/
def RunOf (p : Char → Bool) (text : List UInt8) : Prop :=
  ∃ cs, text = ofChars cs ∧ ∀ c ∈ cs, p c = true

/-- The longest of some byte strings that a buffer starts with. -/
structure Longest (P : List UInt8 → Prop) (text bytes : List UInt8) : Prop where
  holds : P text
  starts : text <+: bytes
  most : ∀ other, P other → other <+: bytes → other.length ≤ text.length

variable {p : Char → Bool} {bytes text other : List UInt8} {m i : Nat}

/-! ### Text -/

theorem isText_iff : IsText bytes ↔ ∀ d ∈ units bytes, d.valid = true := by
  constructor
  · rintro ⟨values, scalars, written⟩
    rw [units_of_encoded scalars written]
    simp
  · intro valid
    exact ⟨_, encoded_of_valid valid⟩

theorem text?_eq_none_iff : text? bytes = none ↔ ¬IsText bytes := by
  simp [text?, isText_iff]

theorem isText_ofChars (cs : List Char) : IsText (ofChars cs) := by
  by_contra other
  have read := text?_ofChars cs
  rw [text?_eq_none_iff.mpr other] at read
  cases read

theorem RunOf.isText (run : RunOf p text) : IsText text := by
  obtain ⟨cs, rfl, -⟩ := run
  exact isText_ofChars cs

theorem isText_ascii (ascii : ∀ b ∈ bytes, b.toNat < 0x80) : IsText bytes := by
  have chars : ofChars (bytes.map Char.ofUInt8) = bytes := by
    rw [ofChars_ascii (by simpa [toNat_ofUInt8] using ascii), List.map_map]
    exact (List.map_congr_left fun b _ => toUInt8_ofUInt8 b).trans (List.map_id _)
  rw [← chars]
  exact isText_ofChars _

/-- Bytes that are no text fail to decode somewhere. -/
theorem exists_malformed (other : ¬IsText bytes) :
    ∃ i, Boundary bytes i ∧ i < bytes.length ∧ (decode (bytes.drop i)).valid = false := by
  induction bytes using unitInduction with
  | nil => exact absurd (isText_ofChars []) other
  | unit bytes more ih =>
    cases valid : (decode bytes).valid with
    | false => exact ⟨0, .start bytes, List.length_pos_iff.mpr more, valid⟩
    | true =>
      have later : ¬IsText (bytes.drop (decode bytes).len) := by
        intro text
        apply other
        rw [isText_iff] at text ⊢
        rw [units_eq_cons more]
        exact List.forall_mem_cons.mpr ⟨valid, text⟩
      obtain ⟨i, there, inside, invalid⟩ := ih later
      rw [List.length_drop] at inside
      rw [List.drop_drop] at invalid
      exact ⟨_, .step more there, by omega, invalid⟩

/-! ### Cuts -/

theorem Boundary.decode_take (cut : Boundary bytes m) (there : Boundary (bytes.take m) i)
    (before : i < m) : decode ((bytes.take m).drop i) = decode (bytes.drop i) := by
  have ends := (cut.of_take there).unit_le cut before
  have inside := cut.le
  apply decode_of_le ((List.take_prefix m bytes).drop i)
  simp
  omega

/-- A buffer that is cut at a boundary reads as its parts do. -/
theorem Boundary.units_eq (cut : Boundary bytes m) :
    units bytes = units (bytes.take m) ++ units (bytes.drop m) := by
  induction cut with
  | start bytes => simp
  | @step bytes m more later ih =>
    have pos := decode_len_pos bytes
    have some_left : bytes.take ((decode bytes).len + m) ≠ [] := by
      simp [more]
      omega
    have same : decode (bytes.take ((decode bytes).len + m)) = decode bytes :=
      (Boundary.step more later).decode_take (.start _) (by omega)
    rw [units_eq_cons more, units_eq_cons some_left, same, ih, List.cons_append, List.drop_take,
      Nat.add_sub_cancel_left, List.drop_drop]

theorem IsText.take (whole : IsText bytes) (cut : Boundary bytes m) : IsText (bytes.take m) := by
  rw [isText_iff, cut.units_eq] at whole
  rw [isText_iff]
  intro d member
  exact whole d (List.mem_append_left _ member)

theorem IsText.drop (whole : IsText bytes) (cut : Boundary bytes m) : IsText (bytes.drop m) := by
  rw [isText_iff, cut.units_eq] at whole
  rw [isText_iff]
  intro d member
  exact whole d (List.mem_append_right _ member)

theorem IsText.valid (text : IsText bytes) (more : bytes ≠ []) : (decode bytes).valid = true := by
  rw [isText_iff, units_eq_cons more] at text
  exact text _ List.mem_cons_self

/-- ASCII characters in front are read one by one. -/
theorem Boundary.of_ascii (inside : i ≤ bytes.length)
    (ascii : ∀ j < i, ∃ b, bytes[j]? = some b ∧ b.toNat < 0x80) : Boundary bytes i := by
  induction i with
  | zero => exact .start bytes
  | succ i ih =>
    have here := ih (by omega) fun j before => ascii j (by omega)
    obtain ⟨b, shown, low⟩ := ascii i (by omega)
    obtain ⟨within, rfl⟩ := List.getElem?_eq_some_iff.mp shown
    have one := here.next (by omega)
    rwa [List.drop_eq_getElem_cons within, decode_ascii low] at one

/-! ### Runs -/

theorem valid_of_char (char : (decode bytes).char ≠ '\uFFFD') : (decode bytes).valid = true := by
  by_contra invalid
  rw [malformed_of_invalid (Bool.eq_false_iff.mpr invalid)] at char
  exact char (by decide)

theorem sequence_of_valid (valid : (decode bytes).valid = true) :
    sequence (decode bytes).char.toNat = bytes.take (decode bytes).len := by
  rw [toNat_char (isScalar_of_valid valid), take_of_valid valid]

theorem runOf_take_span (other : p '\uFFFD' = false) (bytes : List UInt8) :
    RunOf p (bytes.take (span p bytes)) := by
  induction bytes using unitInduction with
  | nil => exact ⟨[], rfl, by simp⟩
  | unit bytes more ih =>
    obtain ⟨lead, rest, rfl⟩ := List.exists_cons_of_ne_nil more
    cases goes_on : p (decode (lead :: rest)).char with
    | false =>
      rw [span_eq_zero goes_on]
      exact ⟨[], rfl, by simp⟩
    | true =>
      obtain ⟨cs, same, holds⟩ := ih
      have valid : (decode (lead :: rest)).valid = true := by
        apply valid_of_char
        intro replaced
        rw [replaced, other] at goes_on
        cases goes_on
      refine ⟨(decode (lead :: rest)).char :: cs, ?_, List.forall_mem_cons.mpr ⟨goes_on, holds⟩⟩
      rw [span_cons goes_on, List.take_add, same, ofChars_cons, sequence_of_valid valid]

theorem RunOf.length_le (run : RunOf p text) (starts : text <+: bytes) :
    text.length ≤ span p bytes := by
  obtain ⟨cs, rfl, holds⟩ := run
  obtain ⟨rest, rfl⟩ := starts
  induction cs with
  | nil => simp
  | cons c cs ih =>
    rw [List.forall_mem_cons] at holds
    rw [ofChars_cons, List.append_assoc, span_sequence_append holds.1, List.length_append]
    exact Nat.add_le_add_left (ih holds.2) _

theorem longest_run (other : p '\uFFFD' = false) (bytes : List UInt8) :
    Longest (RunOf p) (bytes.take (span p bytes)) bytes := by
  refine ⟨runOf_take_span other bytes, List.take_prefix _ _, fun text run starts => ?_⟩
  rw [List.length_take_of_le (Boundary.run p bytes).le]
  exact run.length_le starts

/-- No character of the class follows a run. -/
theorem stops_of_span (c : Char) (front : front? (bytes.drop (span p bytes)) = some c) :
    p c = false := by
  induction bytes using unitInduction with
  | nil => cases front
  | unit bytes more ih =>
    obtain ⟨lead, rest, rfl⟩ := List.exists_cons_of_ne_nil more
    cases goes_on : p (decode (lead :: rest)).char with
    | false =>
      rw [span_eq_zero goes_on] at front
      cases front
      exact goes_on
    | true =>
      rw [span_cons goes_on, ← List.drop_drop] at front
      exact ih front

/-! ### ASCII in units -/

theorem not_ascii_of_mem_tail {b : UInt8} (member : b ∈ (bytes.take (decode bytes).len).tail) :
    0x80 ≤ b.toNat := by
  obtain ⟨i, inside, rfl⟩ := List.getElem_of_mem member
  rw [List.length_tail, List.length_take] at inside
  rw [List.getElem_tail, List.getElem_take]
  obtain ⟨b, shown, continues⟩ := @isContinuation_within bytes (i + 1) i.succ_pos (by omega)
  rw [List.getElem?_eq_getElem (by omega)] at shown
  cases shown
  simp only [isContinuation, beq_iff_eq] at continues
  omega

/-- An ASCII byte in a unit is its first one. -/
theorem head_of_mem_unit {b : UInt8} (member : b ∈ bytes.take (decode bytes).len)
    (low : b.toNat < 0x80) : bytes.head? = some b := by
  have later : b ∉ (bytes.take (decode bytes).len).tail := by
    intro member
    have high := not_ascii_of_mem_tail member
    omega
  cases bytes with
  | nil => simp at member
  | cons lead rest =>
    obtain ⟨n, length⟩ := Nat.exists_eq_add_one.mpr (decode_len_pos (lead :: rest))
    rw [length, List.take_succ_cons] at member later
    obtain rfl | member := List.mem_cons.mp member
    · rfl
    · exact absurd member later

/-- An ASCII character is looked for byte by byte, whether the bytes between are units or not. -/
theorem span_ne_ascii {c : Char} (ascii : c.toNat < 0x80) (bytes : List UInt8) :
    span (· != c) bytes = (bytes.takeWhile (· != c.toUInt8)).length := by
  induction bytes using unitInduction with
  | nil => rfl
  | unit bytes more ih =>
    by_cases stops : front? bytes = some c
    · have first := (front?_eq_some_iff ascii).mp stops
      obtain ⟨rest, rfl⟩ := List.head?_eq_some_iff.mp first
      rw [span_eq_zero (by simp [Option.some.inj stops])]
      simp
    · have passes : ∀ b ∈ bytes.take (decode bytes).len, (b != c.toUInt8) = true := by
        intro b member
        rw [bne_iff_ne]
        rintro rfl
        apply stops
        rw [front?_eq_some_iff ascii]
        exact head_of_mem_unit member (by rwa [toNat_toUInt8 ascii])
      have split := @List.takeWhile_append_of_pos _ _ _ (bytes.drop (decode bytes).len) passes
      rw [List.take_append_drop] at split
      obtain ⟨lead, rest, rfl⟩ := List.exists_cons_of_ne_nil more
      have goes_on : ((decode (lead :: rest)).char != c) = true := by
        rw [bne_iff_ne]
        intro same
        exact stops (congrArg some same)
      rw [split, span_cons goes_on, ih, List.length_append,
        List.length_take_of_le (decode_len_le_length more)]

end FrontEnd.Utf8
