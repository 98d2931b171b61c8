import FrontEnd.Proofs.Utf8.Ascii
import FrontEnd.Proofs.Utf8.Encoding

/-!
# Text

`ofChars` writes characters one after the other. What it writes reads as those characters
(`text?_ofChars`), and a run of characters in front of something else ends with them
(`span_ofChars`).
-/

namespace FrontEnd.Utf8

/-- The bytes that characters are written as. -/
def ofChars (cs : List Char) : List UInt8 := cs.flatMap fun c => sequence c.toNat

variable {p : Char → Bool} {c : Char} {cs cs' : List Char} {rest : List UInt8}

@[simp] theorem ofChars_nil : ofChars [] = [] := rfl

@[simp] theorem ofChars_cons (c : Char) (cs : List Char) :
    ofChars (c :: cs) = sequence c.toNat ++ ofChars cs :=
  List.flatMap_cons

theorem isScalar_toNat (c : Char) : IsScalar c.toNat := by
  have valid : c.toNat.isValidChar := c.valid
  unfold Nat.isValidChar at valid
  unfold IsScalar maxScalar
  omega

theorem sequence_toNat_eq_cons (c : Char) :
    ∃ lead more, sequence c.toNat = lead :: more := by
  obtain ⟨lead, n, -, same, -⟩ := sequence_eq_cons (isScalar_toNat c)
  exact ⟨lead, _, same⟩

/-! ### The first character -/

theorem decode_sequence_append (c : Char) (rest : List UInt8) :
    decode (sequence c.toNat ++ rest) = ⟨c.toNat, (sequence c.toNat).length, true⟩ :=
  decode_of_sequence (isScalar_toNat c) (List.prefix_append _ _)

theorem char_sequence_append (c : Char) (rest : List UInt8) :
    (decode (sequence c.toNat ++ rest)).char = c := by
  rw [decode_sequence_append]
  exact Char.toNat_inj.mp (toNat_char (isScalar_toNat c))

theorem front?_sequence_append (c : Char) (rest : List UInt8) :
    front? (sequence c.toNat ++ rest) = some c := by
  have read := char_sequence_append c rest
  obtain ⟨lead, more, same⟩ := sequence_toNat_eq_cons c
  rw [same] at read ⊢
  exact congrArg some read

theorem front?_ofChars_cons (c : Char) (cs : List Char) (rest : List UInt8) :
    front? (ofChars (c :: cs) ++ rest) = some c := by
  rw [ofChars_cons, List.append_assoc]
  exact front?_sequence_append c _

/-! ### All of them -/

/-- Text reads as the characters that it was written with. -/
theorem text?_ofChars (cs : List Char) : text? (ofChars cs) = some cs := by
  have scalars : ∀ v ∈ cs.map Char.toNat, IsScalar v := by
    intro v member
    obtain ⟨c, -, rfl⟩ := List.mem_map.mp member
    exact isScalar_toNat c
  have read : units (ofChars cs) = (cs.map Char.toNat).map unitOf := by
    rw [← units_flatMap_sequence scalars, List.flatMap_map]
    rfl
  have chars : (cs.map fun c => (unitOf c.toNat).char) = cs := by
    refine (List.map_congr_left fun c _ => ?_).trans (List.map_id cs)
    exact Char.toNat_inj.mp (toNat_char (d := unitOf c.toNat) (isScalar_toNat c))
  simp [text?, read, List.map_map, Function.comp_def, chars]

theorem ofChars_inj : ofChars cs = ofChars cs' ↔ cs = cs' := by
  constructor
  · intro same
    have read := text?_ofChars cs
    rw [same, text?_ofChars] at read
    exact (Option.some.inj read).symm
  · exact congrArg ofChars

theorem span_sequence_append (holds : p c = true) (rest : List UInt8) :
    span p (sequence c.toNat ++ rest) = (sequence c.toNat).length + span p rest := by
  have read := decode_sequence_append c rest
  have char := char_sequence_append c rest
  have after : (sequence c.toNat ++ rest).drop (sequence c.toNat).length = rest := List.drop_left
  obtain ⟨lead, more, same⟩ := sequence_toNat_eq_cons c
  rw [same] at read char after ⊢
  rw [List.cons_append] at read char after ⊢
  rw [span_cons (by rw [char]; exact holds), read, after]

/-- A run goes through characters that belong to it, and stops at one that does not. -/
theorem span_ofChars (holds : ∀ c ∈ cs, p c = true) (stops : ∀ c, front? rest = some c → p c = false) :
    span p (ofChars cs ++ rest) = (ofChars cs).length := by
  induction cs with
  | nil =>
    cases rest with
    | nil => rfl
    | cons lead rest => exact span_eq_zero (stops _ rfl)
  | cons c cs ih =>
    rw [ofChars_cons, List.append_assoc, span_sequence_append (holds c List.mem_cons_self),
      ih fun c later => holds c (List.mem_cons_of_mem _ later), List.length_append]

/-! ### ASCII -/

theorem sequence_toNat_ascii (ascii : c.toNat < 0x80) : sequence c.toNat = [c.toUInt8] := by
  rw [sequence_ascii ascii]
  rfl

theorem ofChars_ascii (ascii : ∀ c ∈ cs, c.toNat < 0x80) : ofChars cs = cs.map Char.toUInt8 := by
  induction cs with
  | nil => rfl
  | cons c cs ih =>
    rw [ofChars_cons, sequence_toNat_ascii (ascii c List.mem_cons_self),
      ih fun c later => ascii c (List.mem_cons_of_mem _ later), List.map_cons]
    rfl

end FrontEnd.Utf8
