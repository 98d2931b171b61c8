import FrontEnd.Proofs.Utf8.Boundary

/-!
# Buffers made of sequences

`units_append` says where a buffer can be cut so that the units of the parts are the units of the
whole. With it buffers are read unit by unit: what scalar values are written as reads as those values
(`units_of_encoded`), and a buffer whose units are all valid is written that way
(`encoded_of_valid`).
-/

namespace FrontEnd.Utf8

/-- What code points are written as, one after the other. -/
def encodeAll? (values : List Nat) : Option (List UInt8) :=
  (values.mapM fun v => (encode v).sequence?).map List.flatten

/-- The unit that a scalar value reads as. -/
def unitOf (v : Nat) : Decoded := ⟨v, (encode v).len, true⟩

variable {v : Nat} {values : List Nat} {bytes front rest : List UInt8}

@[simp] theorem valid_unitOf (v : Nat) : (unitOf v).valid = true := rfl

@[simp] theorem codepoint_unitOf (v : Nat) : (unitOf v).codepoint = v := rfl

theorem unitOf_eq (scalar : IsScalar v) : unitOf v = ⟨v, (sequence v).length, true⟩ := by
  simp [unitOf, encode, scalar]

theorem sequence_ne_nil (scalar : IsScalar v) : sequence v ≠ [] := by
  obtain ⟨lead, n, -, held, -⟩ := sequence_eq_cons scalar
  simp [held]

/-! ### Cutting a buffer -/

theorem units_eq_cons (more : bytes ≠ []) :
    units bytes = decode bytes :: units (bytes.drop (decode bytes).len) := by
  obtain ⟨lead, rest, rfl⟩ := List.exists_cons_of_ne_nil more
  exact units_cons lead rest

theorem front?_of_ne_nil (more : bytes ≠ []) : front? bytes = some (decode bytes).char := by
  obtain ⟨lead, rest, rfl⟩ := List.exists_cons_of_ne_nil more
  rfl

theorem front?_eq_none_iff : front? bytes = none ↔ bytes = [] := by
  cases bytes with
  | nil => simp [front?]
  | cons lead rest => simp [front?]

theorem front?_eq_units (bytes : List UInt8) :
    front? bytes = (units bytes)[0]?.map Decoded.char := by
  cases bytes with
  | nil => rfl
  | cons lead rest => rfl

/-- A cut does not change the unit before it unless a continuation byte follows. -/
theorem decode_append (more : front ≠ [])
    (seam : ∀ b, rest.head? = some b → isContinuation b = false) :
    decode (front ++ rest) = decode front := by
  refine (decode_of_le (List.prefix_append front rest) ?_).symm
  -- a unit that ran past the cut would have the byte after the cut as a continuation
  refine Nat.le_of_not_lt fun past => ?_
  have pos := List.length_pos_iff.mpr more
  obtain ⟨b, shown, continues⟩ := isContinuation_within pos past
  rw [List.getElem?_append_right (Nat.le_refl _), Nat.sub_self, ← List.head?_eq_getElem?] at shown
  rw [seam b shown] at continues
  cases continues

theorem units_append (front : List UInt8)
    (seam : ∀ b, rest.head? = some b → isContinuation b = false) :
    units (front ++ rest) = units front ++ units rest := by
  induction front using unitInduction with
  | nil => rfl
  | unit front more ih =>
    have whole : front ++ rest ≠ [] := by simp [more]
    rw [units_eq_cons whole, units_eq_cons more, decode_append more seam,
      List.drop_append_of_le_length (decode_len_le_length more), ih, List.cons_append]

-- a cut inside a sequence makes two units of one
example : units ([0xC3] ++ [0xA9]) ≠ units [0xC3] ++ units [0xA9] := by decide

theorem extent_units (bytes : List UInt8) : extent (units bytes) = bytes.length := by
  induction bytes using unitInduction with
  | nil => rfl
  | unit bytes more ih =>
    rw [units_eq_cons more, extent, ih, List.length_drop]
    exact Nat.add_sub_cancel' (decode_len_le_length more)

/-! ### Scalar values -/

theorem encodeAll?_eq (scalars : ∀ v ∈ values, IsScalar v) :
    encodeAll? values = some (values.flatMap sequence) := by
  have parts : (values.mapM fun v => (encode v).sequence?) = some (values.map sequence) := by
    induction values with
    | nil => rfl
    | cons v values ih =>
      rw [List.forall_mem_cons] at scalars
      rw [List.mapM_cons, sequence?_encode, if_pos scalars.1, ih scalars.2]
      rfl
  rw [encodeAll?, parts, List.flatMap_def]
  rfl

theorem units_sequence_append (scalar : IsScalar v) (rest : List UInt8) :
    units (sequence v ++ rest) = unitOf v :: units rest := by
  have more : sequence v ++ rest ≠ [] := by simp [sequence_ne_nil scalar]
  rw [units_eq_cons more, decode_of_sequence scalar (List.prefix_append _ _), List.drop_left,
    unitOf_eq scalar]

theorem units_flatMap_sequence (scalars : ∀ v ∈ values, IsScalar v) :
    units (values.flatMap sequence) = values.map unitOf := by
  induction values with
  | nil => rfl
  | cons v values ih =>
    rw [List.forall_mem_cons] at scalars
    rw [List.flatMap_cons, units_sequence_append scalars.1, ih scalars.2, List.map_cons]

theorem units_of_encoded (scalars : ∀ v ∈ values, IsScalar v)
    (written : encodeAll? values = some bytes) : units bytes = values.map unitOf := by
  rw [encodeAll?_eq scalars, Option.some.injEq] at written
  rw [← written, units_flatMap_sequence scalars]

/-- Text starts with no continuation byte. -/
theorem seam_of_encoded (scalars : ∀ v ∈ values, IsScalar v)
    (written : encodeAll? values = some bytes) :
    ∀ b, bytes.head? = some b → isContinuation b = false := by
  rw [encodeAll?_eq scalars, Option.some.injEq] at written
  subst written
  intro b shown
  cases values with
  | nil => cases shown
  | cons v values =>
    obtain ⟨lead, n, -, held, starts⟩ := sequence_eq_cons (scalars v List.mem_cons_self)
    rw [List.flatMap_cons, held, List.cons_append, List.head?_cons, Option.some.injEq] at shown
    rwa [← shown]

theorem isScalar_of_valid (valid : (decode bytes).valid = true) :
    IsScalar (decode bytes).codepoint := by
  obtain bad | ⟨v, scalar, -, read⟩ := decode_cases bytes
  · rw [bad] at valid
    cases valid
  · rwa [read]

/-- A valid unit takes what its value is written as. -/
theorem take_of_valid (valid : (decode bytes).valid = true) :
    sequence (decode bytes).codepoint = bytes.take (decode bytes).len := by
  obtain bad | ⟨v, -, shown, read⟩ := decode_cases bytes
  · rw [bad] at valid
    cases valid
  · rw [read]
    exact List.prefix_iff_eq_take.mp shown

theorem encoded_of_valid (valid : ∀ d ∈ units bytes, d.valid = true) :
    (∀ v ∈ (units bytes).map Decoded.codepoint, IsScalar v) ∧
      encodeAll? ((units bytes).map Decoded.codepoint) = some bytes := by
  have both : (∀ v ∈ (units bytes).map Decoded.codepoint, IsScalar v) ∧
      ((units bytes).map Decoded.codepoint).flatMap sequence = bytes := by
    induction bytes using unitInduction with
    | nil => simp
    | unit bytes more ih =>
      rw [units_eq_cons more, List.forall_mem_cons] at valid
      obtain ⟨scalars, rest⟩ := ih valid.2
      rw [units_eq_cons more, List.map_cons, List.forall_mem_cons, List.flatMap_cons, rest,
        take_of_valid valid.1, List.take_append_drop]
      exact ⟨⟨isScalar_of_valid valid.1, scalars⟩, rfl⟩
  obtain ⟨scalars, whole⟩ := both
  exact ⟨scalars, by rw [encodeAll?_eq scalars, whole]⟩

end FrontEnd.Utf8
