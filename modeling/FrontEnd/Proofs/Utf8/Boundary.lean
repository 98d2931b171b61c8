import FrontEnd.Proofs.Utf8.Codec

/-!
# Where reading stops

A boundary of a buffer is an offset at which a read of it from the front stops between two units.
The lemmas say how to get from one boundary to the next and back, and which bytes must start or
cannot start a unit.
-/

namespace FrontEnd.Utf8

/-- The offsets at which reading a buffer unit by unit stops. -/
inductive Boundary : List UInt8 → Nat → Prop where
  | start (bytes : List UInt8) : Boundary bytes 0
  | step {bytes : List UInt8} {p : Nat} (more : bytes ≠ [])
      (later : Boundary (bytes.drop (decode bytes).len) p) : Boundary bytes ((decode bytes).len + p)

variable {bytes short rest : List UInt8} {b : UInt8} {i m p q : Nat}

/-! ### One unit -/

/-- A unit reads the same in any part of a buffer that holds it. -/
theorem decode_of_le (shown : short <+: bytes) (room : (decode bytes).len ≤ short.length) :
    decode short = decode bytes := by
  obtain bad | ⟨v, scalar, held, read⟩ := decode_cases bytes
  · obtain bad' | ⟨v, scalar, held, -⟩ := decode_cases short
    · rw [bad, bad']
    · have read := decode_of_sequence scalar (held.trans shown)
      rw [bad] at read
      cases read
  · rw [read] at room
    rw [read, decode_of_sequence scalar (List.prefix_of_prefix_length_le held shown room)]

theorem decode_of_continuation (h : isContinuation b = true) : decode (b :: rest) = malformed := by
  obtain bad | ⟨v, scalar, shown, -⟩ := decode_cases (b :: rest)
  · exact bad
  · obtain ⟨lead, n, -, held, starts⟩ := sequence_eq_cons scalar
    rw [held, List.cons_prefix_cons] at shown
    rw [shown.1, h] at starts
    cases starts

/-- A sequence is read whatever bytes follow. -/
theorem decode_of_valid (shown : short <+: bytes) (valid : (decode short).valid = true) :
    decode bytes = decode short := by
  obtain bad | ⟨v, scalar, held, read⟩ := decode_cases short
  · rw [bad] at valid
    cases valid
  · rw [read, decode_of_sequence scalar (held.trans shown)]

theorem lead_of_valid (valid : (decode bytes).valid = true) :
    ∃ b, bytes[0]? = some b ∧ isContinuation b = false := by
  cases bytes with
  | nil => cases valid
  | cons b rest =>
    refine ⟨b, rfl, Bool.eq_false_iff.mpr fun continues => ?_⟩
    rw [decode_of_continuation continues] at valid
    cases valid

theorem malformed_of_invalid (invalid : (decode bytes).valid = false) :
    decode bytes = malformed := by
  obtain bad | ⟨v, -, -, read⟩ := decode_cases bytes
  · exact bad
  · rw [read] at invalid
    cases invalid

/-- All bytes of a unit but the first are continuations. -/
theorem isContinuation_within (pos : 0 < i) (within : i < (decode bytes).len) :
    ∃ b, bytes[i]? = some b ∧ isContinuation b = true := by
  obtain bad | ⟨v, scalar, ⟨more, rfl⟩, read⟩ := decode_cases bytes
  · have one : i < 1 := by simpa [bad, malformed] using within
    omega
  · obtain ⟨lead, n, -, held, -⟩ := sequence_eq_cons scalar
    obtain ⟨j, rfl⟩ := Nat.exists_eq_succ_of_ne_zero (Nat.ne_of_gt pos)
    rw [read, held] at within
    have inside : j < (tail n v).length := Nat.lt_of_succ_lt_succ within
    refine ⟨(tail n v)[j], ?_, isContinuation_of_mem_tail (List.getElem_mem inside)⟩
    rw [held, List.cons_append, List.getElem?_cons_succ, List.getElem?_append_left inside,
      List.getElem?_eq_getElem inside]

theorem decode_len_le_four (bytes : List UInt8) : (decode bytes).len ≤ 4 := by
  obtain bad | ⟨v, scalar, -, read⟩ := decode_cases bytes
  · simp [bad, malformed]
  · obtain ⟨lead, n, small, held, -⟩ := sequence_eq_cons scalar
    rw [read, held]
    simp only [List.length_cons, length_tail]
    exact Nat.succ_le_succ small

theorem decode_len_le_length (more : bytes ≠ []) : (decode bytes).len ≤ bytes.length := by
  obtain ⟨lead, rest, rfl⟩ := List.exists_cons_of_ne_nil more
  exact decode_len_le lead rest

/-- Induction on a buffer, unit by unit. -/
@[elab_as_elim]
theorem unitInduction {motive : List UInt8 → Prop} (nil : motive [])
    (unit : ∀ bytes, bytes ≠ [] → motive (bytes.drop (decode bytes).len) → motive bytes)
    (bytes : List UInt8) : motive bytes := by
  induction h : bytes.length using Nat.strongRecOn generalizing bytes with
  | ind n ih =>
    by_cases empty : bytes = []
    · rwa [empty]
    · have pos := decode_len_pos bytes
      have inside := decode_len_le_length empty
      exact unit bytes empty (ih _ (by rw [← h]; omega) _ (List.length_drop))

/-! ### Boundaries -/

namespace Boundary

theorem le (h : Boundary bytes p) : p ≤ bytes.length := by
  induction h with
  | start => exact Nat.zero_le _
  | step more _ ih =>
    have inside := decode_len_le_length more
    rw [List.length_drop] at ih
    omega

theorem next (h : Boundary bytes p) (before : p < bytes.length) :
    Boundary bytes (p + (decode (bytes.drop p)).len) := by
  induction h with
  | start bytes =>
    have more : bytes ≠ [] := List.ne_nil_of_length_pos before
    simpa using Boundary.step more (.start _)
  | step more _ ih =>
    rw [List.length_drop] at ih
    have later := Boundary.step more (ih (by omega))
    rwa [List.drop_drop, ← Nat.add_assoc] at later

/-- Before a boundary there is a unit that ends there. -/
theorem prev (h : Boundary bytes p) (pos : 0 < p) :
    ∃ q, Boundary bytes q ∧ q + (decode (bytes.drop q)).len = p := by
  induction h with
  | start => exact absurd pos (Nat.lt_irrefl 0)
  | @step bytes p more _ ih =>
    rcases Nat.eq_zero_or_pos p with rfl | pos
    · exact ⟨0, .start bytes, by simp⟩
    · obtain ⟨q, before, ends⟩ := ih pos
      rw [List.drop_drop] at ends
      exact ⟨_, .step more before, by omega⟩

/-- No boundary lies within a unit. -/
theorem unit_le (low : Boundary bytes q) (high : Boundary bytes p) (lt : q < p) :
    q + (decode (bytes.drop q)).len ≤ p := by
  induction low generalizing p with
  | start bytes =>
    cases high with
    | start => omega
    | step => simp
  | step more _ ih =>
    cases high with
    | start => omega
    | step _ later =>
      have le := ih later (by omega)
      rw [List.drop_drop] at le
      omega

/-- A byte that is no continuation starts a unit. -/
theorem of_lead (h : bytes[p]? = some b) (lead : isContinuation b = false) : Boundary bytes p := by
  induction bytes using unitInduction generalizing p with
  | nil => simp at h
  | unit bytes more ih =>
    rcases Nat.eq_zero_or_pos p with rfl | pos
    · exact .start bytes
    have reach : (decode bytes).len ≤ p := by
      refine Nat.le_of_not_lt fun within => ?_
      obtain ⟨b', shown, continues⟩ := isContinuation_within pos within
      rw [h] at shown
      cases shown
      rw [lead] at continues
      cases continues
    obtain ⟨q, rfl⟩ := Nat.exists_eq_add_of_le reach
    exact .step more (ih (by rwa [List.getElem?_drop]))

/-- Continuations in front are read one by one. -/
theorem of_continuations (inside : p ≤ bytes.length)
    (h : ∀ i < p, ∃ b, bytes[i]? = some b ∧ isContinuation b = true) : Boundary bytes p := by
  induction p with
  | zero => exact .start bytes
  | succ p ih =>
    have here := ih (by omega) fun i lt => h i (by omega)
    obtain ⟨b, shown, continues⟩ := h p (by omega)
    have front : bytes.drop p = b :: bytes.drop (p + 1) := by
      obtain ⟨inside, rfl⟩ := List.getElem?_eq_some_iff.mp shown
      exact List.drop_eq_getElem_cons inside
    have one := here.next (by omega)
    rwa [front, decode_of_continuation continues] at one

/-- Boundaries of what follows a boundary are boundaries. -/
theorem add (low : Boundary bytes p) (high : Boundary (bytes.drop p) q) : Boundary bytes (p + q) := by
  induction low with
  | start bytes => simpa using high
  | step more _ ih =>
    rw [← List.drop_drop] at high
    rw [Nat.add_assoc]
    exact .step more (ih high)

/-- Up to a boundary a buffer has the boundaries that it has without the rest. -/
theorem of_take (cut : Boundary bytes m) (h : Boundary (bytes.take m) p) : Boundary bytes p := by
  induction cut generalizing p with
  | start bytes =>
    obtain rfl : p = 0 := by simpa using h.le
    exact .start bytes
  | @step bytes m more _ ih =>
    generalize shown : bytes.take ((decode bytes).len + m) = short at h
    cases h with
    | start => exact .start _
    | step _ later =>
      subst shown
      have room := decode_len_le_length more
      have same : decode (bytes.take ((decode bytes).len + m)) = decode bytes :=
        decode_of_le (List.take_prefix _ _) (by rw [List.length_take]; omega)
      rw [same] at later ⊢
      rw [List.drop_take, Nat.add_sub_cancel_left] at later
      exact .step more (ih later)

theorem length (bytes : List UInt8) : Boundary bytes bytes.length := by
  induction bytes using unitInduction with
  | nil => exact .start []
  | unit bytes more ih =>
    have all := Boundary.step more ih
    rwa [List.length_drop, Nat.add_sub_cancel' (decode_len_le_length more)] at all

end Boundary

end FrontEnd.Utf8
