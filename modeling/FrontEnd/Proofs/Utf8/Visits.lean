import FrontEnd.Proofs.Utf8.Ascii
import FrontEnd.Proofs.Utf8.Drain

/-!
# Where draining has been

A drained cursor stands at the boundaries of its buffer, one after the other (`visits_iff`). Runs of
characters end there, and so does every unit.
-/

namespace FrontEnd.Utf8

variable {bytes : List UInt8} {c : Char} {p : Nat}

/-! ### Boundaries that are reached in one go -/

namespace Boundary

theorem unit (more : bytes ≠ []) : Boundary bytes (decode bytes).len :=
  .step more (.start _)

theorem ascii (front : front? bytes = some c) (ascii : c.toNat < 0x80) : Boundary bytes 1 := by
  cases bytes with
  | nil => cases front
  | cons lead rest =>
    obtain rfl : (decode (lead :: rest)).char = c := Option.some.inj front
    have one := unit (List.cons_ne_nil lead rest)
    rwa [decode_ascii (lead_of_char_ascii ascii)] at one

theorem run (q : Char → Bool) (bytes : List UInt8) : Boundary bytes (span q bytes) := by
  induction bytes using unitInduction with
  | nil => exact .start []
  | unit bytes more ih =>
    obtain ⟨lead, rest, rfl⟩ := List.exists_cons_of_ne_nil more
    cases goes_on : q (decode (lead :: rest)).char with
    | true =>
      rw [span_cons goes_on]
      exact .step more ih
    | false =>
      rw [span_eq_zero goes_on]
      exact .start _

theorem lastStart (bytes : List UInt8) : Boundary bytes (lastStart bytes) := by
  induction bytes using unitInduction with
  | nil => exact .start []
  | unit bytes more ih =>
    unfold Utf8.lastStart at ih ⊢
    rw [units_eq_cons more]
    cases later : units (bytes.drop (decode bytes).len) with
    | nil => exact .start bytes
    | cons d ds =>
      rw [later] at ih
      exact .step more ih

end Boundary

theorem lastStart_unit_ends (more : bytes ≠ []) :
    lastStart bytes + (decode (bytes.drop (lastStart bytes))).len = bytes.length := by
  induction bytes using unitInduction with
  | nil => exact absurd rfl more
  | unit bytes more ih =>
    have inside := decode_len_le_length more
    unfold lastStart at ih ⊢
    rw [units_eq_cons more]
    by_cases done : bytes.drop (decode bytes).len = []
    · have whole : bytes.length ≤ (decode bytes).len := List.drop_eq_nil_iff.mp done
      rw [done]
      simp only [units_nil, List.dropLast_singleton, extent, List.drop_zero]
      omega
    · have later := ih done
      have goes_on : units (bytes.drop (decode bytes).len) ≠ [] := by
        rw [units_eq_cons done]
        exact List.cons_ne_nil _ _
      rw [List.dropLast_cons_of_ne_nil goes_on, extent, ← List.drop_drop]
      rw [List.length_drop] at later
      omega

/-! ### Draining -/

/-- Draining a buffer comes past an offset. -/
def Visits (bytes : List UInt8) (offset : Nat) : Prop :=
  ∃ k read c, (Cursor.new bytes).steps? .forward k = some (read, c) ∧ c.current = offset

theorem Visits.boundary (h : Visits bytes p) : Boundary bytes p := by
  obtain ⟨k, read, c, moved, rfl⟩ := h
  have settled := (Cursor.settled_at_front bytes 0).steps moved
  obtain ⟨-, rfl⟩ := Cursor.steps?_forward moved
  exact settled.after (Nat.zero_le _)

theorem Boundary.visits (h : Boundary bytes p) : Visits bytes p := by
  induction p using Nat.strongRecOn with
  | ind p ih =>
    rcases Nat.eq_zero_or_pos p with rfl | pos
    · exact ⟨0, [], _, rfl, rfl⟩
    obtain ⟨q, before, rfl⟩ := h.prev pos
    have some_left := decode_len_pos (bytes.drop q)
    obtain ⟨k, read, c, moved, rfl⟩ := ih q (by omega) before
    obtain ⟨-, rfl⟩ := Cursor.steps?_forward moved
    have ahead := h.le
    refine ⟨k + 1, _, _, Cursor.steps?_snoc moved (Cursor.next?_eq_some_iff.mpr ⟨?_, rfl, rfl⟩), rfl⟩
    dsimp only [Cursor.new] at some_left ahead ⊢
    omega

theorem visits_iff : Visits bytes p ↔ Boundary bytes p := ⟨Visits.boundary, Boundary.visits⟩

-- draining jumps over the second byte of a sequence
example : ¬Visits [0xC3, 0xA9] 1 := by
  intro visits
  have past := (Boundary.start [0xC3, 0xA9]).unit_le visits.boundary Nat.one_pos
  exact absurd past (by decide)

end FrontEnd.Utf8
