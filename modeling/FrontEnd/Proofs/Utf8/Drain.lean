import FrontEnd.Proofs.Utf8.Walk

/-!
# Draining a cursor

A cursor is drained by stepping forward until nothing is ahead; `drains_iff` says that this reads
what `Cursor.drain` gives, and `nth?_eq` that a step after some others reads the next of it. Whole
buffers are then treated by their units: garbage in front of text does not reach into it
(`draining_resynchronises`), the units of a buffer are valid exactly if it consists of sequences
(`draining_tells_validity`), and stepping back from any unit passes the units before it
(`prev?_retraces_next?`).
-/

namespace FrontEnd.Utf8.Cursor

variable {c c' : Cursor} {data : List UInt8} {d : Decoded} {read : List Decoded} {i k : Nat}

/-- Stepping forward from a cursor reads some units, and then there is nothing ahead. -/
def Drains (c : Cursor) (read : List Decoded) : Prop :=
  ∃ k c', c.steps? .forward k = some (read, c') ∧ c'.next? = none

theorem next?_eq_none_iff : c.next? = none ↔ c.rest = [] := by
  rw [rest, List.drop_eq_nil_iff]
  unfold next?
  by_cases ahead : c.current < c.data.length
  · simp [ahead]
  · simp [ahead]
    omega

theorem exists_drains (c : Cursor) : ∃ read, c.Drains read := by
  generalize ahead : c.rest = bytes
  induction bytes using unitInduction generalizing c with
  | nil => exact ⟨[], 0, c, rfl, next?_eq_none_iff.mpr ahead⟩
  | unit bytes more ih =>
    subst ahead
    cases one : c.next? with
    | none => exact absurd (next?_eq_none_iff.mp one) more
    | some unit =>
      obtain ⟨d, middle⟩ := unit
      have further : middle.rest = c.rest.drop (decode c.rest).len := by
        obtain ⟨-, -, rfl⟩ := next?_eq_some_iff.mp one
        rw [rest, rest, List.drop_drop]
      obtain ⟨later, k, c', stepped, stops⟩ := ih middle further
      exact ⟨d :: later, k + 1, c', steps?_succ_eq_some_iff.mpr ⟨d, middle, later, one, stepped, rfl⟩,
        stops⟩

theorem drains_iff : c.Drains read ↔ read = c.drain.1 := by
  have reads (found : List Decoded) (drains : c.Drains found) : found = units c.rest := by
    obtain ⟨k, c', stepped, stops⟩ := drains
    have all := (steps?_forward stepped).1
    rw [next?_eq_none_iff.mp stops, units_nil, List.append_nil] at all
    exact all.symm
  refine ⟨reads read, ?_⟩
  rintro rfl
  obtain ⟨found, drains⟩ := exists_drains c
  rwa [reads found drains] at drains

/-- The unit that a step reads after `n` others, if they are not stopped by the end. -/
def nth? (c : Cursor) : Nat → Option Decoded
  | 0 => c.next?.map Prod.fst
  | n + 1 => c.next?.bind fun (_, c') => c'.nth? n

theorem nth?_eq (c : Cursor) (n : Nat) : c.nth? n = c.drain.1[n]? := by
  show c.nth? n = (units c.rest)[n]?
  induction n generalizing c with
  | zero =>
    unfold nth?
    cases one : c.next? with
    | none =>
      rw [next?_eq_none_iff.mp one]
      rfl
    | some unit =>
      rw [units_of_next? one]
      rfl
  | succ n ih =>
    unfold nth?
    cases one : c.next? with
    | none =>
      rw [next?_eq_none_iff.mp one]
      rfl
    | some unit =>
      rw [units_of_next? one]
      exact ih unit.2

theorem drains_new (data : List UInt8) : (new data).Drains (units data) := drains_iff.mpr rfl

/-! ### Cut buffers -/

/-- Whatever comes first, the units of what follows are read as they are without it, unless that
starts with a continuation byte. In particular scalar values are read that follow any garbage. -/
theorem draining_resynchronises (garbage : List UInt8) :
    ∃ before, (new garbage).Drains before ∧
      (∀ rest, (∀ b, rest.head? = some b → isContinuation b = false) →
        ∃ after, (new rest).Drains after ∧ (new (garbage ++ rest)).Drains (before ++ after)) ∧
      ∀ values text, (∀ v ∈ values, IsScalar v) → encodeAll? values = some text →
        (new (garbage ++ text)).Drains (before ++ values.map unitOf) := by
  refine ⟨units garbage, drains_new _, ?_, ?_⟩
  · intro rest seam
    refine ⟨units rest, drains_new _, ?_⟩
    rw [← units_append garbage seam]
    exact drains_new _
  · intro values text scalars written
    rw [← units_of_encoded scalars written,
      ← units_append garbage (seam_of_encoded scalars written)]
    exact drains_new _

/-! ### Whole buffers -/

theorem units_tile (data : List UInt8) {before after : List Decoded}
    (parts : units data = before ++ d :: after) :
    ∃ there, (new data).steps? .forward before.length = some (before, there) ∧
      there.current = extent before ∧ there.next? = some (d, ⟨data, extent before + d.len, 0⟩) ∧
      0 < d.len := by
  obtain ⟨k, c', stepped, -⟩ := drains_new data
  rw [parts] at stepped
  obtain ⟨there, first, second⟩ := steps?_split stepped
  obtain ⟨e, next, later, one, -, same⟩ := steps?_succ_eq_some_iff.mp second
  obtain ⟨rfl, -⟩ := List.cons.inj same
  have place : there = ⟨data, extent before, 0⟩ := by
    rw [(steps?_forward first).2]
    simp [new]
  have one : there.next? = some (e, next) := one
  obtain ⟨-, rfl, rfl⟩ := next?_eq_some_iff.mp one
  refine ⟨there, first, by rw [place], ?_, decode_len_pos _⟩
  rw [one, place]

/-- Each unit of a drained buffer starts where those before it end, and all of them together end
where the buffer does. All are valid if and only if the buffer is what some scalar values are written
as, one after the other, and those values are then the code points read. -/
theorem draining_tells_validity (data : List UInt8) :
    ∃ read, (new data).Drains read ∧
      (extent read = data.length ∧
        ∀ before d after, read = before ++ d :: after →
          ∃ there, (new data).steps? .forward before.length = some (before, there) ∧
            there.current = extent before ∧
            there.next? = some (d, ⟨data, extent before + d.len, 0⟩) ∧ 0 < d.len) ∧
      ((∀ d ∈ read, d.valid = true) ↔
        ∃ values, (∀ v ∈ values, IsScalar v) ∧ encodeAll? values = some data) ∧
      (∀ values, (∀ v ∈ values, IsScalar v) → encodeAll? values = some data →
        values = read.map Decoded.codepoint) ∧
      (∀ values, (∀ v ∈ values, IsScalar v) →
        ∃ text, encodeAll? values = some text ∧ (new text).Drains (values.map unitOf)) ∧
      ((∀ d ∈ read, d.valid = true) → encodeAll? (read.map Decoded.codepoint) = some data) := by
  have codepoints (values : List Nat) : (values.map unitOf).map Decoded.codepoint = values := by
    simp [Function.comp_def]
  refine ⟨units data, drains_new data, ⟨extent_units data, fun before d after => units_tile data⟩,
    ?_, ?_, ?_, fun valid => (encoded_of_valid valid).2⟩
  · constructor
    · intro valid
      exact ⟨_, encoded_of_valid valid⟩
    · rintro ⟨values, scalars, written⟩
      rw [units_of_encoded scalars written]
      simp
  · intro values scalars written
    rw [units_of_encoded scalars written, codepoints]
  · intro values scalars
    have written := encodeAll?_eq scalars
    refine ⟨_, written, ?_⟩
    rw [← units_of_encoded scalars written]
    exact drains_new _

/-! ### Back again -/

theorem steps?_of_origin (moved : c.steps? .forward k = some (read, c')) (origin : Nat) :
    ({ c with origin } : Cursor).steps? .forward k = some (read, { c' with origin }) := by
  induction k generalizing c read with
  | zero =>
    cases moved
    rfl
  | succ k ih =>
    obtain ⟨d, middle, later, one, rest, rfl⟩ := steps?_succ_eq_some_iff.mp moved
    obtain ⟨ahead, rfl, rfl⟩ := next?_eq_some_iff.mp one
    refine steps?_succ_eq_some_iff.mpr ⟨_, _, later, ?_, ih rest, rfl⟩
    exact next?_eq_some_iff.mpr ⟨ahead, rfl, rfl⟩

theorem settled_at_front (data : List UInt8) (origin : Nat) : Settled ⟨data, 0, origin⟩ := by
  refine ⟨Nat.zero_le _, fun _ => .start _, fun _ => ?_⟩
  rw [Nat.zero_sub]
  exact .start _

/-- Where the walk forward has been, the walk back comes to. -/
theorem retraces (moved : (new data).steps? .forward k = some (read, c)) (le : i ≤ k) :
    ∃ there, (new data).steps? .forward i = some (read.take i, there) ∧
      (⟨data, c.current, c.current⟩ : Cursor).steps? .back (k - i) =
        some ((read.drop i).reverse, { there with origin := c.current }) := by
  have length := length_of_steps? moved
  have stops : c.data = data := by
    rw [(steps?_forward moved).2]
    rfl
  rw [← List.take_append_drop i read] at moved
  obtain ⟨there, first, second⟩ := steps?_split moved
  rw [List.length_take, length, Nat.min_eq_left le] at first
  rw [List.length_drop, length] at second
  refine ⟨there, first, ?_⟩
  -- a walk that has its origin where it ends does not cross it
  have settled := (settled_at_front data c.current).steps (steps?_of_origin first c.current)
  have onward := steps?_of_origin second c.current
  have back := settled.undo_steps (Or.inr (by exact Nat.le_refl c.current)) onward
  rwa [stops] at back

/-- From wherever draining a buffer has come to, a new cursor that steps back passes the same units in
reverse, stands where the other had stood, and stops at the front. Draining comes to the end. -/
theorem prev?_retraces_next? (data : List UInt8) :
    (∃ k read c, (new data).steps? .forward k = some (read, c) ∧ c.current = data.length) ∧
    ∀ k read c, (new data).steps? .forward k = some (read, c) →
      ∃ opened, startAt data c.current = .ok opened ∧
        (∀ i ≤ k, ∃ there, (new data).steps? .forward i = some (read.take i, there) ∧
          opened.steps? .back (k - i) =
            some ((read.drop i).reverse, { there with origin := c.current })) ∧
        ∃ front, opened.steps? .back k = some (read.reverse, front) ∧ front.current = 0 ∧
          front.prev? = none := by
  constructor
  · obtain ⟨k, c, stepped, -⟩ := drains_new data
    refine ⟨k, _, c, stepped, ?_⟩
    rw [(steps?_forward stepped).2]
    simp [new, extent_units]
  · intro k read c moved
    have inside : c.current ≤ data.length := by
      have settled := (settled_at_front data 0).steps moved
      have same := (steps?_forward moved).2
      have inside := settled.inside
      rwa [same] at inside ⊢
    refine ⟨⟨data, c.current, c.current⟩, startAt_eq_ok_iff.mpr ⟨inside, rfl⟩,
      fun i le => retraces moved le, ?_⟩
    obtain ⟨there, none_yet, back⟩ := retraces moved (Nat.zero_le k)
    cases none_yet
    exact ⟨_, back, rfl, rfl⟩

end FrontEnd.Utf8.Cursor
