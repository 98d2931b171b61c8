import Mathlib.Data.List.Infix
import FrontEnd.Proofs.Utf8.Encoding
import FrontEnd.Utf8.Cursor

/-!
# Stepping back

A cursor that steps back finds the unit that a read from the front of the bytes in its reach would
have ended with. Before its origin those are the bytes up to the origin, after it those from there
on, and a walk never leaves the boundaries of the two.
-/

namespace FrontEnd.Utf8.Cursor

variable {c c' opened : Cursor} {d : Decoded} {data bytes : List UInt8} {lead : UInt8}
  {i k m n p q start : Nat}

/-! ### Looking back -/

theorem leadBefore_bounds (data : List UInt8) (n i : Nat) :
    i - n ≤ leadBefore data n i ∧ leadBefore data n i ≤ i := by
  induction n generalizing i with
  | zero => simp [leadBefore]
  | succ n ih =>
    unfold leadBefore
    split
    · split
      · have bounds := ih (i := i - 1)
        omega
      · omega
    · omega

/-- Stepping back over continuations comes to the byte in front of them. -/
theorem leadBefore_eq (few : n ≤ m) (first : data[p]? = some lead)
    (starts : isContinuation lead = false)
    (continues : ∀ i, 0 < i → i ≤ n → ∃ b, data[p + i]? = some b ∧ isContinuation b = true) :
    leadBefore data m (p + n) = p := by
  induction n generalizing m with
  | zero =>
    cases m with
    | zero => rfl
    | succ m => simp [leadBefore, first, starts]
  | succ n ih =>
    obtain ⟨m, rfl⟩ := Nat.exists_eq_succ_of_ne_zero (Nat.ne_of_gt (Nat.lt_of_lt_of_le n.succ_pos few))
    obtain ⟨b, shown, more⟩ := continues (n + 1) n.succ_pos (Nat.le_refl _)
    have before := ih (Nat.le_of_succ_le_succ few) fun i pos le => continues i pos (by omega)
    simpa [leadBefore, shown, more] using before

/-- The lowest offset that a step back looks at. -/
def reach (c : Cursor) : Nat := if c.origin < c.current then c.origin else 0

/-- Bytes that begin where the reach of a cursor does. -/
def Reaches (c : Cursor) (bytes : List UInt8) : Prop := bytes <+: c.data.drop c.reach

theorem Reaches.getElem? (h : c.Reaches bytes) (inside : i < bytes.length) :
    c.data[c.reach + i]? = bytes[i]? := by
  obtain ⟨more, whole⟩ := h
  rw [← List.getElem?_drop, ← whole, List.getElem?_append_left inside]

theorem Reaches.drop (h : c.Reaches bytes) (p : Nat) :
    bytes.drop p <+: c.data.drop (c.reach + p) := by
  rw [← List.drop_drop]
  exact List.IsPrefix.drop h p

/-- What a step back reads from some place on is what is there in the reach. -/
theorem Reaches.behind (h : c.Reaches bytes) (p : Nat) (le : c.current ≤ c.reach + bytes.length) :
    (c.data.drop (c.reach + p)).take (c.current - (c.reach + p)) <+: bytes.drop p := by
  refine List.prefix_of_prefix_length_le (List.take_prefix _ _) (h.drop p) ?_
  rw [List.length_take, List.length_drop, List.length_drop]
  omega

theorem prev?_of_valid (h : c.Reaches bytes) (valid : (decode (bytes.drop q)).valid = true)
    (within : q + (decode (bytes.drop q)).len ≤ bytes.length)
    (ends : c.reach + q + (decode (bytes.drop q)).len = c.current) :
    c.prev? = some (decode (bytes.drop q), { c with current := c.reach + q }) := by
  have pos := decode_len_pos (bytes.drop q)
  have four := decode_len_le_four (bytes.drop q)
  obtain ⟨n, length⟩ := Nat.exists_eq_succ_of_ne_zero (Nat.ne_of_gt pos)
  obtain ⟨lead, first, starts⟩ := lead_of_valid valid
  rw [List.getElem?_drop] at first
  have floor : c.floor = max (c.current - 4) c.reach := rfl
  have last : c.current - 1 = c.reach + q + n := by omega
  have found : leadBefore c.data (c.current - 1 - c.floor) (c.current - 1) = c.reach + q := by
    rw [last]
    refine leadBefore_eq (by omega) ?_ starts fun i some le => ?_
    · rw [h.getElem? (by omega)]
      exact first
    · obtain ⟨b, shown, continues⟩ := isContinuation_within some
        (show i < (decode (bytes.drop q)).len by omega)
      rw [List.getElem?_drop] at shown
      refine ⟨b, ?_, continues⟩
      rw [Nat.add_assoc, h.getElem? (by omega)]
      exact shown
  have room := (h.drop q).length_le
  have read : decode ((c.data.drop (c.reach + q)).take (c.current - (c.reach + q))) =
      decode (bytes.drop q) := by
    refine decode_of_le (h.behind q (by omega)) ?_
    rw [List.length_drop] at room
    rw [List.length_take]
    omega
  unfold prev?
  rw [if_neg (by omega)]
  dsimp only
  rw [found, read, if_pos ⟨valid, ends⟩]

theorem prev?_of_invalid (h : c.Reaches bytes) (low : Boundary bytes q)
    (invalid : (decode (bytes.drop q)).valid = false) (inside : q < bytes.length)
    (ends : c.reach + q + 1 = c.current) :
    c.prev? = some (malformed, { c with current := c.reach + q }) := by
  have floor : c.floor = max (c.current - 4) c.reach := rfl
  have last : c.current - 1 = c.reach + q := by omega
  have bounds := leadBefore_bounds c.data (c.current - 1 - c.floor) (c.current - 1)
  unfold prev?
  rw [if_neg (by omega)]
  dsimp only
  obtain ⟨p, found⟩ := Nat.exists_eq_add_of_le
    (show c.reach ≤ leadBefore c.data (c.current - 1 - c.floor) (c.current - 1) by omega)
  rw [found] at bounds ⊢
  rw [if_neg ?_, last]
  -- a sequence that ended at the cursor would be a unit of the bytes in reach, with `q` inside it
  rintro ⟨valid, stops⟩
  have same := decode_of_valid (h.behind p (by omega)) valid
  rw [← same] at valid stops
  obtain ⟨lead, first, starts⟩ := lead_of_valid valid
  rw [List.getElem?_drop] at first
  have unit : Boundary bytes p := .of_lead first starts
  rcases Nat.lt_or_eq_of_le (show p ≤ q by omega) with before | rfl
  · have le := unit.unit_le low before
    omega
  · rw [invalid] at valid
    cases valid

theorem prev?_eq (h : c.Reaches bytes) (low : Boundary bytes q) (inside : q < bytes.length)
    (ends : c.reach + q + (decode (bytes.drop q)).len = c.current) :
    c.prev? = some (decode (bytes.drop q), { c with current := c.reach + q }) := by
  cases valid : (decode (bytes.drop q)).valid with
  | true =>
    refine prev?_of_valid h valid ?_ ends
    exact (low.next inside).le
  | false =>
    have bad := malformed_of_invalid valid
    rw [bad] at ends ⊢
    exact prev?_of_invalid h low valid inside ends

theorem prev?_after_origin (inside : c.current ≤ c.data.length) (above : c.origin < c.current)
    (low : Boundary (c.data.drop c.origin) q)
    (ends : q + (decode ((c.data.drop c.origin).drop q)).len = c.current - c.origin) :
    c.prev? = some (decode ((c.data.drop c.origin).drop q),
      { c with current := c.origin + q }) := by
  have pos := decode_len_pos ((c.data.drop c.origin).drop q)
  have reach : c.reach = c.origin := if_pos above
  have reaches : c.Reaches (c.data.drop c.origin) := by
    rw [Reaches, reach]
  have back := prev?_eq reaches low (by rw [List.length_drop]; omega) (by rw [reach]; omega)
  rwa [reach] at back

theorem prev?_before_origin (inside : c.current ≤ c.data.length) (below : c.current ≤ c.origin)
    (low : Boundary (c.data.take c.origin) q)
    (ends : q + (decode ((c.data.take c.origin).drop q)).len = c.current) :
    c.prev? = some (decode ((c.data.take c.origin).drop q), { c with current := q }) := by
  have pos := decode_len_pos ((c.data.take c.origin).drop q)
  have reach : c.reach = 0 := if_neg (Nat.not_lt.mpr below)
  have reaches : c.Reaches (c.data.take c.origin) := by
    rw [Reaches, reach, List.drop_zero]
    exact List.take_prefix _ _
  have back := prev?_eq reaches low (by rw [List.length_take]; omega) (by rw [reach]; omega)
  rwa [reach, Nat.zero_add] at back

/-! ### Walks -/

/-- The directions to step in. -/
inductive Move where
  | forward
  | back
  deriving DecidableEq, Repr

/-- A step in either direction; `none` where there is nothing to step over. -/
def step? (c : Cursor) : Move → Option (Decoded × Cursor)
  | .forward => c.next?
  | .back => c.prev?

/-- The cursor after some moves, each of which stays put if it finds nothing. -/
def walk (c : Cursor) : List Move → Cursor
  | [] => c
  | move :: moves => ((c.step? move).elim c Prod.snd).walk moves

/-- The units of `k` steps in one direction and the cursor after them, if there are as many. -/
def steps? (c : Cursor) (move : Move) : Nat → Option (List Decoded × Cursor)
  | 0 => some ([], c)
  | k + 1 => do
    let (d, c) ← c.step? move
    let (read, c) ← c.steps? move k
    return (d :: read, c)

/-- What holds of a cursor on all its walks. Up to its origin it is at a boundary of the bytes before
the origin, and from there on at one of the bytes after it. -/
structure Settled (c : Cursor) : Prop where
  inside : c.current ≤ c.data.length
  before : c.current ≤ c.origin → Boundary (c.data.take c.origin) c.current
  after : c.origin ≤ c.current → Boundary (c.data.drop c.origin) (c.current - c.origin)

theorem startAt_eq_ok_iff :
    startAt data start = .ok c ↔ start ≤ data.length ∧ c = ⟨data, start, start⟩ := by
  unfold startAt
  by_cases inside : start ≤ data.length
  · simp [inside, eq_comm]
  · simp [inside]

theorem settled_at_origin (inside : start ≤ data.length) : Settled ⟨data, start, start⟩ := by
  refine ⟨inside, fun _ => ?_, fun _ => ?_⟩
  · have all := Boundary.length (data.take start)
    rwa [List.length_take, Nat.min_eq_left inside] at all
  · rw [Nat.sub_self]
    exact .start _

theorem next?_eq_some_iff :
    c.next? = some (d, c') ↔
      c.current < c.data.length ∧ d = decode c.rest ∧
        c' = { c with current := c.current + (decode c.rest).len } := by
  unfold next?
  by_cases ahead : c.current < c.data.length
  · simp [ahead, eq_comm]
  · simp [ahead]

theorem next_inside (ahead : c.current < c.data.length) :
    c.current + (decode c.rest).len ≤ c.data.length := by
  have more : c.rest ≠ [] := List.ne_nil_of_length_pos (by rw [rest, List.length_drop]; omega)
  have le := decode_len_le_length more
  rw [rest, List.length_drop] at le
  rw [rest]
  omega

/-- A unit that ends at the origin or before it is one of the bytes before the origin. -/
theorem decode_before_origin (ahead : c.current < c.data.length)
    (ends : c.current + (decode c.rest).len ≤ c.origin) :
    decode ((c.data.take c.origin).drop c.current) = decode c.rest := by
  have inside := next_inside ahead
  refine decode_of_le ((List.take_prefix _ _).drop _) ?_
  rw [List.length_drop, List.length_take]
  omega

theorem decode_after_origin (le : c.origin ≤ c.current) :
    decode ((c.data.drop c.origin).drop (c.current - c.origin)) = decode c.rest := by
  rw [List.drop_drop, Nat.add_sub_cancel' le, rest]

theorem Settled.next (h : c.Settled) (moved : c.next? = some (d, c')) : c'.Settled := by
  obtain ⟨ahead, -, rfl⟩ := next?_eq_some_iff.mp moved
  have pos := decode_len_pos c.rest
  have inside := next_inside ahead
  refine ⟨inside, fun le => ?_, fun le => ?_⟩ <;> dsimp only at le ⊢
  · have further := (h.before (by omega)).next (by rw [List.length_take]; omega)
    rwa [decode_before_origin ahead le] at further
  rcases Nat.lt_or_ge c.current c.origin with below | above
  · -- only continuations of the unit lie after the origin
    refine .of_continuations (by rw [List.length_drop]; omega) fun i lt => ?_
    obtain ⟨b, shown, continues⟩ : ∃ b, c.rest[c.origin - c.current + i]? = some b ∧
        isContinuation b = true := isContinuation_within (by omega) (by omega)
    refine ⟨b, ?_, continues⟩
    rw [rest, List.getElem?_drop] at shown
    rw [List.getElem?_drop, ← shown]
    congr 1
    omega
  · have further := (h.after above).next (by rw [List.length_drop]; omega)
    rw [decode_after_origin above] at further
    convert further using 1
    omega

/-- Behind a settled cursor there is a unit to step back over. -/
theorem Settled.prev (h : c.Settled) (pos : 0 < c.current) :
    ∃ d c', c.prev? = some (d, c') ∧ c'.Settled ∧ c'.origin = c.origin ∧
      (c.origin < c.current → c.origin ≤ c'.current) := by
  have inside := h.inside
  rcases Nat.lt_or_ge c.origin c.current with above | below
  · obtain ⟨q, low, ends⟩ := (h.after (by omega)).prev (by omega)
    refine ⟨_, _, prev?_after_origin inside above low ends, ⟨?_, fun le => ?_, fun _ => ?_⟩, rfl,
      fun _ => Nat.le_add_right _ _⟩ <;> dsimp only at *
    · omega
    · obtain rfl : q = 0 := by omega
      exact (settled_at_origin (show c.origin ≤ c.data.length by omega)).before (Nat.le_refl _)
    · rwa [Nat.add_sub_cancel_left]
  · obtain ⟨q, low, ends⟩ := (h.before below).prev pos
    have unit_pos := decode_len_pos ((c.data.take c.origin).drop q)
    refine ⟨_, _, prev?_before_origin inside below low ends, ⟨?_, fun _ => low, fun le => ?_⟩, rfl,
      fun above => ?_⟩ <;> dsimp only at *
    · omega
    · omega
    · omega

theorem Settled.undo (h : c.Settled) (moved : c.next? = some (d, c'))
    (apart : ¬(c.current < c.origin ∧ c.origin < c'.current)) : c'.prev? = some (d, c) := by
  obtain ⟨ahead, rfl, rfl⟩ := next?_eq_some_iff.mp moved
  have pos := decode_len_pos c.rest
  have inside := next_inside ahead
  rcases Nat.lt_or_ge c.current c.origin with below | above
  · have le : c.current + (decode c.rest).len ≤ c.origin := by
      dsimp only at apart
      omega
    have same := decode_before_origin ahead le
    have back := prev?_before_origin (c := { c with current := c.current + (decode c.rest).len })
      inside le (h.before (by omega)) (by rw [same])
    rwa [same] at back
  · have same := decode_after_origin above
    have back := prev?_after_origin (c := { c with current := c.current + (decode c.rest).len })
      inside (by dsimp only; omega) (h.after above) (by rw [same]; dsimp only; omega)
    rw [same] at back
    simpa only [Nat.add_sub_cancel' above] using back

theorem Settled.walk (h : c.Settled) (moves : List Move) :
    (c.walk moves).Settled ∧ (c.walk moves).origin = c.origin := by
  induction moves generalizing c with
  | nil => exact ⟨h, rfl⟩
  | cons move moves ih =>
    unfold Cursor.walk
    cases stepped : c.step? move with
    | none => exact ih h
    | some unit =>
      obtain ⟨d, c'⟩ := unit
      have kept : c'.Settled ∧ c'.origin = c.origin := by
        cases move with
        | forward =>
          obtain ⟨-, -, rfl⟩ := next?_eq_some_iff.mp stepped
          exact ⟨h.next stepped, rfl⟩
        | back =>
          have pos : 0 < c.current := by
            refine Nat.pos_of_ne_zero fun zero => ?_
            simp [step?, prev?, zero] at stepped
          obtain ⟨d', c'', back, settled, origin, -⟩ := h.prev pos
          cases (show c.prev? = some (d, c') from stepped).symm.trans back
          exact ⟨settled, origin⟩
      obtain ⟨settled, origin⟩ := ih kept.1
      exact ⟨settled, origin.trans kept.2⟩

/-! ### There and back -/

theorem steps?_succ_eq_some_iff {move : Move} {read : List Decoded} :
    c.steps? move (k + 1) = some (read, c') ↔
      ∃ d middle later, c.step? move = some (d, middle) ∧
        middle.steps? move k = some (later, c') ∧ d :: later = read := by
  simp only [steps?, Option.pure_def, Option.bind_eq_bind, Option.bind_eq_some_iff,
    Option.some.injEq, Prod.mk.injEq, Prod.exists, exists_eq_right_right, exists_and_left]

theorem steps?_snoc {move : Move} {read : List Decoded} {middle : Cursor}
    (first : c.steps? move k = some (read, middle)) (last : middle.step? move = some (d, c')) :
    c.steps? move (k + 1) = some (read ++ [d], c') := by
  induction k generalizing c read with
  | zero =>
    cases first
    exact steps?_succ_eq_some_iff.mpr ⟨d, c', [], last, rfl, rfl⟩
  | succ k ih =>
    obtain ⟨e, next, later, one, rest, rfl⟩ := steps?_succ_eq_some_iff.mp first
    exact steps?_succ_eq_some_iff.mpr ⟨e, next, later ++ [d], one, ih rest, rfl⟩

theorem length_of_steps? {move : Move} {read : List Decoded}
    (moved : c.steps? move k = some (read, c')) : read.length = k := by
  induction k generalizing c read with
  | zero =>
    cases moved
    rfl
  | succ k ih =>
    obtain ⟨d, middle, later, -, rest, rfl⟩ := steps?_succ_eq_some_iff.mp moved
    rw [List.length_cons, ih rest]

theorem steps?_split {move : Move} {first second : List Decoded}
    (moved : c.steps? move k = some (first ++ second, c')) :
    ∃ middle, c.steps? move first.length = some (first, middle) ∧
      middle.steps? move second.length = some (second, c') := by
  have length := length_of_steps? moved
  subst length
  induction first generalizing c with
  | nil => exact ⟨c, rfl, moved⟩
  | cons d first ih =>
    rw [List.cons_append, List.length_cons] at moved
    obtain ⟨e, next, later, one, rest, same⟩ := steps?_succ_eq_some_iff.mp moved
    obtain ⟨rfl, rfl⟩ := List.cons.inj same
    obtain ⟨middle, before, after⟩ := ih rest
    exact ⟨middle, steps?_succ_eq_some_iff.mpr ⟨e, next, first, one, before, rfl⟩, after⟩

theorem units_of_next? (one : c.next? = some (d, c')) : units c.rest = d :: units c'.rest := by
  obtain ⟨ahead, rfl, rfl⟩ := next?_eq_some_iff.mp one
  have more : c.rest ≠ [] := List.ne_nil_of_length_pos (by rw [Cursor.rest, List.length_drop]; omega)
  rw [units_eq_cons more, Cursor.rest, Cursor.rest, List.drop_drop]

/-- Steps forward read the units ahead. -/
theorem steps?_forward {read : List Decoded} (moved : c.steps? .forward k = some (read, c')) :
    units c.rest = read ++ units c'.rest ∧ c' = { c with current := c.current + extent read } := by
  induction k generalizing c read with
  | zero =>
    cases moved
    exact ⟨rfl, rfl⟩
  | succ k ih =>
    obtain ⟨d, middle, later, one, rest, rfl⟩ := steps?_succ_eq_some_iff.mp moved
    obtain ⟨read, stops⟩ := ih rest
    refine ⟨by rw [units_of_next? one, List.cons_append, ← read], ?_⟩
    obtain ⟨-, rfl, rfl⟩ := next?_eq_some_iff.mp one
    rw [stops, extent, Nat.add_assoc]

theorem le_of_steps? {read : List Decoded} (moved : c.steps? .forward k = some (read, c')) :
    c.current ≤ c'.current := by
  rw [(steps?_forward moved).2]
  exact Nat.le_add_right _ _

theorem Settled.steps {read : List Decoded} (h : c.Settled)
    (moved : c.steps? .forward k = some (read, c')) : c'.Settled := by
  induction k generalizing c read with
  | zero =>
    cases moved
    exact h
  | succ k ih =>
    obtain ⟨d, middle, later, one, rest, rfl⟩ := steps?_succ_eq_some_iff.mp moved
    exact ih (h.next one) rest

/-- Steps forward that do not cross the origin from below are undone by as many steps back. -/
theorem Settled.undo_steps {read : List Decoded} (h : c.Settled)
    (clear : c.origin ≤ c.current ∨ c'.current ≤ c.origin)
    (moved : c.steps? .forward k = some (read, c')) :
    c'.steps? .back k = some (read.reverse, c) := by
  induction k generalizing c read with
  | zero =>
    cases moved
    rfl
  | succ k ih =>
    obtain ⟨d, middle, later, one, rest, rfl⟩ := steps?_succ_eq_some_iff.mp moved
    have one : c.next? = some (d, middle) := one
    have le := le_of_steps? rest
    have back : middle.step? .back = some (d, c) := h.undo one (by omega)
    have further : middle.origin ≤ middle.current ∨ c'.current ≤ middle.origin := by
      obtain ⟨-, -, rfl⟩ := next?_eq_some_iff.mp one
      exact clear.imp_left fun above => Nat.le_trans above (Nat.le_add_right _ _)
    rw [List.reverse_cons]
    exact steps?_snoc (ih (h.next one) further rest) back

/-- Wherever a walk has got to, a step back undoes a step forward, unless that has stepped over the
offset the walk started at from below: then it goes back elsewhere. From the start, any number of
steps forward is undone by as many steps back. -/
theorem prev?_undoes_next? (opens : startAt data start = .ok opened) :
    (∀ moves d c', (opened.walk moves).next? = some (d, c') →
      let c := opened.walk moves
      (c'.prev? = some (d, c) ↔ ¬(c.current < start ∧ start < c'.current)) ∧
      (c.current < start ∧ start < c'.current →
        ∃ e c'', c'.prev? = some (e, c'') ∧ c''.current ≠ c.current)) ∧
    ∀ k read c', opened.steps? .forward k = some (read, c') →
      c'.steps? .back k = some (read.reverse, ⟨data, start, start⟩) := by
  obtain ⟨inside, rfl⟩ := startAt_eq_ok_iff.mp opens
  have settled := settled_at_origin inside
  refine ⟨?_, fun k read c' moved => settled.undo_steps (Or.inl (Nat.le_refl start)) moved⟩
  intro moves d c' moved c
  obtain ⟨here, origin⟩ := settled.walk moves
  have origin : c.origin = start := origin
  have straddled (apart : c.current < start ∧ start < c'.current) :
      ∃ e c'', c'.prev? = some (e, c'') ∧ c''.current ≠ c.current := by
    have kept : c'.origin = c.origin := by
      obtain ⟨-, -, rfl⟩ := next?_eq_some_iff.mp moved
      rfl
    obtain ⟨e, c'', back, -, -, stays⟩ := (here.next moved).prev (by omega)
    have above := stays (by omega)
    exact ⟨e, c'', back, by omega⟩
  refine ⟨⟨fun back apart => ?_, fun apart => here.undo moved (by rwa [origin])⟩, straddled⟩
  obtain ⟨e, c'', back', moved'⟩ := straddled apart
  cases back.symm.trans back'
  exact moved' rfl

/-- A walk in the middle of the three bytes of a sequence: stepping back and then forward takes the
sequence as a whole, and the step back from there does not. -/
theorem prev?_undoes_next?_straddling :
    let data : List UInt8 := [0xE2, 0x82, 0xAC, 0x41]
    let opened : Cursor := ⟨data, 1, 1⟩
    startAt data 1 = .ok opened ∧
    (opened.walk [.back]).next? = some (⟨0x20AC, 3, true⟩, ⟨data, 3, 1⟩) ∧
    (∃ e c'', (⟨data, 3, 1⟩ : Cursor).prev? = some (e, c'') ∧ c''.current ≠ 0) ∧
    opened.steps? .forward 3 = some ([malformed, malformed, ⟨0x41, 1, true⟩], ⟨data, 4, 1⟩) ∧
    (⟨data, 4, 1⟩ : Cursor).steps? .back 3 =
      some ([⟨0x41, 1, true⟩, malformed, malformed], opened) := by
  intro data opened
  have opens : startAt data 1 = .ok opened := by decide
  have moved : (opened.walk [.back]).next? = some (⟨0x20AC, 3, true⟩, ⟨data, 3, 1⟩) := by decide
  have read : opened.steps? .forward 3 =
      some ([malformed, malformed, ⟨0x41, 1, true⟩], ⟨data, 4, 1⟩) := by decide
  obtain ⟨walks, returns⟩ := prev?_undoes_next? opens
  exact ⟨opens, moved, (walks [.back] _ _ moved).2 (by decide), read, returns 3 _ _ read⟩

end FrontEnd.Utf8.Cursor
