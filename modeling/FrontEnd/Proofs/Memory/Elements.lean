import FrontEnd.Memory.Cell
import FrontEnd.Proofs.Memory.Placement
import FrontEnd.Proofs.Memory.RegionFrame
import FrontEnd.Proofs.Memory.Scalars

/-!
# Arrays of scalars

The elements of an array lie one after the other in its block, so setting one leaves the others as
they were (`Arena.Reads.set`). `arrays_hold_what_was_set` follows an array from where it is handed out
through all that is set in it.
-/

namespace FrontEnd.Memory

open Buffer (splice window)

namespace Arena

variable {t : Scalar} {a before after : Arena} {cells : CellArray t} {i j count start : Nat}
  {values : Nat → t.Value}

/-! ### Where elements lie -/

theorem element_fits (t : Scalar) (inside : i < count) : i * t.size + t.size ≤ count * t.size := by
  rw [← Nat.succ_mul]
  exact Nat.mul_le_mul_right t.size inside

theorem elements_apart (t : Scalar) (other : j ≠ i) :
    j * t.size + t.size ≤ i * t.size ∨ i * t.size + t.size ≤ j * t.size := by
  rcases Nat.lt_or_gt_of_ne other with before | after
  · exact Or.inl (element_fits t before)
  · exact Or.inr (element_fits t after)

/-- An array lies in an arena with all its elements. -/
structure Lies (a : Arena) (cells : CellArray t) : Prop where
  owned : a.checkOwned cells.block = .ok ()
  whole : cells.block.len = cells.count * t.size

/-- The value in the bytes of an element. -/
def shown (a : Arena) (cells : CellArray t) (i : Nat) : t.Value :=
  t.ofBytes (window a.data (cells.block.offset + i * t.size) t.size)

namespace Lies

theorem element_le (lies : a.Lies cells) (inside : i < cells.count) :
    i * t.size + t.size ≤ cells.block.len := by
  rw [lies.whole]
  exact element_fits t inside

theorem finish_le (lies : a.Lies cells) : cells.block.offset + cells.block.len ≤ a.data.length :=
  (checkOwned_eq_ok_iff.mp lies.owned).2.2

theorem inside_buffer (lies : a.Lies cells) (inside : i < cells.count) :
    cells.block.offset + i * t.size + t.size ≤ a.data.length := by
  have fits := lies.element_le inside
  have ends := lies.finish_le
  omega

theorem element_eq (lies : a.Lies cells) (inside : i < cells.count) :
    a.element cells i = .ok (a.shown cells i) := by
  have fits := lies.element_le inside
  have all : (window a.data cells.block.offset cells.block.len).length = cells.block.len :=
    Buffer.length_window lies.finish_le
  have cut := Buffer.slice_eq_window (Nat.le_add_right (i * t.size) t.size)
    (Nat.le_trans fits (Nat.le_of_eq all.symm))
  rw [Nat.add_sub_cancel_left, Buffer.window_window fits] at cut
  unfold element shown
  rw [if_pos inside, bytes_of_owned lies.owned]
  simp only [bind, Except.bind, cut]
  exact Scalar.read_window (lies.inside_buffer inside)

theorem setElement_run (lies : a.Lies cells) (inside : i < cells.count) (v : t.Value) :
    setElement cells i v a =
      .ok () { a with data := splice a.data (cells.block.offset + i * t.size) (t.encode v) } := by
  have fits := lies.element_le inside
  unfold setElement
  rw [if_pos inside]
  exact writeBytes_run lies.owned (by rwa [Scalar.length_encode])

theorem splice {new : List UInt8} (lies : a.Lies cells)
    (room : start + new.length ≤ a.data.length) :
    Lies { a with data := Buffer.splice a.data start new } cells := by
  obtain ⟨owner, word, within⟩ := checkOwned_eq_ok_iff.mp lies.owned
  refine ⟨checkOwned_eq_ok_iff.mpr ⟨owner, word, ?_⟩, lies.whole⟩
  exact Nat.le_trans within (Nat.le_of_eq (Buffer.length_splice room).symm)

theorem shown_set (lies : a.Lies cells) (inside : i < cells.count) (v : t.Value) (k : Nat) :
    shown { a with
      data := Buffer.splice a.data (cells.block.offset + i * t.size) (t.encode v) } cells k =
      if k = i then v else a.shown cells k := by
  have width := Scalar.length_encode v
  have room : cells.block.offset + i * t.size + (t.encode v).length ≤ a.data.length :=
    width ▸ lies.inside_buffer inside
  unfold shown
  dsimp only
  by_cases same : k = i
  · have whole := Buffer.window_splice_self room
    rw [width] at whole
    rw [if_pos same, same, whole, Scalar.ofBytes_encode]
  · have apart := elements_apart t same
    rw [if_neg same, Buffer.window_splice_apart room (by omega)]

end Lies

theorem element_past (a : Arena) (past : cells.count ≤ i) :
    a.element cells i = .error (.indexOutOfBounds i cells.count) :=
  if_neg (Nat.not_lt.mpr past)

theorem setElement_past (a : Arena) (past : cells.count ≤ i) (v : t.Value) :
    setElement cells i v a = .error (.indexOutOfBounds i cells.count) a := by
  unfold setElement
  rw [if_neg (Nat.not_lt.mpr past)]
  rfl

/-! ### Setting elements -/

/-- The elements of an array have some values, and beside the array the buffer is as it was. -/
structure Reads (before after : Arena) (cells : CellArray t) (values : Nat → t.Value) : Prop where
  lies : after.Lies cells
  element : ∀ i < cells.count, after.element cells i = .ok (values i)
  beside : ∀ j, ¬(cells.block.offset ≤ j ∧ j < cells.block.finish) →
    after.data[j]? = before.data[j]?

/-- Setting an element changes what it reads as and nothing else. -/
theorem Reads.set (h : Reads before after cells values) (inside : i < cells.count) (v : t.Value) :
    ∃ data, setElement cells i v after = .ok () { after with data } ∧
      Reads before { after with data } cells fun k => if k = i then v else values k := by
  have fits := h.lies.element_le inside
  have width := Scalar.length_encode v
  have room : cells.block.offset + i * t.size + (t.encode v).length ≤ after.data.length :=
    width ▸ h.lies.inside_buffer inside
  have lies := h.lies.splice room
  refine ⟨_, h.lies.setElement_run inside v, lies, fun k among => ?_, fun j outside => ?_⟩
  · have kept : after.shown cells k = values k :=
      Except.ok.inj ((h.lies.element_eq among).symm.trans (h.element k among))
    rw [lies.element_eq among, h.lies.shown_set inside, kept]
  · have elsewhere : ¬(cells.block.offset + i * t.size ≤ j ∧
        j < cells.block.offset + i * t.size + (t.encode v).length) := by
      unfold Block.finish at outside
      omega
    rw [← h.beside j outside]
    exact (Buffer.getElem?_splice room j).trans (if_neg elsewhere)

/-- Sets elements, one after the other. -/
def setElements (cells : CellArray t) : List (Nat × t.Value) → ArenaM Unit
  | [] => pure ()
  | (i, v) :: sets => do
    setElement cells i v
    setElements cells sets

/-- What an element was set to last. -/
def lastSet? (sets : List (Nat × t.Value)) (i : Nat) : Option t.Value := sets.reverse.lookup i

theorem getD_lastSet?_cons (i k : Nat) (v other : t.Value) (sets : List (Nat × t.Value)) :
    (lastSet? ((i, v) :: sets) k).getD other =
      (lastSet? sets k).getD (if k = i then v else other) := by
  unfold lastSet?
  rw [List.reverse_cons, List.lookup_append]
  by_cases same : k = i
  · rw [same, List.lookup_cons_self, if_pos rfl]
    cases sets.reverse.lookup i <;> rfl
  · rw [List.lookup_cons, beq_false_of_ne same, if_neg same]
    cases sets.reverse.lookup k <;> rfl

theorem Reads.setElements (h : Reads before after cells values) (sets : List (Nat × t.Value))
    (inside : ∀ set ∈ sets, set.1 < cells.count) :
    ∃ data, setElements cells sets after = .ok () { after with data } ∧
      Reads before { after with data } cells fun k => (lastSet? sets k).getD (values k) := by
  induction sets generalizing after values with
  | nil => exact ⟨after.data, rfl, h⟩
  | cons set sets ih =>
    obtain ⟨i, v⟩ := set
    obtain ⟨first, later⟩ := List.forall_mem_cons.mp inside
    obtain ⟨data, ran, reads⟩ := h.set first v
    obtain ⟨data', ran', reads'⟩ := ih reads later
    simp only [getD_lastSet?_cons]
    exact ⟨data', (run_bind_ok ran).trans ran', reads'⟩

/-! ### Handing out arrays -/

theorem lies_handOut (t : Scalar) (word : a.capacity < wordLimit)
    (room : start + count * t.size ≤ a.capacity) :
    Lies (a.handOut start (List.replicate (count * t.size) 0))
      (⟨⟨a.id, start, count * t.size⟩, count⟩ : CellArray t) := by
  have owned := @checkOwned_handOut a start (List.replicate (count * t.size) 0) word
    (by rwa [List.length_replicate])
  rw [List.length_replicate] at owned
  exact ⟨owned, rfl⟩

theorem window_handOut (t : Scalar) (room : start + count * t.size ≤ a.capacity)
    (inside : i < count) :
    window (a.handOut start (List.replicate (count * t.size) 0)).data (start + i * t.size) t.size =
      t.encode t.zero := by
  have part : i * t.size + t.size ≤ count * t.size := element_fits t inside
  rw [t.encode_zero]
  apply List.ext_getElem?
  intro j
  rw [Buffer.getElem?_window, handOut_zeros room, List.getElem?_replicate]
  split
  · rw [if_pos (by omega)]
  · rfl

/-- An array that has just been handed out reads as zeros. -/
theorem reads_handOut (t : Scalar) (word : a.capacity < wordLimit)
    (room : start + count * t.size ≤ a.capacity) :
    Reads a (a.handOut start (List.replicate (count * t.size) 0))
      (⟨⟨a.id, start, count * t.size⟩, count⟩ : CellArray t) fun _ => t.zero := by
  have lies := lies_handOut t word room
  refine ⟨lies, fun i among => ?_, fun j outside => ?_⟩
  · rw [lies.element_eq among]
    unfold shown
    rw [window_handOut t room among, Scalar.ofBytes_encode]
  · exact (handOut_zeros room j).trans (if_neg outside)

/-- Memory just handed out is filled with zeros already. -/
theorem fill_handOut (t : Scalar) (word : a.capacity < wordLimit)
    (room : start + count * t.size ≤ a.capacity) :
    let made := a.handOut start (List.replicate (count * t.size) 0)
    writeBytes ⟨a.id, start, count * t.size⟩ 0 (List.replicate count (t.encode t.zero)).flatten made =
      .ok () made := by
  have filled := @writeBytes_handOut a start (List.replicate (count * t.size) 0) word
    (by rwa [List.length_replicate])
  rw [List.length_replicate] at filled
  rw [t.encode_zero, List.flatten_replicate_replicate]
  exact filled

theorem makeArray_past (past : wordLimit ≤ count * t.size) :
    makeArray t count a = .ok (.error (.sizeOverflow count t.size)) a := by
  unfold makeArray
  rw [if_neg (Nat.not_lt.mpr past)]
  rfl

/-- Where there is room an array is handed out full of zeros, and where there is none it is refused. -/
theorem makeArray_at_frontier (t : Scalar) (countable : count * t.size < wordLimit)
    (addressable : alignUp (a.address + a.offset) (max t.align minAlignment) < wordLimit)
    (word : a.capacity < wordLimit) (inside : a.offset ≤ a.capacity) :
    let start := a.frontier (max t.align minAlignment)
    let size := count * t.size
    (start + size ≤ a.capacity ∧ makeArray t count a =
      .ok (.ok ⟨⟨a.id, start, size⟩, count⟩) (a.handOut start (List.replicate size 0))) ∨
    (¬start + size ≤ a.capacity ∧
      makeArray t count a = .ok (.error (.outOfMemory size a.remaining)) a) := by
  intro start size
  unfold makeArray
  rw [if_pos countable]
  rcases alloc_at_frontier size t.isPowerOfTwo_align addressable word inside with
    ⟨room, handed⟩ | ⟨full, refused⟩
  · left
    refine ⟨room, ?_⟩
    rw [run_bind_ok handed]
    exact run_bind_ok (fill_handOut t word room)
  · exact Or.inr ⟨full, run_bind_ok refused⟩

/-! ### Filling in turn -/

theorem setElements_of_shown (lies : a.Lies cells) (sets : List (Nat × t.Value))
    (shown : ∀ set ∈ sets, set.1 < cells.count ∧
      window a.data (cells.block.offset + set.1 * t.size) t.size = t.encode set.2) :
    setElements cells sets a = .ok () a := by
  induction sets with
  | nil => rfl
  | cons set sets ih =>
    obtain ⟨i, v⟩ := set
    obtain ⟨⟨inside, there⟩, later⟩ := List.forall_mem_cons.mp shown
    have ran := lies.setElement_run inside v
    rw [Buffer.splice_of_window (by rwa [Scalar.length_encode])] at ran
    exact (run_bind_ok ran).trans (ih later)

/-- Hands out an array and sets its elements to zero, one after the other. -/
def makeArrayInTurn (t : Scalar) (count : Nat) : ArenaM (Except AllocError (CellArray t)) := do
  if count * t.size < wordLimit then
    match ← alloc (count * t.size) t.align with
    | .ok block =>
      setElements (⟨block, count⟩ : CellArray t) ((List.range count).map (·, t.zero))
      return .ok ⟨block, count⟩
    | .error refusal => return .error refusal
  else
    return .error (.sizeOverflow count t.size)

/-- An array is filled at once as it would be element by element. -/
theorem makeArray_eq_inTurn (t : Scalar) (count : Nat) (word : a.capacity < wordLimit)
    (inside : a.offset ≤ a.capacity) : makeArray t count a = makeArrayInTurn t count a := by
  unfold makeArray makeArrayInTurn
  split
  · rcases alloc_cases a (count * t.size) t.align with ⟨-, failed⟩ | ⟨fault, -, -, failed⟩ |
      ⟨-, -, -, -, refused⟩ | ⟨padding, -, -, -, free, handed⟩
    · rw [run_bind_error failed, run_bind_error failed]
    · rw [run_bind_error failed, run_bind_error failed]
    · rw [run_bind_ok refused, run_bind_ok refused]
    · have room : a.offset + padding + count * t.size ≤ a.capacity := by
        unfold remaining at free
        omega
      have zeros : ∀ set ∈ (List.range count).map (·, t.zero), set.1 < count ∧
          window (a.handOut (a.offset + padding) (List.replicate (count * t.size) 0)).data
            (a.offset + padding + set.1 * t.size) t.size = t.encode set.2 := by
        intro set member
        obtain ⟨i, among, rfl⟩ := List.mem_map.mp member
        have among := List.mem_range.mp among
        exact ⟨among, window_handOut t room among⟩
      rw [run_bind_ok handed, run_bind_ok handed]
      dsimp only
      rw [run_bind_ok (fill_handOut t word room),
        run_bind_ok (setElements_of_shown (lies_handOut t word room) _ zeros)]
  · rfl

end Arena

open Arena (makeArray setElement setElements lastSet?)

/-- Of an array of any type and length, in an arena that machine words can address with an alignment
to spare. An element that was never set is zero. -/
theorem arrays_hold_what_was_set {a : Arena} (inBounds : a.InBounds)
    (addressable : a.address + a.capacity + minAlignment ≤ wordLimit) (t : Scalar) (count : Nat) :
    let size := count * t.size
    let unit := max t.align minAlignment
    (makeArray t count a = .ok (.error (.sizeOverflow count t.size)) a ↔ wordLimit ≤ size) ∧
    (makeArray t count a = .ok (.error (.outOfMemory size a.remaining)) a ↔
      size < wordLimit ∧ ¬∃ start, a.Fits unit size start) ∧
    ((∃ start, a.Fits unit size start) → ∃ start,
      IsLeast {start | a.Fits unit size start} start ∧
      let cells : CellArray t := ⟨⟨a.id, start, size⟩, count⟩
      let made := a.handOut start (List.replicate size 0)
      makeArray t count a = .ok (.ok cells) made ∧
      (∀ i < count, i * t.size + t.size ≤ size ∧ start + (i * t.size + t.size) < wordLimit) ∧
      ∀ sets : List (Nat × t.Value), (∀ set ∈ sets, set.1 < count) →
        ∃ data, setElements cells sets made = .ok () { made with data } ∧
          a.Reads { made with data } cells (fun i => (lastSet? sets i).getD t.zero) ∧
          ∀ i, count ≤ i →
            ({ made with data } : Arena).element cells i = .error (.indexOutOfBounds i count) ∧
            ∀ v, setElement cells i v { made with data } =
              .error (.indexOutOfBounds i count) { made with data }) := by
  intro size unit
  have offset_le := inBounds.offset_le
  have smallest : unit = minAlignment := Nat.max_eq_right t.align_le
  have positive : 0 < unit := max_minAlignment_pos t.align
  have next : alignUp (a.address + a.offset) unit < a.address + a.offset + unit :=
    alignUp_lt _ positive
  have word : a.capacity < wordLimit := by omega
  have exists_iff : (∃ start, a.Fits unit size start) ↔ _ := Arena.exists_fits_iff positive
  rcases Nat.lt_or_ge size wordLimit with countable | past
  · have addressed : alignUp (a.address + a.offset) unit < wordLimit := by omega
    rcases Arena.makeArray_at_frontier t countable addressed word offset_le with
      ⟨room, handed⟩ | ⟨full, refused⟩
    · have first : IsLeast {start | a.Fits unit size start} (a.frontier unit) :=
        ⟨(Arena.fits_frontier_iff positive).mpr room, fun _ fits => fits.frontier_le positive⟩
      refine ⟨?_, ?_, fun _ => ⟨_, first, handed, fun i inside => ?_, fun sets inside => ?_⟩⟩
      · rw [handed]
        exact ⟨nofun, fun past => absurd countable (Nat.not_lt.mpr past)⟩
      · rw [handed]
        exact ⟨nofun, fun ⟨_, nowhere⟩ => absurd (exists_iff.mpr room) nowhere⟩
      · have fits : i * t.size + t.size ≤ size := Arena.element_fits t inside
        have ends : a.frontier unit + size ≤ a.capacity := room
        exact ⟨fits, by omega⟩
      · obtain ⟨data, ran, reads⟩ := (Arena.reads_handOut t word room).setElements sets inside
        exact ⟨data, ran, reads, fun i past => ⟨Arena.element_past _ past,
          Arena.setElement_past _ past⟩⟩
    · refine ⟨?_, ⟨fun _ => ⟨countable, fun some_place => full (exists_iff.mp some_place)⟩,
        fun _ => refused⟩, fun some_place => absurd (exists_iff.mp some_place) full⟩
      rw [refused]
      exact ⟨nofun, fun past => absurd countable (Nat.not_lt.mpr past)⟩
  · have overflows : makeArray t count a = .ok (.error (.sizeOverflow count t.size)) a :=
      Arena.makeArray_past past
    refine ⟨⟨fun _ => past, fun _ => overflows⟩, ?_, fun some_place => ?_⟩
    · rw [overflows]
      exact ⟨nofun, fun ⟨countable, _⟩ => absurd countable (Nat.not_lt.mpr past)⟩
    · have room := exists_iff.mp some_place
      omega

/-- Three characters behind 5 bytes of a buffer at an odd address: the second is set twice, the third
not at all. A thousand do not fit, and 2^62 cannot be counted in bytes. -/
theorem arrays_hold_what_was_set_chars :
    let a : Arena := { id := 1, address := 4097, data := List.replicate 64 7, offset := 5 }
    let cells : CellArray .char := ⟨⟨1, 15, 12⟩, 3⟩
    let sets : List (Nat × Char) := [(1, 'é'), (0, 'a'), (1, '\uFFFD')]
    ∃ made written, makeArray .char 3 a = .ok (.ok cells) made ∧
      setElements cells sets made = .ok () written ∧
      written.element cells 0 = .ok 'a' ∧ written.element cells 1 = .ok '\uFFFD' ∧
      written.element cells 2 = .ok '\x00' ∧
      setElement cells 3 'b' written = .error (.indexOutOfBounds 3 3) written ∧
      makeArray .char 1000 a = .ok (.error (.outOfMemory 4000 59)) a ∧
      makeArray .char 0x4000000000000000 a =
        .ok (.error (.sizeOverflow 0x4000000000000000 4)) a := by
  intro a cells sets
  have inBounds : a.InBounds := ⟨nofun, by decide⟩
  have addressable : a.address + a.capacity + minAlignment ≤ wordLimit := by decide
  have frontier : a.frontier 16 = 15 := by decide
  have place : a.Fits 16 12 15 := ⟨by decide, by decide, by decide⟩
  obtain ⟨-, -, made⟩ := arrays_hold_what_was_set inBounds addressable .char 3
  obtain ⟨start, first, handed, -, holds⟩ := made ⟨15, place⟩
  cases (Arena.eq_frontier_of_isLeast (by decide) first).trans frontier
  obtain ⟨data, ran, reads, past⟩ := holds sets (by decide)
  refine ⟨_, _, handed, ran, reads.element 0 (by decide), reads.element 1 (by decide),
    reads.element 2 (by decide), (past 3 (by decide)).2 'b', ?_, ?_⟩
  · obtain ⟨-, refused, -⟩ := arrays_hold_what_was_set inBounds addressable .char 1000
    refine refused.mpr ⟨by decide, ?_⟩
    rintro ⟨start, -, -, room⟩
    have room : start + 4000 ≤ 64 := room
    omega
  · exact (arrays_hold_what_was_set inBounds addressable .char 0x4000000000000000).1.mpr (by decide)

end FrontEnd.Memory
