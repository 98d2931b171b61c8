import FrontEnd.Proofs.Memory.Heap

/-!
# What blocks hold

`Holds` ties the bytes that a heap knows of a block to the buffer of an arena. For each change that
an arena makes to its buffer, a lemma says what the block concerned holds after it, and another
that no block beside it is affected.
-/

namespace FrontEnd.Memory

/-- Bytes that are as far as they are known. -/
def Agrees (known : List (Option UInt8)) (bytes : List UInt8) : Prop :=
  known.length = bytes.length ∧
    ∀ (i : Nat) (v : UInt8), known[i]? = some (some v) → bytes[i]? = some v

/-- A block that can be read, and reads as known. -/
def Holds (a : Arena) (b : Block) (known : List (Option UInt8)) : Prop :=
  ∃ bytes, a.bytes b = .ok bytes ∧ Agrees known bytes

theorem Holds.congr {a a' : Arena} {b : Block} {known : List (Option UInt8)} (h : Holds a b known)
    (same : a'.bytes b = a.bytes b) : Holds a' b known := by
  obtain ⟨bytes, read, agrees⟩ := h
  exact ⟨bytes, same.trans read, agrees⟩

theorem agrees_zeros (size : Nat) :
    Agrees (List.replicate size (some 0)) (List.replicate size 0) := by
  refine ⟨by rw [List.length_replicate, List.length_replicate], ?_⟩
  intro i v known
  rw [List.getElem?_replicate] at known ⊢
  split at known
  · rename_i inside
    rw [if_pos inside]
    simpa using known
  · cases known

theorem Agrees.fit {known : List (Option UInt8)} {bytes bytes' : List UInt8} {size : Nat}
    {added : Option UInt8} (h : Agrees known bytes) (length : bytes'.length = size)
    (kept : bytes'.take bytes.length = bytes.take size)
    (new : ∀ i v, added = some v → bytes.length ≤ i → i < size → bytes'[i]? = some v) :
    Agrees (Heap.fit known size added) bytes' := by
  obtain ⟨same, read⟩ := h
  have taken : (known.take size).length = min size bytes.length := by
    rw [List.length_take, same]
  unfold Heap.fit
  refine ⟨?_, ?_⟩
  · rw [List.length_append, taken, List.length_replicate, same, length]
    omega
  · intro i v at_i
    by_cases low : i < min size bytes.length
    · rw [List.getElem?_append_left (by omega), List.getElem?_take_of_lt (by omega)] at at_i
      have old := read i v at_i
      rw [← List.getElem?_take_of_lt (show i < size by omega), ← kept,
        List.getElem?_take_of_lt (by omega)] at old
      exact old
    · rw [List.getElem?_append_right (by omega), taken, List.getElem?_replicate] at at_i
      split at at_i
      · rename_i inside
        rw [same] at inside
        exact new i v (Option.some.inj at_i) (by omega) (by omega)
      · cases at_i

theorem Agrees.overwritten {known : List (Option UInt8)} {bytes new : List UInt8} {start : Nat}
    (h : Agrees known bytes) (fits : start + new.length ≤ bytes.length) :
    Agrees (Heap.overwritten known start new) (Buffer.splice bytes start new) := by
  obtain ⟨same, read⟩ := h
  have before : (known.take start).length = start := by
    rw [List.length_take]
    omega
  have upTo : (known.take start ++ new.map some).length = start + new.length := by
    rw [List.length_append, before, List.length_map]
  unfold Heap.overwritten
  refine ⟨?_, ?_⟩
  · rw [Buffer.length_splice fits, List.length_append, upTo, List.length_drop]
    omega
  · intro i v at_i
    rw [Buffer.getElem?_splice fits]
    by_cases low : i < start
    · rw [List.append_assoc, List.getElem?_append_left (by omega),
        List.getElem?_take_of_lt low] at at_i
      rw [if_neg (by omega)]
      exact read i v at_i
    by_cases mid : i < start + new.length
    · rw [List.getElem?_append_left (by omega), List.getElem?_append_right (by omega), before,
        List.getElem?_map] at at_i
      rw [if_pos ⟨by omega, mid⟩]
      simpa using at_i
    · rw [List.getElem?_append_right (by omega), upTo, List.getElem?_drop,
        show start + new.length + (i - (start + new.length)) = i by omega] at at_i
      rw [if_neg (by omega)]
      exact read i v at_i

variable {a : Arena} {b : Block} {known : List (Option UInt8)} {start size : Nat}
  {content new : List UInt8}

/-! ### Handing out -/

theorem holds_handOut (word : a.capacity < wordLimit)
    (fits : start + content.length ≤ a.capacity) (agrees : Agrees known content) :
    Holds (a.handOut start content) ⟨a.id, start, content.length⟩ known :=
  ⟨content, Arena.bytes_handOut_self word fits, agrees⟩

theorem bytes_handOut (fits : start + content.length ≤ a.capacity) (below : b.finish ≤ start) :
    (a.handOut start content).bytes b = a.bytes b :=
  Arena.bytes_congr rfl (Buffer.length_splice fits) (Buffer.window_splice_apart fits (Or.inl below))

/-- The common bytes of a block, with zeros after them, agree with what is known of the block made
up with zeros. -/
theorem Holds.moved (h : Holds a b known)
    (copied : content =
      Buffer.window a.data b.offset (min b.len size) ++ List.replicate (size - b.len) 0) :
    Agrees (Heap.fit known size (some 0)) content := by
  obtain ⟨bytes, read, agrees⟩ := h
  obtain ⟨-, -, inside, rfl⟩ := Arena.bytes_eq_ok_iff.mp read
  unfold Block.finish at inside
  have shown : (Buffer.window a.data b.offset b.len).length = b.len := Buffer.length_window inside
  have common : (Buffer.window a.data b.offset (min b.len size)).length = min b.len size :=
    Buffer.length_window (by unfold Arena.capacity at inside; omega)
  refine agrees.fit ?_ ?_ ?_
  · rw [copied, List.length_append, common, List.length_replicate]
    omega
  · rw [copied, shown, Buffer.take_window, Nat.min_comm size]
    by_cases grows : b.len ≤ size
    · rw [List.take_append_of_le_length (by omega), Buffer.take_window]
      congr 1
      omega
    · rw [show size - b.len = 0 by omega, List.replicate_zero, List.append_nil,
        List.take_of_length_le (by omega)]
  · rintro i v ⟨⟩ past low
    rw [copied, List.getElem?_append_right (by omega), List.getElem?_replicate, if_pos (by omega)]

/-! ### Resizing -/

theorem bytes_refit {last : Block} (room : last.offset + size ≤ a.capacity)
    (inside : last.finish ≤ a.capacity) (short : content.length ≤ size - last.len)
    (below : b.finish ≤ last.offset) : (a.refit last size content).bytes b = a.bytes b := by
  unfold Block.finish at inside below
  have fits : last.finish + content.length ≤ a.data.length := by
    unfold Arena.capacity at room inside
    unfold Block.finish
    omega
  exact Arena.bytes_congr rfl (Buffer.length_splice fits)
    (Buffer.window_splice_apart fits (Or.inl (by unfold Block.finish; omega)))

/-- A block given another size keeps the common bytes. What growth adds is known only if it was
filled. -/
theorem Holds.refit {added : Option UInt8} (h : Holds a b known) (word : a.capacity < wordLimit)
    (room : b.offset + size ≤ a.capacity) (short : content.length ≤ size - b.len)
    (filled : ∀ v, added = some v → content = List.replicate (size - b.len) v) :
    Holds (a.refit b size content) { b with len := size } (Heap.fit known size added) := by
  obtain ⟨bytes, read, agrees⟩ := h
  obtain ⟨owner, -, inside, rfl⟩ := Arena.bytes_eq_ok_iff.mp read
  have fits : b.finish + content.length ≤ a.data.length := by
    unfold Arena.capacity at room inside
    unfold Block.finish at inside ⊢
    omega
  have capacity : (a.refit b size content).capacity = a.capacity := Buffer.length_splice fits
  have shown : (Buffer.window a.data b.offset b.len).length = b.len := Buffer.length_window inside
  refine ⟨Buffer.window (a.refit b size content).data b.offset size,
    Arena.bytes_eq_ok_iff.mpr ⟨owner, Nat.lt_of_le_of_lt room word, ?_, rfl⟩, ?_⟩
  · rw [capacity]
    exact room
  refine agrees.fit ?_ ?_ ?_
  · exact Buffer.length_window (by rw [← capacity] at room; exact room)
  · rw [shown, Buffer.take_window, Buffer.take_window, Nat.min_comm size]
    exact Buffer.window_splice_apart fits (Or.inl (by unfold Block.finish; omega))
  · intro i v given past low
    rw [shown] at past
    rw [Buffer.getElem?_window, if_pos low]
    unfold Arena.refit
    dsimp only
    rw [filled v given] at fits ⊢
    rw [Buffer.getElem?_splice fits, List.length_replicate]
    unfold Block.finish
    rw [if_pos (by omega), List.getElem?_replicate, if_pos (by omega)]

/-! ### Writing -/

theorem bytes_write {other : Block} (inside : b.finish ≤ a.capacity)
    (fits : start + new.length ≤ b.len)
    (apart : b.finish ≤ other.offset ∨ other.finish ≤ b.offset) :
    ({ a with data := Buffer.splice a.data (b.offset + start) new } : Arena).bytes other =
      a.bytes other := by
  unfold Block.finish at inside apart
  have room : b.offset + start + new.length ≤ a.data.length := by
    unfold Arena.capacity at inside
    omega
  exact Arena.bytes_congr rfl (Buffer.length_splice room)
    (Buffer.window_splice_apart room (by omega))

theorem Holds.write (h : Holds a b known) (fits : start + new.length ≤ b.len) :
    Holds { a with data := Buffer.splice a.data (b.offset + start) new } b
      (Heap.overwritten known start new) := by
  obtain ⟨bytes, read, agrees⟩ := h
  obtain ⟨owner, short, inside, rfl⟩ := Arena.bytes_eq_ok_iff.mp read
  have shown : (Buffer.window a.data b.offset b.len).length = b.len := Buffer.length_window inside
  have room : b.offset + start + new.length ≤ a.data.length := by
    unfold Arena.capacity Block.finish at inside
    omega
  refine ⟨_, Arena.bytes_eq_ok_iff.mpr ⟨owner, short, ?_, rfl⟩, ?_⟩
  · exact Nat.le_trans inside (Nat.le_of_eq (Buffer.length_splice room).symm)
  · rw [Buffer.window_splice_inside inside fits]
    exact agrees.overwritten (by rw [shown]; exact fits)

end FrontEnd.Memory
