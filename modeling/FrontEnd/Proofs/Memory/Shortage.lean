import FrontEnd.Proofs.Memory.Placement
import FrontEnd.Proofs.Memory.Resizing
import FrontEnd.Proofs.Memory.Seat

/-!
# What refusals leave behind

Space that runs out is answered by a refusal. Whoever is refused leaves the arena as it was
(`Arena.KeptIfRefused`), though a cell is handed out before it is filled and a block moves only after
it could not be resized. The last block is refused exactly if it has no room where it lies: any other
place would be after that (`Arena.realloc_last`).
-/

namespace FrontEnd.Memory

namespace Arena

variable {a : Arena} {b : Block} {size align : Nat}

/-- A computation leaves the arena alone if it is refused there. -/
def KeptIfRefused {α : Type} (a : Arena) (x : ArenaM (Except AllocError α)) : Prop :=
  ∀ refusal a', x a = .ok (.error refusal) a' → a' = a

/-! ### Who is refused -/

theorem keptIfRefused_alloc (size align : Nat) : a.KeptIfRefused (alloc size align) := by
  intro refusal a' came
  rcases alloc_cases a size align with ⟨-, failed⟩ | ⟨fault, -, -, failed⟩ |
    ⟨-, -, -, -, refused⟩ | ⟨padding, -, -, -, -, handed⟩
  · cases failed.symm.trans came
  · cases failed.symm.trans came
  · cases refused.symm.trans came
    rfl
  · cases handed.symm.trans came

/-- Whoever passes refusals on, and goes on with what was handed out without asking for more, is
refused only when the first request is. -/
theorem KeptIfRefused.bind {α β : Type} {x : ArenaM (Except AllocError α)}
    {f : Except AllocError α → ArenaM (Except AllocError β)} (kept : a.KeptIfRefused x)
    (passes : ∀ refusal, f (.error refusal) = pure (.error refusal))
    (settled : ∀ v s refusal s', f (.ok v) s ≠ .ok (.error refusal) s') :
    a.KeptIfRefused (x >>= f) := by
  intro refusal a' came
  obtain ⟨answer, s, ran, onward⟩ := run_bind_eq_ok came
  cases answer with
  | ok v => exact absurd onward (settled v s refusal a')
  | error first =>
    rw [passes] at onward
    cases onward
    exact kept refusal a' ran

theorem filled_ne_refusal {α : Type} {x : ArenaM Unit} {v : α} {s s' : Arena}
    {refusal : AllocError} :
    (x >>= fun _ => pure (Except.ok v)) s ≠ .ok (.error refusal) s' := by
  intro came
  obtain ⟨_, _, -, done⟩ := run_bind_eq_ok came
  cases done

theorem keptIfRefused_make (t : Scalar) : a.KeptIfRefused (make t) :=
  (keptIfRefused_alloc t.size t.align).bind (fun _ => rfl) fun _ _ _ _ => filled_ne_refusal

theorem keptIfRefused_makeArray (t : Scalar) (count : Nat) :
    a.KeptIfRefused (makeArray t count) := by
  unfold makeArray
  split
  · exact (keptIfRefused_alloc _ t.align).bind (fun _ => rfl) fun _ _ _ _ => filled_ne_refusal
  · intro refusal a' came
    cases came
    rfl

theorem keptIfRefused_realloc (inside : a.offset ≤ a.capacity) (b : Block) (size align : Nat) :
    a.KeptIfRefused (realloc b size align) := by
  intro refusal a' came
  rcases realloc_cases (a.judges b) inside size align with ⟨fault, -, failed⟩ | refused |
    ⟨-, -, -, resized⟩ | ⟨-, -, padding, content, -, -, -, -, -, -, moved⟩
  · cases failed.symm.trans came
  · cases refused.symm.trans came
    rfl
  · cases resized.symm.trans came
  · cases moved.symm.trans came

theorem owned_of_realloc {answer : Except AllocError Block} {a' : Arena}
    (came : realloc b size align a = .ok answer a') : a.checkOwned b = .ok () := by
  cases check : a.checkOwned b with
  | ok => rfl
  | error fault =>
    cases (realloc_of_foreign size align check).symm.trans came

/-! ### The last block -/

/-- The last block stays where it lies, or there is no room for it. It is never moved. -/
theorem realloc_last (size : Nat) (inBounds : a.InBounds) (owned : a.checkOwned b = .ok ())
    (last : a.last? = some b.offset) (power : align.isPowerOfTwo) :
    (b.offset + size ≤ a.capacity ∧ realloc b size align a =
      .ok (.ok { b with len := size }) (a.refit b size (List.replicate (size - b.len) 0))) ∨
    (a.capacity < b.offset + size ∧
      alignUp (a.address + a.offset) (max align minAlignment) < wordLimit ∧
      realloc b size align a = .ok (.error (.outOfMemory size a.remaining)) a) ∨
    (a.capacity < b.offset + size ∧
      wordLimit ≤ alignUp (a.address + a.offset) (max align minAlignment) ∧
      ∃ fault, realloc b size align a = .error fault a) := by
  have starts := inBounds.last_le b.offset last
  have within := inBounds.offset_le
  by_cases room : b.offset + size ≤ a.capacity
  · exact Or.inl ⟨room, realloc_in_place align owned last (by omega)⟩
  right
  have full : a.capacity < b.offset + size := Nat.lt_of_not_le room
  have stuck : ¬(a.last? = some b.offset ∧ size ≤ a.capacity - b.offset) := fun ⟨_, fits⟩ => by omega
  have moves : resize? b size a = .ok none a := resize_declined owned stuck
  rcases alloc_cases a size align with ⟨odd, -⟩ | ⟨fault, -, overflows, failed⟩ |
    ⟨padding, -, skipped, -, refused⟩ | ⟨padding, -, -, -, free, -⟩
  · rw [isAlignment_iff.mpr power] at odd
    cases odd
  · refine Or.inr ⟨full, ?_, fault, realloc_of_fault moves failed⟩
    apply Nat.le_of_not_lt
    intro short
    cases (padding_eq_ok_iff.mpr ⟨short, rfl⟩).symm.trans overflows
  · exact Or.inl ⟨full, (padding_eq_ok_iff.mp skipped).1, realloc_of_refusal moves refused⟩
  · -- what is free lies after the last block, which had no room
    unfold remaining at free
    omega

end Arena

open Arena (realloc make makeArray)

/-- Of any arena whose last block starts in the part in use. In the lower half of the machine's
addresses padding does not run past the last word, so there the last block cannot fault. -/
theorem refusals_change_nothing {a : Arena} (inBounds : a.InBounds) :
    (∀ b size align refusal a', realloc b size align a = .ok (.error refusal) a' →
      a' = a ∧ (∃ bytes, a.bytes b = .ok bytes ∧ a'.bytes b = .ok bytes) ∧
        ∀ other, a'.Resizes b other ↔ a.Resizes b other) ∧
    (∀ t, a.KeptIfRefused (make t)) ∧
    (∀ t count, a.KeptIfRefused (makeArray t count)) ∧
    ∀ b size align, a.checkOwned b = .ok () → a.last? = some b.offset → align.isPowerOfTwo →
      ((∃ kept a', realloc b size align a = .ok (.ok kept) a') ↔ b.offset + size ≤ a.capacity) ∧
      (a.address + a.capacity ≤ 0x8000000000000000 → align < wordLimit →
        ((∃ refusal a', realloc b size align a = .ok (.error refusal) a') ↔
          a.capacity < b.offset + size)) := by
  refine ⟨?_, Arena.keptIfRefused_make, Arena.keptIfRefused_makeArray, ?_⟩
  · intro b size align refusal a' came
    have shown := Arena.bytes_of_owned (Arena.owned_of_realloc came)
    obtain rfl := Arena.keptIfRefused_realloc inBounds.offset_le b size align refusal a' came
    exact ⟨rfl, ⟨_, shown, shown⟩, fun _ => Iff.rfl⟩
  · intro b size align owned last power
    rcases Arena.realloc_last size inBounds owned last power with ⟨room, kept⟩ |
      ⟨full, -, refused⟩ | ⟨full, past, fault, failed⟩
    · rw [kept]
      refine ⟨⟨fun _ => room, fun _ => ⟨_, _, rfl⟩⟩, fun _ _ => ⟨?_, fun full => ?_⟩⟩
      · rintro ⟨refusal, a', ⟨⟩⟩
      · exact absurd room (Nat.not_le.mpr full)
    · rw [refused]
      refine ⟨⟨?_, fun room => ?_⟩, fun _ _ => ⟨fun _ => full, fun _ => ⟨_, _, rfl⟩⟩⟩
      · rintro ⟨kept, a', ⟨⟩⟩
      · exact absurd room (Nat.not_le.mpr full)
    · rw [failed]
      refine ⟨⟨?_, fun room => ?_⟩, fun low bounded => ?_⟩
      · rintro ⟨kept, a', ⟨⟩⟩
      · exact absurd room (Nat.not_le.mpr full)
      · have here : a.address + a.offset ≤ 0x8000000000000000 :=
          Nat.le_trans (Nat.add_le_add_left inBounds.offset_le _) low
        have unit : max align minAlignment < wordLimit := Nat.max_lt.mpr ⟨bounded, by decide⟩
        have short := alignUp_lt_wordLimit here (isPowerOfTwo_max power) unit
        exact absurd short (Nat.not_lt.mpr past)

/-- Of a buffer of 64 bytes with 36 in use, the last 20 of which can become 48 and not 49. There is no
room for an array of four words either. -/
theorem refusals_change_nothing_nearlyFull :
    let a : Arena :=
      { id := 1, address := 4096, data := List.replicate 64 7, offset := 36, last? := some 16 }
    let b : Block := ⟨1, 16, 20⟩
    (∃ kept a', realloc b 48 64 a = .ok (.ok kept) a') ∧
    (∃ refusal, realloc b 49 64 a = .ok (.error refusal) a) ∧
    (∃ bytes, a.bytes b = .ok bytes) ∧
    makeArray (.unsigned .w64) 4 a = .ok (.error (.outOfMemory 32 28)) a := by
  intro a b
  have inBounds : a.InBounds := ⟨by rintro start ⟨⟩; decide, by decide⟩
  have owned : a.checkOwned b = .ok () := by decide
  have power : Nat.isPowerOfTwo 64 := ⟨6, rfl⟩
  obtain ⟨moving, -, arrays, last⟩ := refusals_change_nothing inBounds
  obtain ⟨refusal, a', refused⟩ := ((last b 49 64 owned rfl power).2 (by decide) (by decide)).mpr
    (by decide)
  obtain ⟨rfl, ⟨bytes, shown, -⟩, -⟩ := moving b 49 64 refusal a' refused
  refine ⟨(last b 48 64 owned rfl power).1.mpr (by decide), ⟨refusal, refused⟩, ⟨bytes, shown⟩, ?_⟩
  have none_made : (makeArray (.unsigned .w64) 4).run' a = some (.error (.outOfMemory 32 28)) := by
    decide +kernel
  obtain ⟨a', came⟩ := run_of_run' none_made
  cases arrays _ _ _ a' came
  exact came

end FrontEnd.Memory
