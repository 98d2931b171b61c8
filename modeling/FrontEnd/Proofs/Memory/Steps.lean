import FrontEnd.Proofs.Memory.Soundness

/-!
# Requests keep a client sound

`step_sound`: a sound client stays so, and reads the same bytes as before from every block that its
request is not about. One kind of request is excepted. The last block is known by where it starts,
and `Slips` says which empty blocks are taken for it.
-/

namespace FrontEnd.Memory.Client

/-- An empty block that is not the newest would be resized where it lies, because it starts where
the last block does. -/
def Slips (c : Client) (l : Live) (size : Nat) : Prop :=
  c.heap.newest? ≠ some l ∧ l.block.len = 0 ∧ c.arena.last? = some l.block.offset ∧
    size ≤ c.arena.capacity - l.block.offset

instance (c : Client) (l : Live) (size : Nat) : Decidable (c.Slips l size) :=
  inferInstanceAs (Decidable (c.heap.newest? ≠ some l ∧ _ ∧ _ ∧ _))

/-- The request would resize a block that `Slips`. -/
def SlipsOn (c : Client) (request : Request Nat) : Prop :=
  ∃ l ∈ c.heap.live, request.operand? = some l.name ∧ ∃ size ∈ request.size?, c.Slips l size

instance (c : Client) (request : Request Nat) : Decidable (c.SlipsOn request) :=
  inferInstanceAs (Decidable (∃ l ∈ c.heap.live, _ ∧ _))

variable {c : Client} {h : Heap} {l : Live} {name size : Nat}

theorem Sound.newest_or_slips (sound : c.Sound) (live : l ∈ c.heap.live)
    (last : c.arena.last? = some l.block.offset) (room : size ≤ c.arena.capacity - l.block.offset) :
    c.heap.newest? = some l ∨ c.Slips l size := by
  rcases sound.layered.newest_of_last sound.nested.stacked live last with newest | empty
  · exact Or.inl newest
  · by_cases newest : c.heap.newest? = some l
    · exact Or.inl newest
    · exact Or.inr ⟨newest, empty, last, room⟩

/-! ### One request of each kind -/

/-- A request for memory that gets no block leaves the heap as it was. -/
theorem after_of_no_handle {request : Request Nat} {answer : Answer}
    (sized : request.size? = some size) (no_handle : ∀ b, answer ≠ .handle b) :
    h.after request answer = h := by
  cases answer with
  | handle b => exact absurd rfl (no_handle b)
  | done => cases request <;> first | rfl | cases sized
  | refused reason => cases request <;> rfl
  | declined => cases request <;> rfl
  | faulted fault => cases request <;> rfl

theorem step_alloc (sound : c.Sound) (size align : Nat) :
    c.Carries (c.step (.alloc size align)) none := by
  obtain ⟨s, h⟩ := c
  rcases Session.perform_alloc sound.nested.inside size align with ⟨answer, no_handle, same⟩ |
    ⟨start, above, fits, handed⟩
  · rw [step_eq rfl same, after_of_no_handle rfl no_handle]
    exact sound.stays _
  · rw [step_eq rfl handed]
    have zeros := agrees_zeros size
    have room : start + (List.replicate size (0 : UInt8)).length ≤ s.arena.capacity := by
      rw [List.length_replicate]
      exact fits
    have fresh : ∀ l ∈ h.live, l.name ≠ h.next :=
      fun l live => Nat.ne_of_lt (sound.known l live)
    have added := sound.handOut above room fresh (Nat.le_succ _) (Nat.lt_succ_self _) zeros
    rw [List.length_replicate] at added
    exact ⟨added, fun l live _ => bytes_handOut room (Nat.le_trans (sound.finish_le live) above)⟩

theorem step_realloc (sound : c.Sound) (live : l ∈ c.heap.live) (size align : Nat)
    (steady : ¬c.Slips l size) :
    c.Carries (c.step (.realloc l.name size align)) (some l.name) := by
  obtain ⟨s, h⟩ := c
  rcases Session.perform_realloc sound.nested.inside l.block size align with
    ⟨answer, no_handle, same⟩ | ⟨owned, last, room, resized⟩ |
    ⟨-, -, start, content, above, fits, rfl, kept, moved⟩
  · rw [sound.step_of_live live rfl same, after_of_no_handle rfl no_handle]
    exact sound.stays _
  · have newest := (sound.newest_or_slips live last room).resolve_right steady
    have filled : ∀ v, some (0 : UInt8) = some v →
        List.replicate (size - l.block.len) 0 = List.replicate (size - l.block.len) v := by
      rintro v ⟨⟩
      rfl
    have carries := sound.refit newest last room (Nat.le_of_eq List.length_replicate) filled
    rw [← Heap.add_drop_newest sound.named newest] at carries
    rw [sound.step_of_live live rfl resized]
    exact carries
  · rw [sound.step_of_live live rfl moved]
    -- the old block ends before the new one starts, so the copy reads what it held
    have below := Nat.le_trans (sound.finish_le live) above
    have agrees := (sound.holds l live).moved (kept below)
    have fresh : ∀ k ∈ (h.drop l.name).live, k.name ≠ l.name := by
      intro k other
      rw [Heap.live_drop] at other
      exact bne_iff_ne.mp (List.mem_filter.mp other).2
    have added := (sound.drop l.name).handOut above fits fresh (Nat.le_refl _)
      (sound.known l live) agrees
    exact ⟨added, fun k other _ => bytes_handOut fits (Nat.le_trans (sound.finish_le other) above)⟩

theorem step_resize (sound : c.Sound) (live : l ∈ c.heap.live) (size : Nat)
    (steady : ¬c.Slips l size) : c.Carries (c.step (.resize l.name size)) (some l.name) := by
  obtain ⟨s, h⟩ := c
  rcases Session.perform_resize l.block size with ⟨answer, no_handle, same⟩ |
    ⟨owned, last, room, resized⟩
  · rw [sound.step_of_live live rfl same, after_of_no_handle rfl no_handle]
    exact sound.stays _
  · have newest := (sound.newest_or_slips live last room).resolve_right steady
    have unfilled : ∀ v : UInt8, none = some v → [] = List.replicate (size - l.block.len) v := by
      rintro v ⟨⟩
    have carries := sound.refit newest last room (Nat.zero_le _) unfilled
    rw [← Heap.rehandle_newest sound.named newest] at carries
    rw [sound.step_of_live live rfl resized]
    exact carries

theorem step_write (sound : c.Sound) (live : l ∈ c.heap.live) (start : Nat) (bytes : List UInt8) :
    c.Carries (c.step (.write l.name start bytes)) (some l.name) := by
  obtain ⟨s, h⟩ := c
  rcases Session.perform_write l.block start bytes with ⟨fault, same⟩ | ⟨owned, fits, written⟩
  · rw [sound.step_of_live live rfl same]
    exact sound.stays _
  · rw [sound.step_of_live live rfl written]
    exact sound.write live fits

theorem step_free (sound : c.Sound) (live : l ∈ c.heap.live) (align : Nat) :
    c.Carries (c.step (.free l.name align)) (some l.name) := by
  obtain ⟨s, h⟩ := c
  rw [sound.step_of_live live rfl (Session.perform_free l.block align)]
  exact ⟨sound.drop l.name, fun _ _ _ => rfl⟩

theorem step_freeAll (sound : c.Sound) : c.Carries (c.step .freeAll) none := by
  obtain ⟨s, h⟩ := c
  have nested := (Session.perform_nested sound.nested (Or.inl rfl) .freeAll).1
  rcases Session.perform_freeAll (s := s) with ⟨fault, same⟩ | ⟨closed, emptied⟩
  · rw [step_eq rfl same]
    exact sound.stays _
  · rw [emptied] at nested
    rw [step_eq rfl emptied]
    exact ⟨sound.emptied closed nested, fun _ _ _ => rfl⟩

theorem step_openRegion (sound : c.Sound) : c.Carries (c.step .openRegion) none := by
  obtain ⟨s, h⟩ := c
  have nested := (Session.perform_nested sound.nested (Or.inl rfl) .openRegion).1
  rcases Session.perform_openRegion (s := s) with ⟨fault, failed⟩ | ⟨-, opened⟩
  · rw [failed] at nested
    rw [step_eq rfl failed]
    exact ⟨sound.without_last nested, fun _ _ _ => rfl⟩
  · rw [opened] at nested
    rw [step_eq rfl opened]
    exact ⟨sound.opened nested, fun _ _ _ => rfl⟩

theorem step_closeRegion (sound : c.Sound) : c.Carries (c.step .closeRegion) none := by
  obtain ⟨⟨arena, guards⟩, h⟩ := c
  cases guards with
  | nil => exact sound.stays _
  | cons guard guards =>
    have nested := (Session.perform_nested sound.nested (Or.inl rfl) .closeRegion).1
    have counted : arena.regions.toNat = 0 + (guards.length + 1) := sound.nested.counted
    have above : guard.offset ≤ arena.offset := sound.nested.stacked.1.1
    have closes := @Session.perform_closeRegion arena guard guards (by omega) above
    rw [closes] at nested
    rw [step_eq rfl closes]
    exact ⟨sound.closed nested, fun _ _ _ => rfl⟩

theorem exists_live {request : Request Nat} (resolves : request.resolve? c.heap.block? ≠ none)
    (about : request.operand? = some name) : ∃ l ∈ c.heap.live, l.name = name := by
  cases found : c.heap.block? name with
  | some block =>
    obtain ⟨l, live, named, -⟩ := Heap.live_of_block? found
    exact ⟨l, live, named⟩
  | none => cases request <;> cases about <;> simp [Request.resolve?, found] at resolves

/-! ### Any requests -/

/-- A sound client stays so, whatever it requests, unless the request slips. -/
theorem step_sound (sound : c.Sound) (request : Request Nat) (steady : ¬c.SlipsOn request) :
    c.Carries (c.step request) request.operand? := by
  by_cases dead : request.resolve? c.heap.block? = none
  · rw [step_of_dead dead]
    exact sound.stays _
  cases request with
  | alloc size align => exact step_alloc sound size align
  | realloc name size align =>
    obtain ⟨l, live, rfl⟩ := exists_live dead rfl
    exact step_realloc sound live size align fun slips => steady ⟨l, live, rfl, size, rfl, slips⟩
  | resize name size =>
    obtain ⟨l, live, rfl⟩ := exists_live dead rfl
    exact step_resize sound live size fun slips => steady ⟨l, live, rfl, size, rfl, slips⟩
  | write name start bytes =>
    obtain ⟨l, live, rfl⟩ := exists_live dead rfl
    exact step_write sound live start bytes
  | free name align =>
    obtain ⟨l, live, rfl⟩ := exists_live dead rfl
    exact step_free sound live align
  | freeAll => exact step_freeAll sound
  | openRegion => exact step_openRegion sound
  | closeRegion => exact step_closeRegion sound

/-- No request of a session slips. -/
def Careful : Client → List (Request Nat) → Prop
  | _, [] => True
  | c, request :: rest => ¬c.SlipsOn request ∧ Careful (c.step request) rest

instance decidableCareful (c : Client) : (requests : List (Request Nat)) →
    Decidable (c.Careful requests)
  | [] => isTrue trivial
  | request :: rest =>
    have := decidableCareful (c.step request) rest
    inferInstanceAs (Decidable (¬c.SlipsOn request ∧ Careful (c.step request) rest))

theorem run_sound (sound : c.Sound) {requests : List (Request Nat)} (careful : c.Careful requests) :
    (c.run requests).Sound := by
  induction requests generalizing c with
  | nil => exact sound
  | cons request rest ih => exact ih (step_sound sound request careful.1).sound careful.2

end FrontEnd.Memory.Client
