import FrontEnd.Proofs.Memory.Steps

/-!
# An arena refines a heap

`arena_refines_heap`: as long as a client asks for no empty block, its live blocks are disjoint and
lie in the part of the buffer in use, each reads as the heap says, and no request about one block
shows in another.
-/

namespace FrontEnd.Memory

/-- The request asks for no empty block. -/
def Request.Positive {β : Type} (request : Request β) : Prop := ∀ size ∈ request.size?, 0 < size

instance {β : Type} (request : Request β) : Decidable request.Positive :=
  inferInstanceAs (Decidable (∀ size ∈ request.size?, 0 < size))

namespace Client

variable {c : Client} {s s' : Session} {h : Heap} {l : Live} {request : Request Nat}
  {resolved : Request Block} {answer : Answer} {b : Block}

/-! ### Sizes of blocks -/

theorem len_of_handle {size : Nat} (inside : s.arena.offset ≤ s.arena.capacity)
    (sized : resolved.size? = some size) (performed : s.perform resolved = (.handle b, s')) :
    b.len = size := by
  have distinct {answer : Answer} {s'' : Session} (no_handle : ∀ b, answer ≠ .handle b)
      (same : s.perform resolved = (answer, s'')) : False :=
    no_handle b (congrArg Prod.fst (same.symm.trans performed))
  cases resolved with
  | alloc asked align =>
    cases sized
    rcases Session.perform_alloc inside size align with ⟨answer, no_handle, same⟩ | ⟨_, -, -, handed⟩
    · exact (distinct no_handle same).elim
    · cases handed.symm.trans performed
      rfl
  | realloc block asked align =>
    cases sized
    rcases Session.perform_realloc inside block size align with
      ⟨answer, no_handle, same⟩ | ⟨-, -, -, resized⟩ | ⟨-, -, _, _, -, -, -, -, moved⟩
    · exact (distinct no_handle same).elim
    · cases resized.symm.trans performed
      rfl
    · cases moved.symm.trans performed
      rfl
  | resize block asked =>
    cases sized
    rcases Session.perform_resize block size with ⟨answer, no_handle, same⟩ | ⟨-, -, -, resized⟩
    · exact (distinct no_handle same).elim
    · cases resized.symm.trans performed
      rfl
  | _ => cases sized

/-- A block is live only if it was before, or is what was asked for. -/
theorem live_after (live : l ∈ (h.after request answer).live) :
    l ∈ h.live ∨ ∃ size, request.size? = some size ∧ answer = .handle l.block := by
  unfold Heap.after at live
  split at live
  · rcases List.mem_cons.mp live with rfl | old
    · exact Or.inr ⟨_, rfl, rfl⟩
    · exact Or.inl old
  · rcases List.mem_cons.mp live with rfl | old
    · exact Or.inr ⟨_, rfl, rfl⟩
    · have kept : l ∈ (h.drop _).live := old
      rw [Heap.live_drop] at kept
      exact Or.inl (List.mem_filter.mp kept).1
  · rcases Heap.mem_rehandle live with old | rfl
    · exact Or.inl old
    · exact Or.inr ⟨_, rfl, rfl⟩
  · exact Or.inl live
  · rw [Heap.live_drop] at live
    exact Or.inl (List.mem_filter.mp live).1
  · cases live
  · exact Or.inl live
  · split at live
    · exact Or.inl live
    · rename_i scope outer around
      left
      unfold Heap.live
      rw [around]
      exact List.mem_append_right _ live
  · exact Or.inl live

theorem size_of_resolve? {β γ : Type} {handle? : β → Option γ} {request : Request β}
    {resolved : Request γ} (resolves : request.resolve? handle? = some resolved) :
    resolved.size? = request.size? := by
  cases request with
  | realloc | resize | write | free =>
    obtain ⟨b, -, rfl⟩ := Option.map_eq_some_iff.mp resolves
    rfl
  | alloc | freeAll | openRegion | closeRegion =>
    cases resolves
    rfl

/-! ### Positive requests -/

/-- No live block is empty. -/
def Solid (c : Client) : Prop := ∀ l ∈ c.heap.live, 0 < l.block.len

theorem step_solid (sound : c.Sound) (solid : c.Solid) (positive : request.Positive) :
    (c.step request).Solid := by
  intro l live
  cases resolves : request.resolve? c.heap.block? with
  | none =>
    rw [step_of_dead resolves] at live
    exact solid l live
  | some resolved =>
    rw [step_eq resolves rfl] at live
    rcases live_after live with old | ⟨size, sized, answered⟩
    · exact solid l old
    · have asked := (size_of_resolve? resolves).trans sized
      have same := len_of_handle sound.nested.inside asked (Prod.ext answered rfl)
      rw [same]
      exact positive size sized

/-- Only an empty block is taken for the last one. -/
theorem Solid.not_slipsOn (solid : c.Solid) (request : Request Nat) : ¬c.SlipsOn request := by
  rintro ⟨l, live, -, size, -, -, empty, -⟩
  exact Nat.ne_of_gt (solid l live) empty

theorem run_solid (sound : c.Sound) (solid : c.Solid) {requests : List (Request Nat)}
    (positive : ∀ request ∈ requests, request.Positive) :
    (c.run requests).Sound ∧ (c.run requests).Solid := by
  induction requests generalizing c with
  | nil => exact ⟨sound, solid⟩
  | cons request rest ih =>
    have stepped := (step_sound sound request (solid.not_slipsOn request)).sound
    have still := step_solid sound solid (positive request List.mem_cons_self)
    exact ih stepped still fun later member => positive later (List.mem_cons_of_mem request member)

end Client

/-- In any session of requests about live blocks, with whatever faults, over a buffer that machine
words can address. -/
theorem arena_refines_heap {data : List UInt8} (word : data.length < wordLimit) (id : UInt32)
    (address : Nat) {requests : List (Request Nat)}
    (positive : ∀ request ∈ requests, request.Positive) :
    let c := (Client.new id address data).run requests
    c.heap.live.Pairwise (fun k l => k.block.Disjoint l.block) ∧
    (∀ l ∈ c.heap.live,
      l.block.finish ≤ c.arena.offset ∧ Holds c.arena l.block (c.heap.held l.name)) ∧
    ∀ request : Request Nat, ∀ l ∈ c.heap.live, request.operand? ≠ some l.name →
      (c.step request).arena.bytes l.block = c.arena.bytes l.block := by
  intro c
  have started := Client.new_sound word id address
  obtain ⟨sound, solid⟩ := Client.run_solid started (by rintro l ⟨⟩) positive
  refine ⟨sound.disjoint, fun l live => ⟨sound.finish_le live, sound.holds l live⟩, ?_⟩
  intro request l live other
  exact (Client.step_sound sound request (solid.not_slipsOn request)).apart l live other

/-- A session in which a block shrinks, another moves past it, and a region comes and goes. -/
def moves : List (Request Nat) :=
  [.alloc 16 1, .alloc 8 4, .write 1 2 [5, 6], .resize 1 4, .realloc 0 20 16, .openRegion,
    .alloc 4 1, .write 2 0 [9], .closeRegion]

theorem moves_refine_heap :
    let c := (Client.new 1 4096 (List.replicate 64 7)).run moves
    c.heap.live = [⟨0, 1, 32, 20⟩, ⟨1, 1, 16, 4⟩] ∧ c.arena.offset = 52 ∧
    c.heap.live.Pairwise (fun k l => k.block.Disjoint l.block) ∧
    Holds c.arena ⟨1, 16, 4⟩ [some 0, some 0, some 5, some 6] := by
  have live : ((Client.new 1 4096 (List.replicate 64 7)).run moves).heap.live =
      [⟨0, 1, 32, 20⟩, ⟨1, 1, 16, 4⟩] := by decide +kernel
  have held : ((Client.new 1 4096 (List.replicate 64 7)).run moves).heap.held 1 =
      [some 0, some 0, some 5, some 6] := by decide +kernel
  obtain ⟨disjoint, inside, -⟩ := @arena_refines_heap (List.replicate 64 7) (by decide) 1 4096
    moves (by decide)
  have older := inside ⟨1, 1, 16, 4⟩ (by rw [live]; exact List.mem_cons_of_mem _ List.mem_cons_self)
  dsimp only at older
  rw [held] at older
  exact ⟨live, by decide +kernel, disjoint, older.2⟩

end FrontEnd.Memory
