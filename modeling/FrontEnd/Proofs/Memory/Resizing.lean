import FrontEnd.Proofs.Memory.Steps

/-!
# Which blocks can be resized

Only the newest live block of the innermost region is meant to be resized where it lies. It is known
by where it starts, and an empty block can start there too. `Client.Sound.resizes_iff_slips` says
exactly which other blocks are resized, and `Client.Sound.resized_alone` that resizing the newest
leaves all others as they were.
-/

namespace FrontEnd.Memory

/-- A block can be given a size where it lies. -/
def Arena.Resizes (a : Arena) (b : Block) (size : Nat) : Prop :=
  ∃ resized after, Arena.resize? b size a = .ok (some resized) after

theorem Arena.resizes_iff {a : Arena} {b : Block} {size : Nat} :
    a.Resizes b size ↔
      a.checkOwned b = .ok () ∧ a.last? = some b.offset ∧ size ≤ a.capacity - b.offset := by
  unfold Arena.Resizes
  rcases Arena.resize?_cases a b size with ⟨fault, foreign, failed⟩ | ⟨owned, refused, declined⟩ |
    ⟨owned, last, room, resized⟩
  · rw [failed, foreign]
    simp
  · rw [declined]
    constructor
    · rintro ⟨resized, after, ⟨⟩⟩
    · exact fun ⟨_, fits⟩ => absurd fits refused
  · rw [resized]
    exact ⟨fun _ => ⟨owned, last, room⟩, fun _ => ⟨_, _, rfl⟩⟩

namespace Client

variable {c : Client} {l : Live} {size : Nat} {request : Request Nat}

theorem Sound.resizes_iff (sound : c.Sound) (live : l ∈ c.heap.live) :
    c.arena.Resizes l.block size ↔
      c.arena.last? = some l.block.offset ∧ size ≤ c.arena.capacity - l.block.offset := by
  rw [Arena.resizes_iff]
  exact and_iff_right (sound.owned live)

/-- A block that is not the newest is resized exactly if it slips. -/
theorem Sound.resizes_iff_slips (sound : c.Sound) (live : l ∈ c.heap.live) :
    c.arena.Resizes l.block size ∧ c.heap.newest? ≠ some l ↔ c.Slips l size := by
  rw [sound.resizes_iff live]
  constructor
  · rintro ⟨⟨last, room⟩, older⟩
    exact (sound.newest_or_slips live last room).resolve_left older
  · rintro ⟨older, -, last, room⟩
    exact ⟨⟨last, room⟩, older⟩

/-- Either way of resizing the newest block takes place where it lies, if there is room. -/
theorem Sound.step_in_place (sound : c.Sound) (newest : c.heap.newest? = some l)
    (last : c.arena.last? = some l.block.offset) (room : size ≤ c.arena.capacity - l.block.offset)
    (about : request.operand? = some l.name) (sized : request.size? = some size) :
    ∃ held, (c.step request).heap =
      (c.heap.renew ⟨l.name, { l.block with len := size }⟩).hold l.name held := by
  have live := Heap.mem_of_newest newest
  have owned := sound.owned live
  cases request with
  | realloc name asked align =>
    cases about
    cases sized
    have performed : c.session.perform (.realloc l.block size align) = (.handle _, _) :=
      Session.onArena_ok (Arena.realloc_in_place align owned last room)
    rw [sound.step_of_live live rfl performed]
    exact ⟨_, congrArg (Heap.hold · l.name _) (Heap.add_drop_newest sound.named newest _)⟩
  | resize name asked =>
    cases about
    cases sized
    have performed : c.session.perform (.resize l.block size) = (.handle _, _) :=
      Session.onArena_ok (Arena.resize_in_place owned last room)
    rw [sound.step_of_live live rfl performed]
    exact ⟨_, congrArg (Heap.hold · l.name _) (Heap.rehandle_newest sound.named newest _)⟩
  | write | free => cases sized
  | alloc | freeAll | openRegion | closeRegion => cases about

/-- Resizing the newest block leaves every other live block live, in use, apart and as it was. -/
theorem Sound.resized_alone (sound : c.Sound) (newest : c.heap.newest? = some l)
    (resizes : c.arena.Resizes l.block size) (about : request.operand? = some l.name)
    (sized : request.size? = some size) :
    ⟨l.name, { l.block with len := size }⟩ ∈ (c.step request).heap.live ∧
    ∀ k ∈ c.heap.live, k ≠ l →
      k ∈ (c.step request).heap.live ∧ k.block.finish ≤ (c.step request).arena.offset ∧
      k.block.Disjoint { l.block with len := size } ∧
      (c.step request).arena.bytes k.block = c.arena.bytes k.block := by
  have live := Heap.mem_of_newest newest
  obtain ⟨last, room⟩ := (sound.resizes_iff live).mp resizes
  have steady : ¬c.SlipsOn request := by
    rintro ⟨k, other, named, wanted, asked, older, -⟩
    have same := sound.eq_of_name live other (Option.some.inj (named.symm.trans about))
    exact older (same ▸ newest)
  have carries := step_sound sound request steady
  obtain ⟨held, stepped⟩ := sound.step_in_place newest last room about sized
  have resized : ⟨l.name, { l.block with len := size }⟩ ∈ (c.step request).heap.live := by
    rw [stepped]
    exact List.mem_cons_self
  refine ⟨resized, fun k other ne => ?_⟩
  have apart : k.name ≠ l.name := fun same => ne (sound.eq_of_name live other same)
  have kept : k ∈ (c.step request).heap.live := by
    rw [Heap.live_of_newest newest] at other
    rw [stepped]
    exact List.mem_cons_of_mem _ ((List.mem_cons.mp other).resolve_left ne)
  refine ⟨kept, carries.sound.finish_le kept, ?_, carries.apart k other ?_⟩
  · exact carries.sound.apart kept resized apart.symm
  · exact fun same => apart (Option.some.inj (about.symm.trans same)).symm

end Client

/-- In a session of requests about live blocks none of which slips, a live block is resized where it
lies exactly if it is the newest and there is room, or slips; and unless it slips, that touches no
other live block. -/
theorem resize_exact {data : List UInt8} (word : data.length < wordLimit) (id : UInt32)
    (address : Nat) {requests : List (Request Nat)}
    (careful : (Client.new id address data).Careful requests) :
    let c := (Client.new id address data).run requests
    ∀ l ∈ c.heap.live, ∀ size,
      (c.arena.Resizes l.block size ∧ c.heap.newest? ≠ some l ↔ c.Slips l size) ∧
      (c.arena.Resizes l.block size → ¬c.Slips l size → ∀ request : Request Nat,
        request.operand? = some l.name → request.size? = some size →
        ⟨l.name, { l.block with len := size }⟩ ∈ (c.step request).heap.live ∧
        ∀ k ∈ c.heap.live, k ≠ l →
          k ∈ (c.step request).heap.live ∧ k.block.finish ≤ (c.step request).arena.offset ∧
          k.block.Disjoint { l.block with len := size } ∧
          (c.step request).arena.bytes k.block = c.arena.bytes k.block) := by
  intro c l live size
  have sound : c.Sound := Client.run_sound (Client.new_sound word id address) careful
  refine ⟨sound.resizes_iff_slips live, ?_⟩
  intro resizes steady request about sized
  have newest : c.heap.newest? = some l := by
    by_contra older
    exact steady ((sound.resizes_iff_slips live).mp ⟨resizes, older⟩)
  exact sound.resized_alone newest resizes about sized

/-- Two blocks, of which the older is empty and so starts where the newer does. -/
def sharedStart : Client :=
  (Client.new 1 4096 (List.replicate 64 0)).run [.alloc 0 1, .alloc 16 1]

/-- The older block grows where it lies, over the newer one, most of which falls out of use. -/
theorem older_block_resizes :
    ∃ older ∈ sharedStart.heap.live, ∃ newer, sharedStart.heap.newest? = some newer ∧
      older ≠ newer ∧ sharedStart.arena.Resizes older.block 4 ∧
      ¬newer.block.Disjoint { older.block with len := 4 } ∧
      (sharedStart.step (.resize older.name 4)).arena.offset < newer.block.finish := by
  have resizes : sharedStart.arena.Resizes ⟨1, 0, 0⟩ 4 :=
    Arena.resizes_iff.mpr (by decide +kernel)
  have apart : ¬Block.Disjoint ⟨1, 0, 16⟩ ⟨1, 0, 4⟩ := by
    unfold Block.Disjoint Block.finish
    decide
  exact ⟨⟨0, 1, 0, 0⟩, by decide +kernel, ⟨1, 1, 0, 16⟩, by decide +kernel, by decide, resizes,
    apart, by decide +kernel⟩

/-- There the older block slips, and the newer one shrinks without harm to it. -/
theorem resize_exact_sharedStart :
    (sharedStart.arena.Resizes ⟨1, 0, 0⟩ 4 ∧ sharedStart.heap.newest? ≠ some ⟨0, 1, 0, 0⟩) ∧
    ⟨1, 1, 0, 8⟩ ∈ (sharedStart.step (.realloc 1 8 16)).heap.live := by
  have exactly := @resize_exact (List.replicate 64 0) (by decide) 1 4096
    [.alloc 0 1, .alloc 16 1] (by decide +kernel)
  have older := exactly ⟨0, 1, 0, 0⟩ (by decide +kernel) 4
  have newer := exactly ⟨1, 1, 0, 16⟩ (by decide +kernel) 8
  have slips : sharedStart.Slips ⟨0, 1, 0, 0⟩ 4 := by decide +kernel
  have resizes : sharedStart.arena.Resizes ⟨1, 0, 16⟩ 8 :=
    Arena.resizes_iff.mpr (by decide +kernel)
  have steady : ¬sharedStart.Slips ⟨1, 1, 0, 16⟩ 8 := by decide +kernel
  exact ⟨older.1.mpr slips, (newer.2 resizes steady (.realloc 1 8 16) rfl rfl).1⟩

end FrontEnd.Memory
