import FrontEnd.Memory.Workspace
import FrontEnd.Proofs.Memory.Seat

/-!
# The bookkeeping of arenas

`bookkeeping_in_range`: whatever is asked of any number of arenas, the last block of each starts in
what is in use, and no more is in use than there is. Regions need an invariant of their own, since a
region may close on another arena than it was opened on: their checkpoints are in order themselves.
-/

namespace FrontEnd.Memory

/-! ### Sessions over several arenas -/

/-- What can be asked of the arena in a slot, short of opening and closing regions. -/
inductive Operation where
  | alloc (size align : Nat)
  | realloc (block : Block) (size align : Nat)
  | resize (block : Block) (size : Nat)
  | make (type : Scalar)
  | makeArray (type : Scalar) (count : Nat)
  | allocScoped (size align : Nat)
  | write (block : Block) (start : Nat) (bytes : List UInt8)
  | free (block : Block) (align : Nat)
  | freeAll
  deriving DecidableEq, Repr

/-- What can be asked of a workspace. -/
inductive Event where
  | create (address : Nat) (data : List UInt8)
  | operate (slot : Nat) (operation : Operation)
  | openRegion (slot : Nat)
  /-- Closes the region `depth` out from the innermost. -/
  | closeRegion (depth : Nat)
  /-- Gives up a region that a fault is passing through, without closing it. -/
  | abandonRegion (depth : Nat)
  | relocate (source target : Nat)
  | swap (i j : Nat)
  deriving DecidableEq, Repr

namespace Operation

/-- Carries an operation out on an arena. -/
def run : Operation → ArenaM Answer
  | alloc size align => return .ofAlloc (← Arena.alloc size align)
  | realloc block size align => return .ofAlloc (← Arena.realloc block size align)
  | resize block size => return .ofResize (← Arena.resize? block size)
  | make type => return .ofAlloc ((← Arena.make type).map Cell.block)
  | makeArray type count => return .ofAlloc ((← Arena.makeArray type count).map CellArray.block)
  | allocScoped size align => return .ofAlloc ((← Arena.allocScoped size align).map (·.block))
  | write block start bytes => do
    Arena.writeBytes block start bytes
    return .done
  | free block align => do
    Arena.free block align
    return .done
  | freeAll => do
    Arena.freeAll
    return .done

end Operation

namespace Workspace

/-- Carries an event out. A region that is closed is gone even if closing it faults. -/
def perform : Event → WorkspaceM Answer
  | .create address data => do
    modify fun w => w.addArena address data
    return .done
  | .operate slot operation => onSlot slot operation.run
  | .openRegion slot => do
    let _ ← openRegion slot
    return .done
  | .closeRegion depth => do
    match ← closeRegion? depth with
    | some _ => return .done
    | none => return .declined
  | .abandonRegion depth => do
    modify fun w => { w with guards := w.guards.eraseIdx depth }
    return .done
  | .relocate source target => do
    relocate source target
    return .done
  | .swap i j => do
    swap i j
    return .done

/-- The workspace after some events, each fault among them caught. -/
def run (w : Workspace) : List Event → Workspace
  | [] => w
  | event :: rest => run (stateAfter (perform event w)) rest

end Workspace

/-! ### Operations on one arena -/

theorem Seat.has_ofAlloc {seat : Seat} {answer : Except AllocError Block} {b : Block}
    (backs : seat.Backs answer) (given : Answer.ofAlloc answer = .handle b) : seat.Has b := by
  cases answer with
  | ok block =>
    cases given
    exact backs
  | error refusal => cases given

/-- No operation takes an arena out of bounds or changes its seat, and a block that one answers with
belongs to that seat. -/
theorem Operation.maintains_run {seat : Seat} (operation : Operation) :
    Maintains (Arena.Seated seat) (fun answer => ∀ b, answer = .handle b → seat.Has b)
      operation.run := by
  cases operation with
  | alloc size align =>
    exact (Arena.maintains_alloc size align).bind fun _ backs =>
      maintains_pure fun _ given => seat.has_ofAlloc backs given
  | realloc block size align =>
    exact (Arena.maintains_realloc block size align).bind fun _ backs =>
      maintains_pure fun _ given => seat.has_ofAlloc backs given
  | resize block size =>
    refine (Arena.maintains_resize? block size).bind fun answer has => maintains_pure ?_
    intro b given
    cases answer with
    | none => cases given
    | some resized =>
      cases given
      exact has _ rfl
  | make type =>
    exact (Arena.maintains_make type).bind fun _ backs =>
      maintains_pure fun _ given => seat.has_ofAlloc backs given
  | makeArray type count =>
    exact (Arena.maintains_makeArray type count).bind fun _ backs =>
      maintains_pure fun _ given => seat.has_ofAlloc backs given
  | allocScoped size align =>
    exact (Arena.maintains_allocScoped size align).bind fun _ backs =>
      maintains_pure fun _ given => seat.has_ofAlloc backs given
  | write block start bytes =>
    exact (Arena.maintains_writeBytes block start bytes).bind fun _ _ => maintains_pure nofun
  | free block align => exact maintains_pure nofun
  | freeAll => exact Arena.maintains_freeAll.bind fun _ _ => maintains_pure nofun

/-! ### Workspaces -/

/-- Whether an event brings an arena in or changes the slot of one. -/
def Event.moves : Event → Bool
  | .create _ _ => true
  | .relocate _ _ => true
  | .swap _ _ => true
  | _ => false

namespace Workspace

/-- Arenas in bounds, and open regions that go back to bounds. -/
structure InBounds (w : Workspace) : Prop where
  arenas : ∀ a ∈ w.slots, a.InBounds
  guards : ∀ guard ∈ w.guards, guard.checkpoint.InBounds

/-- The seats of the arenas, slot by slot. -/
def seats (w : Workspace) : List Seat := w.slots.map Arena.seat

/-- A workspace in bounds whose arenas have certain seats, and the identity that comes next. -/
structure Steady (seats : List Seat) (next : UInt32) (w : Workspace) : Prop where
  inBounds : w.InBounds
  seats : w.seats = seats
  next : w.nextId = next

variable {w : Workspace} {α : Type} {a b : Arena} {slot : Nat}
  {seats : List Seat} {next : UInt32}

theorem InBounds.put (h : w.InBounds) (inBounds : a.InBounds) (slot : Nat) :
    ({ w with slots := w.slots.set slot a } : Workspace).InBounds := by
  refine ⟨fun a' member => ?_, h.guards⟩
  rcases List.mem_or_eq_of_mem_set member with old | rfl
  · exact h.arenas a' old
  · exact inBounds

theorem InBounds.without (h : w.InBounds) (depth : Nat) :
    ({ w with guards := w.guards.eraseIdx depth } : Workspace).InBounds :=
  ⟨h.arenas, fun guard member => h.guards guard (List.mem_of_mem_eraseIdx member)⟩

theorem Steady.put (h : w.Steady seats next) (found : w.slots[slot]? = some a)
    (seated : b.Seated a.seat) :
    ({ w with slots := w.slots.set slot b } : Workspace).Steady seats next := by
  refine ⟨h.inBounds.put seated.inBounds slot, ?_, h.next⟩
  obtain ⟨inside, rfl⟩ := List.getElem?_eq_some_iff.mp found
  rw [← h.seats, Workspace.seats, Workspace.seats, List.map_set, seated.same,
    ← List.getElem_map Arena.seat, List.set_getElem_self]
  rwa [List.length_map]

theorem maintains_onSlot {good : Seat → α → Prop} {action : ArenaM α} (slot : Nat)
    (maintains : ∀ seat, Maintains (Arena.Seated seat) (good seat) action) :
    Maintains (Steady seats next) (fun v => ∃ seat, seats[slot]? = some seat ∧ good seat v)
      (onSlot slot action) := by
  intro w h
  unfold onSlot
  cases found : w.slots[slot]? with
  | none => exact h
  | some a =>
    have seat : seats[slot]? = some a.seat := by
      rw [← h.seats, Workspace.seats, List.getElem?_map, found, Option.map_some]
    have sustained := maintains a.seat a ⟨rfl, h.inBounds.arenas a (List.mem_of_getElem? found)⟩
    dsimp only
    cases came : action a with
    | ok v a' =>
      rw [came] at sustained
      exact ⟨⟨a.seat, seat, sustained.1⟩, h.put found sustained.2⟩
    | error fault a' =>
      rw [came] at sustained
      exact h.put found sustained

theorem maintains_openRegion (slot : Nat) :
    Maintains (Steady seats next) (fun _ => True) (openRegion slot) := by
  refine (maintains_onSlot slot fun _ => Arena.maintains_openRegion).bind fun checkpoint opened => ?_
  obtain ⟨-, -, saved⟩ := opened
  refine (maintains_modify fun w h => ⟨⟨h.inBounds.arenas, ?_⟩, h.seats, h.next⟩).bind fun _ _ =>
    maintains_pure trivial
  intro guard member
  rcases List.mem_cons.mp member with rfl | older
  · exact saved
  · exact h.inBounds.guards guard older

theorem maintains_closeRegion? (depth : Nat) :
    Maintains (Steady seats next) (fun _ => True) (closeRegion? depth) := by
  refine maintains_get.bind fun w h => ?_
  cases found : w.guards[depth]? with
  | none => exact maintains_pure trivial
  | some guard =>
    have saved := h.inBounds.guards guard (List.mem_of_getElem? found)
    have rest : Steady seats next { w with guards := w.guards.eraseIdx depth } :=
      ⟨h.inBounds.without depth, h.seats, h.next⟩
    refine (maintains_set rest).bind fun _ _ => ?_
    exact (maintains_onSlot guard.slot fun _ => Arena.maintains_closeRegion saved).bind fun _ _ =>
      maintains_pure trivial

/-- An event that moves no arena leaves each its seat, and answers with blocks of the arena that it
was for. -/
theorem maintains_steady (event : Event) (stays : event.moves = false) :
    Maintains (Steady seats next)
      (fun answer => ∀ slot operation b, event = .operate slot operation → answer = .handle b →
        ∃ seat, seats[slot]? = some seat ∧ seat.Has b)
      (perform event) := by
  cases event with
  | create address data => cases stays
  | operate slot operation =>
    intro w h
    have sustained := maintains_onSlot slot (fun _ => operation.maintains_run) w h
    refine sustained.mono ?_
    rintro answer ⟨seat, found, has⟩ slot operation b ⟨⟩ given
    exact ⟨seat, found, has b given⟩
  | openRegion slot =>
    exact (maintains_openRegion slot).bind fun _ _ => maintains_pure nofun
  | closeRegion depth =>
    refine (maintains_closeRegion? depth).bind fun closed _ => ?_
    cases closed <;> exact maintains_pure nofun
  | abandonRegion depth =>
    refine (maintains_modify fun w h => ?_).bind fun _ _ => maintains_pure nofun
    exact ⟨h.inBounds.without depth, h.seats, h.next⟩
  | relocate source target => cases stays
  | swap i j => cases stays

/-! ### Moving -/

theorem onSlot_none (vacant : w.slots[slot]? = none) (action : ArenaM α) :
    onSlot slot action w = .error .outOfRange w := by
  rw [onSlot, vacant]

theorem onSlot_ok {action : ArenaM α} {v : α} (found : w.slots[slot]? = some a)
    (ran : action a = .ok v b) :
    onSlot slot action w = .ok v { w with slots := w.slots.set slot b } := by
  simp only [onSlot, found, ran]

theorem onSlot_error {action : ArenaM α} {fault : Fault} (found : w.slots[slot]? = some a)
    (ran : action a = .error fault b) :
    onSlot slot action w = .error fault { w with slots := w.slots.set slot b } := by
  simp only [onSlot, found, ran]

/-- A fault that leaves the arena in the slot as it was. -/
theorem onSlot_unchanged {action : ArenaM α} {fault : Fault} (found : w.slots[slot]? = some a)
    (ran : action a = .error fault a) : onSlot slot action w = .error fault w := by
  obtain ⟨inside, rfl⟩ := List.getElem?_eq_some_iff.mp found
  rw [onSlot_error found ran, List.set_getElem_self]

theorem relocate_cases (w : Workspace) (source target : Nat) :
    (∃ fault, relocate source target w = .error fault w) ∨
    ∃ a, w.slots[source]? = some a ∧ target < w.slots.length ∧ relocate source target w =
      .ok () { w with
        slots := (w.slots.set source (Arena.empty w.nextId)).set target a
        nextId := w.nextId + 1 } := by
  unfold relocate
  rw [run_get_bind]
  by_cases inside : target < w.slots.length
  · rw [if_pos inside]
    cases found : w.slots[source]? with
    | none =>
      left
      exact ⟨_, run_bind_error (onSlot_none found _)⟩
    | some a =>
      rcases Arena.relocate_cases a w.nextId with ⟨fault, failed⟩ | ⟨-, moved⟩
      · left
        exact ⟨fault, run_bind_error (onSlot_unchanged found failed)⟩
      · right
        refine ⟨a, rfl, inside, ?_⟩
        rw [run_bind_ok (onSlot_ok found moved)]
        rfl
  · left
    rw [if_neg inside]
    exact ⟨_, rfl⟩

theorem swap_cases (w : Workspace) (i j : Nat) :
    (∃ fault, swap i j w = .error fault w) ∨
    ∃ a b, w.slots[i]? = some a ∧ w.slots[j]? = some b ∧
      swap i j w = .ok () { w with slots := (w.slots.set i b).set j a } := by
  unfold swap
  rw [run_get_bind]
  cases first : w.slots[i]? with
  | none => exact Or.inl ⟨_, rfl⟩
  | some a =>
    cases second : w.slots[j]? with
    | none => exact Or.inl ⟨_, rfl⟩
    | some b => exact Or.inr ⟨a, b, rfl, rfl, rfl⟩

theorem maintains_relocate (source target : Nat) :
    Maintains InBounds (fun _ => True) (relocate source target) := by
  intro w h
  rcases relocate_cases w source target with ⟨fault, failed⟩ | ⟨a, found, -, moved⟩
  · rw [failed]
    exact h
  · rw [moved]
    have emptied : (Arena.empty w.nextId).InBounds := Arena.inBounds_of_none rfl (Nat.zero_le _)
    have put := (h.put emptied source).put (h.arenas a (List.mem_of_getElem? found)) target
    exact ⟨trivial, put.arenas, put.guards⟩

theorem maintains_swap (i j : Nat) : Maintains InBounds (fun _ => True) (swap i j) := by
  intro w h
  rcases swap_cases w i j with ⟨fault, failed⟩ | ⟨a, b, first, second, swapped⟩
  · rw [failed]
    exact h
  · rw [swapped]
    have a_in := h.arenas a (List.mem_of_getElem? first)
    have b_in := h.arenas b (List.mem_of_getElem? second)
    exact ⟨trivial, (h.put b_in i).put a_in j⟩

/-- No event takes an arena out of bounds. -/
theorem maintains_perform (event : Event) : Maintains InBounds (fun _ => True) (perform event) := by
  cases moving : event.moves with
  | false =>
    intro w h
    have sustained := maintains_steady event moving w ⟨h, rfl, rfl⟩
    exact (sustained.weaken fun _ steady => steady.inBounds).mono fun _ _ => trivial
  | true =>
    cases event with
    | create address data =>
      refine (maintains_modify fun w h => ⟨fun a member => ?_, h.guards⟩).bind fun _ _ =>
        maintains_pure trivial
      rcases List.mem_append.mp member with old | new
      · exact h.arenas a old
      · obtain rfl := List.mem_singleton.mp new
        exact Arena.inBounds_of_none rfl (Nat.zero_le _)
    | relocate source target =>
      exact (maintains_relocate source target).bind fun _ _ => maintains_pure trivial
    | swap i j => exact (maintains_swap i j).bind fun _ _ => maintains_pure trivial
    | operate slot operation => cases moving
    | openRegion slot => cases moving
    | closeRegion depth => cases moving
    | abandonRegion depth => cases moving

theorem run_inBounds (h : w.InBounds) (events : List Event) : (w.run events).InBounds := by
  induction events generalizing w with
  | nil => exact h
  | cons event rest ih => exact ih ((maintains_perform event).stateAfter h)

end Workspace

/-! ### What follows for one arena -/

namespace Arena

variable {a a' : Arena} {block resized : Block} {size align : Nat}

theorem alloc_inside (inBounds : a.InBounds) (ran : alloc size align a = .ok (.ok block) a') :
    a.offset ≤ block.offset ∧ block.len = size ∧ block.finish ≤ a.capacity := by
  have inside := inBounds.offset_le
  rcases alloc_cases a size align with ⟨-, failed⟩ | ⟨fault, -, -, failed⟩ |
    ⟨-, -, -, -, refused⟩ | ⟨padding, -, -, -, room, handed⟩
  · cases failed.symm.trans ran
  · cases failed.symm.trans ran
  · cases refused.symm.trans ran
  · cases handed.symm.trans ran
    unfold remaining at room
    refine ⟨Nat.le_add_right _ _, rfl, ?_⟩
    show a.offset + padding + size ≤ a.capacity
    omega

/-- A block that can be resized where it lies ends inside, before and after, and `realloc` does the
same without a fault. -/
theorem resize_inside (ran : resize? block size a = .ok (some resized) a') :
    block.finish ≤ a.capacity ∧ resized.finish ≤ a.capacity ∧
      ∀ align, ∃ grown, realloc block size align a = .ok (.ok resized) grown := by
  rcases resize?_cases a block size with ⟨fault, -, failed⟩ | ⟨-, -, declined⟩ |
    ⟨owned, last, room, done⟩
  · cases failed.symm.trans ran
  · cases declined.symm.trans ran
  · cases done.symm.trans ran
    obtain ⟨-, -, inside⟩ := checkOwned_eq_ok_iff.mp owned
    refine ⟨inside, ?_, fun align => ⟨_, realloc_in_place align owned last room⟩⟩
    unfold Block.finish at inside ⊢
    dsimp only
    omega

end Arena

/-- Whatever has been asked of some arenas, and whatever has faulted, in each of them the last block
starts in what is in use and no more is in use than there is. No difference of the three is cut off
at zero, and no block that is handed out or resized where it lies goes past the end. -/
theorem bookkeeping_in_range (events : List Event) :
    ∀ a ∈ (Workspace.run {} events).slots,
      (∀ last, a.last? = some last →
        last ≤ a.offset ∧ last + (a.offset - last) = a.offset ∧
          last + (a.capacity - last) = a.capacity) ∧
      a.offset ≤ a.capacity ∧ a.offset + a.remaining = a.capacity ∧
      (∀ size align block a', Arena.alloc size align a = .ok (.ok block) a' →
        a.offset ≤ block.offset ∧ block.len = size ∧ block.finish ≤ a.capacity) ∧
      ∀ block size resized a', Arena.resize? block size a = .ok (some resized) a' →
        block.finish ≤ a.capacity ∧ resized.finish ≤ a.capacity ∧
          ∀ align, ∃ grown, Arena.realloc block size align a = .ok (.ok resized) grown := by
  intro a member
  have nothing : Workspace.InBounds {} := ⟨nofun, nofun⟩
  have inBounds : a.InBounds := (Workspace.run_inBounds nothing events).arenas a member
  have inside := inBounds.offset_le
  refine ⟨?_, inside, ?_, ?_, ?_⟩
  · intro last found
    have start := inBounds.last_le last found
    exact ⟨start, by omega, by omega⟩
  · exact Nat.add_sub_cancel' inside
  · intro size align block a' ran
    exact Arena.alloc_inside inBounds ran
  · intro block size resized a' ran
    exact Arena.resize_inside ran

/-- A region closes on an arena that has taken the place of its own, after the fault of a block that
ends past the last word. A block that was never handed out then resizes to the end of that arena. -/
theorem bookkeeping_in_range_swapped :
    let events : List Event :=
      [.create 4096 (List.replicate 64 7), .create 8192 (List.replicate 48 7),
        .operate 0 (.alloc 16 1), .openRegion 0, .openRegion 1, .operate 1 (.alloc 40 1), .swap 0 1,
        .operate 0 (.write ⟨2, 0xFFFFFFFFFFFFFFFF, 9⟩ 0 []), .closeRegion 1,
        .operate 0 (.resize ⟨2, 0, 3⟩ 48)]
    ∃ a ∈ (Workspace.run {} events).slots,
      (a.id, a.last?, a.offset, a.capacity, a.regions) = (2, some 0, 48, 48, 0) ∧ a.remaining = 0 ∧
      ∀ size align block a', Arena.alloc size align a = .ok (.ok block) a' →
        48 ≤ block.offset ∧ block.finish ≤ 48 := by
  intro events
  have first : (Workspace.run {} events).slots[0]?.map
        (fun a => (a.id, a.last?, a.offset, a.capacity, a.regions)) =
      some (2, some 0, 48, 48, 0) := by decide
  obtain ⟨a, found, same⟩ := Option.map_eq_some_iff.mp first
  have member := List.mem_of_getElem? found
  obtain ⟨-, -, used, allocs, -⟩ := bookkeeping_in_range events a member
  have shown := same
  simp only [Prod.mk.injEq] at shown
  obtain ⟨-, -, offset, capacity, -⟩ := shown
  refine ⟨a, member, same, by omega, fun size align block a' ran => ?_⟩
  obtain ⟨above, -, inside⟩ := allocs size align block a' ran
  exact ⟨offset ▸ above, capacity ▸ inside⟩

end FrontEnd.Memory
