import FrontEnd.Proofs.Memory.Operations

/-!
# Sessions

A session is an arena with the regions open on it, driven by requests. A fault is caught, and the
session goes on in the state that the fault left. `perform_nested` shows that no request, whatever
block it names, disturbs the order in which the checkpoints lie.
-/

namespace FrontEnd.Memory

/-- What can be asked of an arena, by a client that refers to blocks by a `β`. -/
inductive Request (β : Type) where
  | alloc (size align : Nat)
  | realloc (block : β) (size align : Nat)
  | resize (block : β) (size : Nat)
  /-- Bytes put into a block, from its byte `start` on. -/
  | write (block : β) (start : Nat) (bytes : List UInt8)
  | free (block : β) (align : Nat)
  | freeAll
  | openRegion
  /-- Closes the innermost region. -/
  | closeRegion
  deriving DecidableEq, Repr

/-- Whether a request is to put bytes over the byte `i` of the buffer. -/
def Request.Covers (i : Nat) : Request Block → Prop
  | .write block start bytes =>
    block.offset + start ≤ i ∧ i < block.offset + start + bytes.length
  | _ => False

instance (i : Nat) (request : Request Block) : Decidable (request.Covers i) :=
  match request with
  | .write _ _ _ => inferInstanceAs (Decidable (_ ∧ _))
  | .alloc _ _ | .realloc _ _ _ | .resize _ _ | .free _ _ | .freeAll | .openRegion
  | .closeRegion => inferInstanceAs (Decidable False)

/-- What a request comes back with. -/
inductive Answer where
  | done
  | handle (block : Block)
  | refused (reason : AllocError)
  /-- A block that cannot be resized, or no region to close. -/
  | declined
  | faulted (fault : Fault)
  deriving DecidableEq, Repr

namespace Answer

/-- What an allocation comes back with. -/
def ofAlloc : Except AllocError Block → Answer
  | .ok block => handle block
  | .error reason => refused reason

/-- What a resizing in place comes back with. -/
def ofResize : Option Block → Answer
  | some block => handle block
  | none => declined

end Answer

/-- An arena and its open regions, the innermost first. -/
structure Session where
  arena : Arena
  guards : List Checkpoint := []
  deriving DecidableEq, Repr

namespace Session

/-- Runs an action on the arena, and replies to its answer or, once it is caught, to its fault. -/
def catching {α ρ : Type} (s : Session) (action : ArenaM α) (reply : α → ρ) (caught : Fault → ρ) :
    ρ × Session :=
  match action s.arena with
  | .ok v arena => (reply v, { s with arena })
  | .error fault arena => (caught fault, { s with arena })

/-- Runs an operation on the arena and catches its fault. -/
def onArena {α : Type} (s : Session) (action : ArenaM α) (answer : α → Answer) : Answer × Session :=
  s.catching action answer .faulted

/-- Carries a request out. A region that is closed is gone even if closing it faults. -/
def perform (s : Session) : Request Block → Answer × Session
  | .alloc size align => s.onArena (Arena.alloc size align) .ofAlloc
  | .realloc block size align => s.onArena (Arena.realloc block size align) .ofAlloc
  | .resize block size => s.onArena (Arena.resize? block size) .ofResize
  | .write block start bytes => s.onArena (Arena.writeBytes block start bytes) fun _ => .done
  | .free block align => s.onArena (Arena.free block align) fun _ => .done
  | .freeAll => s.onArena Arena.freeAll fun _ => .done
  | .openRegion =>
    match Arena.openRegion s.arena with
    | .ok checkpoint arena => (.done, ⟨arena, checkpoint :: s.guards⟩)
    | .error fault arena => (.faulted fault, { s with arena })
  | .closeRegion =>
    match s.guards with
    | [] => (.declined, s)
    | checkpoint :: guards =>
      onArena { s with guards } (Arena.closeRegion checkpoint) fun _ => .done

/-- The session after some requests. -/
def run (s : Session) : List (Request Block) → Session
  | [] => s
  | request :: rest => run (s.perform request).2 rest

/-- Whether a request puts bytes over the byte `i`. One that faults does not. -/
def Writes (s : Session) (i : Nat) (request : Request Block) : Prop :=
  request.Covers i ∧ (s.perform request).1 = .done

/-- Whether one of the requests puts bytes over the byte `i` when they are carried out in turn. -/
def Written (s : Session) (i : Nat) : List (Request Block) → Prop
  | [] => False
  | request :: rest => s.Writes i request ∨ Written (s.perform request).2 i rest

instance (s : Session) (i : Nat) (request : Request Block) : Decidable (s.Writes i request) :=
  inferInstanceAs (Decidable (_ ∧ _))

instance decidableWritten (s : Session) (i : Nat) :
    (requests : List (Request Block)) → Decidable (s.Written i requests)
  | [] => inferInstanceAs (Decidable False)
  | request :: rest =>
    letI := decidableWritten (s.perform request).2 i rest
    inferInstanceAs (Decidable (_ ∨ _))

theorem onArena_ok {α : Type} {s : Session} {action : ArenaM α} {answer : α → Answer} {v : α}
    {arena : Arena} (h : action s.arena = .ok v arena) :
    s.onArena action answer = (answer v, { s with arena }) := by
  simp only [onArena, catching, h]

theorem onArena_error {α : Type} {s : Session} {action : ArenaM α} {answer : α → Answer}
    {fault : Fault} {arena : Arena} (h : action s.arena = .error fault arena) :
    s.onArena action answer = (.faulted fault, { s with arena }) := by
  simp only [onArena, catching, h]

/-! ### Outcomes

What `perform` comes to, request by request. An answer without a handle to a request for memory
leaves the session as it was. -/

variable {s : Session}

theorem perform_alloc (inside : s.arena.offset ≤ s.arena.capacity) (size align : Nat) :
    (∃ answer, (∀ b, answer ≠ .handle b) ∧ s.perform (.alloc size align) = (answer, s)) ∨
    ∃ start, s.arena.offset ≤ start ∧ start + size ≤ s.arena.capacity ∧
      s.perform (.alloc size align) = (.handle ⟨s.arena.id, start, size⟩,
        { s with arena := s.arena.handOut start (List.replicate size 0) }) := by
  rcases Arena.alloc_cases s.arena size align with ⟨-, failed⟩ | ⟨fault, -, -, failed⟩ |
    ⟨-, -, -, -, refused⟩ | ⟨padding, -, -, -, room, handed⟩
  · left
    exact ⟨.faulted (.badAlignment align), by simp, onArena_error failed⟩
  · left
    exact ⟨.faulted fault, by simp, onArena_error failed⟩
  · left
    exact ⟨.refused (.outOfMemory size s.arena.remaining), by simp, onArena_ok refused⟩
  · right
    unfold Arena.remaining at room
    exact ⟨s.arena.offset + padding, by omega, by omega, onArena_ok handed⟩

theorem perform_realloc (inside : s.arena.offset ≤ s.arena.capacity) (b : Block)
    (size align : Nat) :
    (∃ answer, (∀ r, answer ≠ .handle r) ∧ s.perform (.realloc b size align) = (answer, s)) ∨
    (s.arena.checkOwned b = .ok () ∧ s.arena.last? = some b.offset ∧
      size ≤ s.arena.capacity - b.offset ∧
      s.perform (.realloc b size align) = (.handle { b with len := size },
        { s with arena := s.arena.refit b size (List.replicate (size - b.len) 0) })) ∨
    (s.arena.checkOwned b = .ok () ∧
      ¬(s.arena.last? = some b.offset ∧ size ≤ s.arena.capacity - b.offset) ∧
      ∃ start content, s.arena.offset ≤ start ∧ start + size ≤ s.arena.capacity ∧
        content.length = size ∧
        (b.finish ≤ start → content =
          Buffer.window s.arena.data b.offset (min b.len size) ++ List.replicate (size - b.len) 0) ∧
        s.perform (.realloc b size align) = (.handle ⟨s.arena.id, start, size⟩,
          { s with arena := s.arena.handOut start content })) := by
  rcases Arena.realloc_cases (s.arena.judges b) inside size align with ⟨fault, -, failed⟩ | refused |
    ⟨owned, last, room, resized⟩ |
    ⟨owned, notLast, padding, content, -, -, -, room, length, kept, moved⟩
  · left
    exact ⟨.faulted fault, by simp, onArena_error failed⟩
  · left
    exact ⟨.refused (.outOfMemory size s.arena.remaining), by simp, onArena_ok refused⟩
  · right; left
    exact ⟨owned, last, room, onArena_ok resized⟩
  · right; right
    unfold Arena.remaining at room
    exact ⟨owned, notLast, s.arena.offset + padding, content, by omega, by omega, length, kept,
      onArena_ok moved⟩

theorem perform_resize (b : Block) (size : Nat) :
    (∃ answer, (∀ r, answer ≠ .handle r) ∧ s.perform (.resize b size) = (answer, s)) ∨
    (s.arena.checkOwned b = .ok () ∧ s.arena.last? = some b.offset ∧
      size ≤ s.arena.capacity - b.offset ∧
      s.perform (.resize b size) =
        (.handle { b with len := size }, { s with arena := s.arena.refit b size [] })) := by
  rcases Arena.resize?_cases s.arena b size with ⟨fault, -, failed⟩ | ⟨-, -, declined⟩ |
    ⟨owned, last, room, resized⟩
  · left
    exact ⟨.faulted fault, by simp, onArena_error failed⟩
  · left
    exact ⟨.declined, by simp, onArena_ok declined⟩
  · right
    exact ⟨owned, last, room, onArena_ok resized⟩

theorem perform_write (b : Block) (start : Nat) (bytes : List UInt8) :
    (∃ fault, s.perform (.write b start bytes) = (.faulted fault, s)) ∨
    (s.arena.checkOwned b = .ok () ∧ start + bytes.length ≤ b.len ∧
      s.perform (.write b start bytes) = (.done, { s with
        arena := { s.arena with
          data := Buffer.splice s.arena.data (b.offset + start) bytes } })) := by
  rcases Arena.writeBytes_cases s.arena b start bytes with ⟨fault, -, failed⟩ | ⟨-, -, failed⟩ |
    ⟨owned, fits, written⟩
  · left
    exact ⟨fault, onArena_error failed⟩
  · left
    exact ⟨.outOfRange, onArena_error failed⟩
  · right
    exact ⟨owned, fits, onArena_ok written⟩

theorem perform_free (b : Block) (align : Nat) : s.perform (.free b align) = (.done, s) := rfl

theorem perform_freeAll :
    (∃ fault, s.perform .freeAll = (.faulted fault, s)) ∨
    (s.arena.regions = 0 ∧
      s.perform .freeAll =
        (.done, { s with arena := { s.arena with offset := 0, last? := none } })) := by
  rcases Arena.freeAll_cases s.arena with ⟨fault, -, failed⟩ | ⟨closed, emptied⟩
  · left
    exact ⟨fault, onArena_error failed⟩
  · right
    exact ⟨closed, onArena_ok emptied⟩

theorem perform_openRegion :
    (∃ fault, s.perform .openRegion =
      (.faulted fault, { s with arena := { s.arena with last? := none } })) ∨
    (s.arena.regions.toNat + 1 < UInt32.size ∧
      s.perform .openRegion =
        (.done, ⟨{ s.arena with last? := none, regions := s.arena.regions + 1 },
          ⟨s.arena.offset, s.arena.last?⟩ :: s.guards⟩)) := by
  unfold perform
  rcases Arena.openRegion_cases s.arena with ⟨-, failed⟩ | ⟨countable, opened⟩
  · left
    exact ⟨.wordOverflow, by rw [failed]⟩
  · right
    exact ⟨countable, by rw [opened]⟩

theorem perform_closeRegion {arena : Arena} {guard : Checkpoint} {guards : List Checkpoint}
    (counted : 0 < arena.regions.toNat) (above : guard.offset ≤ arena.offset) :
    perform ⟨arena, guard :: guards⟩ .closeRegion =
      (.done, ⟨{ arena with
        offset := guard.offset, last? := guard.last?, regions := arena.regions - 1 }, guards⟩) :=
  onArena_ok (s := ⟨arena, guards⟩) (Arena.closeRegion_run counted above)

/-! ### The order of the checkpoints -/

/-- An arena in use from `floor` on. -/
def Frame (floor offset : Nat) (last? : Option Nat) : Prop :=
  floor ≤ offset ∧ ∀ start, last? = some start → floor ≤ start ∧ start ≤ offset

/-- Where the blocks of the innermost region start. -/
def floor (base : Nat) : List Checkpoint → Nat
  | [] => base
  | guard :: _ => guard.offset

/-- Each checkpoint lies at or above the one around it, and the outermost at or above `base`. -/
def Stacked (base offset : Nat) (last? : Option Nat) : List Checkpoint → Prop
  | [] => Frame base offset last?
  | guard :: guards =>
    Frame guard.offset offset last? ∧ Stacked base guard.offset guard.last? guards

/-- A session in which `base` was in use and `count` regions were open before its own. -/
structure Nested (base count : Nat) (s : Session) : Prop where
  inside : s.arena.offset ≤ s.arena.capacity
  counted : s.arena.regions.toNat = count + s.guards.length
  stacked : Stacked base s.arena.offset s.arena.last? s.guards

variable {base offset offset' count : Nat} {last? last?' : Option Nat} {guards : List Checkpoint}

theorem Stacked.frame (h : Stacked base offset last? guards) :
    Frame (floor base guards) offset last? := by
  cases guards with
  | nil => exact h
  | cons guard rest => exact h.1

theorem Stacked.change (h : Stacked base offset last? guards)
    (frame : Frame (floor base guards) offset' last?') : Stacked base offset' last?' guards := by
  cases guards with
  | nil => exact frame
  | cons guard rest => exact ⟨frame, h.2⟩

/-- The outermost checkpoint bounds everything above it. -/
theorem Stacked.base_le (h : Stacked base offset last? guards) :
    base ≤ offset ∧ ∀ start, last? = some start → base ≤ start := by
  induction guards generalizing offset last? with
  | nil => exact ⟨h.1, fun start last => (h.2 start last).1⟩
  | cons guard rest ih =>
    have below := (ih h.2).1
    exact ⟨Nat.le_trans below h.1.1,
      fun start last => Nat.le_trans below (h.1.2 start last).1⟩

theorem Nested.advance {a : Arena} (h : Nested base count s) (inside : a.offset ≤ a.capacity)
    (regions : a.regions = s.arena.regions) (frame : Frame (floor base s.guards) a.offset a.last?) :
    Nested base count { s with arena := a } :=
  ⟨inside, by rw [regions]; exact h.counted, h.stacked.change frame⟩

/-! ### What a request leaves alone -/

/-- The same arena, with the same bytes below `base` but for those that were `written`. -/
structure Keeps (base : Nat) (written : Nat → Prop) (a a' : Arena) : Prop where
  id : a'.id = a.id
  address : a'.address = a.address
  capacity : a'.capacity = a.capacity
  below : ∀ i < base, ¬written i → a'.data[i]? = a.data[i]?

variable {written later : Nat → Prop} {a a' a'' : Arena}

theorem Keeps.of_data (id : a'.id = a.id) (address : a'.address = a.address)
    (data : a'.data = a.data) : Keeps base written a a' :=
  ⟨id, address, congrArg List.length data, fun _ _ _ => by rw [data]⟩

theorem Keeps.of_splice {start : Nat} {new : List UInt8} (id : a'.id = a.id)
    (address : a'.address = a.address) (data : a'.data = Buffer.splice a.data start new)
    (fits : start + new.length ≤ a.capacity)
    (outside : ∀ i < base, ¬written i → ¬(start ≤ i ∧ i < start + new.length)) :
    Keeps base written a a' := by
  refine ⟨id, address, ?_, ?_⟩
  · unfold Arena.capacity
    rw [data]
    exact Buffer.length_splice fits
  · intro i low untouched
    rw [data, Buffer.getElem?_splice fits, if_neg (outside i low untouched)]

theorem Keeps.trans (first : Keeps base written a a') (second : Keeps base later a' a'') :
    Keeps base (fun i => written i ∨ later i) a a'' := by
  refine ⟨second.id.trans first.id, second.address.trans first.address,
    second.capacity.trans first.capacity, ?_⟩
  intro i low untouched
  have kept := second.below i low fun now => untouched (Or.inr now)
  exact kept.trans (first.below i low fun before => untouched (Or.inl before))

/-! ### Steps -/

theorem Nested.handOut {start : Nat} {content : List UInt8} (h : Nested base count s)
    (above : s.arena.offset ≤ start) (fits : start + content.length ≤ s.arena.capacity) :
    Nested base count { s with arena := s.arena.handOut start content } ∧
      Keeps base written s.arena (s.arena.handOut start content) := by
  have keeps : Keeps base written s.arena (s.arena.handOut start content) := by
    refine Keeps.of_splice rfl rfl rfl fits ?_
    have low := h.stacked.base_le.1
    omega
  refine ⟨h.advance ?_ rfl ?_, keeps⟩
  · rw [keeps.capacity]
    exact fits
  · have low := Nat.le_trans h.stacked.frame.1 above
    refine ⟨Nat.le_add_right_of_le low, ?_⟩
    rintro l ⟨⟩
    exact ⟨low, Nat.le_add_right start content.length⟩

theorem Nested.refit {b : Block} {size : Nat} {added : List UInt8} (h : Nested base count s)
    (owned : s.arena.checkOwned b = .ok ()) (last : s.arena.last? = some b.offset)
    (room : size ≤ s.arena.capacity - b.offset) (short : added.length ≤ size - b.len) :
    Nested base count { s with arena := s.arena.refit b size added } ∧
      Keeps base written s.arena (s.arena.refit b size added) := by
  obtain ⟨-, -, inside⟩ := Arena.checkOwned_eq_ok_iff.mp owned
  have start := h.stacked.base_le.2 _ last
  have keeps : Keeps base written s.arena (s.arena.refit b size added) := by
    unfold Block.finish at inside
    refine Keeps.of_splice rfl rfl rfl ?_ ?_
    · unfold Block.finish
      omega
    · unfold Block.finish
      omega
  refine ⟨h.advance ?_ rfl ?_, keeps⟩
  · rw [keeps.capacity]
    unfold Block.finish at inside
    show b.offset + size ≤ s.arena.capacity
    omega
  · have low := (h.stacked.frame.2 _ last).1
    refine ⟨Nat.le_add_right_of_le low, ?_⟩
    intro l same
    obtain rfl : b.offset = l := Option.some.inj (last.symm.trans same)
    exact ⟨low, Nat.le_add_right _ _⟩

/-- No request disturbs the order of the checkpoints, or a byte below `base` that it does not
write. Only an arena that has no region open can be emptied, and then `base` must be its start. -/
theorem perform_nested (h : Nested base count s) (shielded : base = 0 ∨ 0 < count)
    (request : Request Block) :
    Nested base count (s.perform request).2 ∧
      Keeps base (fun i => s.Writes i request) s.arena (s.perform request).2.arena := by
  have stays : Nested base count s ∧ Keeps base (fun i => s.Writes i request) s.arena s.arena :=
    ⟨h, .of_data rfl rfl rfl⟩
  have low := h.stacked.frame.1
  cases request with
  | alloc size align =>
    rcases perform_alloc h.inside size align with ⟨answer, -, same⟩ | ⟨start, above, fits, handed⟩
    · rw [same]
      exact stays
    · rw [handed]
      exact h.handOut above (by rw [List.length_replicate]; exact fits)
  | realloc block size align =>
    rcases perform_realloc h.inside block size align with ⟨answer, -, same⟩ |
      ⟨owned, last, room, resized⟩ | ⟨-, -, start, content, above, fits, length, -, moved⟩
    · rw [same]
      exact stays
    · rw [resized]
      exact h.refit owned last room (Nat.le_of_eq List.length_replicate)
    · rw [moved]
      exact h.handOut above (by rw [length]; exact fits)
  | resize block size =>
    rcases perform_resize block size with ⟨answer, -, same⟩ | ⟨owned, last, room, resized⟩
    · rw [same]
      exact stays
    · rw [resized]
      exact h.refit owned last room (Nat.zero_le _)
  | write block start bytes =>
    rcases perform_write block start bytes with ⟨fault, same⟩ | ⟨owned, fits, written⟩
    · rw [same]
      exact stays
    · rw [written]
      obtain ⟨-, -, within⟩ := Arena.checkOwned_eq_ok_iff.mp owned
      unfold Block.finish at within
      have keeps : Keeps base (fun i => s.Writes i (.write block start bytes)) s.arena
          { s.arena with data := Buffer.splice s.arena.data (block.offset + start) bytes } := by
        refine .of_splice rfl rfl rfl (by omega) fun i _ untouched covers => ?_
        exact untouched ⟨covers, by rw [written]⟩
      exact ⟨h.advance (by rw [keeps.capacity]; exact h.inside) rfl h.stacked.frame, keeps⟩
  | free block align => exact stays
  | freeAll =>
    rcases perform_freeAll (s := s) with ⟨fault, same⟩ | ⟨closed, emptied⟩
    · rw [same]
      exact stays
    · rw [emptied]
      -- no region is open, not even one around this session, so `base` is the start
      have counted := h.counted
      rw [closed, UInt32.toNat_zero] at counted
      have outermost : s.guards = [] := List.length_eq_zero_iff.mp (by omega)
      refine ⟨h.advance (Nat.zero_le _) rfl ?_, .of_data rfl rfl rfl⟩
      rw [outermost]
      exact ⟨by show base ≤ 0; omega, fun l none => by cases none⟩
  | openRegion =>
    rcases perform_openRegion (s := s) with ⟨fault, failed⟩ | ⟨countable, opened⟩
    · rw [failed]
      exact ⟨h.advance h.inside rfl ⟨low, fun l none => by cases none⟩, .of_data rfl rfl rfl⟩
    · rw [opened]
      refine ⟨⟨h.inside, ?_, ⟨Nat.le_refl _, fun l none => by cases none⟩, h.stacked⟩,
        .of_data rfl rfl rfl⟩
      show (s.arena.regions + 1).toNat = count + (s.guards.length + 1)
      rw [Arena.toNat_regions_succ countable, h.counted, Nat.add_assoc]
  | closeRegion =>
    obtain ⟨arena, guards⟩ := s
    cases guards with
    | nil => exact stays
    | cons guard guards =>
      have counted : arena.regions.toNat = count + (guards.length + 1) := h.counted
      have above : guard.offset ≤ arena.offset := h.stacked.1.1
      rw [perform_closeRegion (by omega) above]
      refine ⟨⟨Nat.le_trans above h.inside, ?_, h.stacked.2⟩, .of_data rfl rfl rfl⟩
      show (arena.regions - 1).toNat = count + guards.length
      rw [Arena.toNat_regions_pred (by omega)]
      omega

theorem run_nested (h : Nested base count s) (shielded : base = 0 ∨ 0 < count)
    (requests : List (Request Block)) :
    Nested base count (s.run requests) ∧
      Keeps base (fun i => s.Written i requests) s.arena (s.run requests).arena := by
  induction requests generalizing s with
  | nil => exact ⟨h, .of_data rfl rfl rfl⟩
  | cons request rest ih =>
    obtain ⟨stepped, keeps⟩ := perform_nested h shielded request
    obtain ⟨ran, kept⟩ := ih stepped
    exact ⟨ran, keeps.trans kept⟩

end Session

end FrontEnd.Memory
