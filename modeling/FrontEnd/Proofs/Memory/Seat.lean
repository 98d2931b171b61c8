import FrontEnd.Memory.Cell
import FrontEnd.Proofs.Maintains
import FrontEnd.Proofs.Memory.RegionFrame

/-!
# What an arena keeps

No operation takes an arena out of bounds, changes its identity or moves its buffer, and every block
that one hands out belongs to that identity and lies in that buffer.
-/

namespace FrontEnd.Memory

/-- An identity, and where the buffer of its arena lies. -/
structure Seat where
  id : UInt32
  address : Nat
  capacity : Nat
  deriving DecidableEq, Repr

/-- A block of that identity that ends inside that buffer. -/
def Seat.Has (seat : Seat) (b : Block) : Prop := b.owner = seat.id ∧ b.finish ≤ seat.capacity

/-- An answer whose block, if it has one, belongs to a seat. -/
def Seat.Backs (seat : Seat) : Except AllocError Block → Prop
  | .ok b => seat.Has b
  | .error _ => True

/-- A checkpoint that an arena in bounds could be at. -/
def Checkpoint.InBounds (c : Checkpoint) : Prop := ∀ start, c.last? = some start → start ≤ c.offset

namespace Arena

/-- The seat that an arena has. -/
def seat (a : Arena) : Seat := ⟨a.id, a.address, a.capacity⟩

/-- An arena in bounds that has a seat. -/
structure Seated (seat : Seat) (a : Arena) : Prop where
  same : a.seat = seat
  inBounds : a.InBounds

variable {a : Arena} {b : Block} {size align start : Nat} {content : List UInt8} {seat : Seat}

theorem inBounds_of_none (unset : a.last? = none) (inside : a.offset ≤ a.capacity) : a.InBounds := by
  refine ⟨fun start last => ?_, inside⟩
  rw [unset] at last
  cases last

theorem checkOwned_of_has (word : seat.capacity < wordLimit) (has : seat.Has b)
    (same : a.seat = seat) : a.checkOwned b = .ok () := by
  subst same
  exact checkOwned_eq_ok_iff.mpr ⟨has.1, Nat.lt_of_le_of_lt has.2 word, has.2⟩

/-! ### Changes -/

theorem seat_of_splice {new : Arena} (id : new.id = a.id) (address : new.address = a.address)
    (data : new.data = Buffer.splice a.data start content)
    (fits : start + content.length ≤ a.capacity) : new.seat = a.seat := by
  have capacity : new.capacity = a.capacity := by
    unfold capacity
    rw [data]
    exact Buffer.length_splice fits
  simp only [Arena.seat, id, address, capacity]

theorem Seated.handOut (h : a.Seated seat) (fits : start + content.length ≤ a.capacity) :
    (a.handOut start content).Seated seat ∧ seat.Has ⟨a.id, start, content.length⟩ := by
  obtain ⟨rfl, -⟩ := h
  have same : (a.handOut start content).seat = a.seat := seat_of_splice rfl rfl rfl fits
  refine ⟨⟨same, ?_, ?_⟩, rfl, fits⟩
  · rintro _ ⟨⟩
    exact Nat.le_add_right start content.length
  · exact Nat.le_trans fits (Nat.le_of_eq (congrArg Seat.capacity same).symm)

theorem Seated.data (h : a.Seated seat) {data : List UInt8} (length : data.length = a.capacity) :
    Seated seat { a with data } := by
  obtain ⟨rfl, inBounds⟩ := h
  refine ⟨?_, inBounds.last_le, Nat.le_trans inBounds.offset_le (Nat.le_of_eq length.symm)⟩
  exact congrArg (Seat.mk a.id a.address) length

/-- The last block starts in bounds, so that it lies inside with its new size wherever it ended
before. -/
theorem Seated.refit (h : a.Seated seat) (owner : b.owner = a.id)
    (last : a.last? = some b.offset) (room : size ≤ a.capacity - b.offset)
    (short : content.length ≤ size - b.len) :
    (a.refit b size content).Seated seat ∧ seat.Has { b with len := size } := by
  obtain ⟨rfl, inBounds⟩ := h
  have starts := inBounds.last_le b.offset last
  have inside := inBounds.offset_le
  have ends : b.offset + size ≤ a.capacity := by omega
  have same : (a.refit b size content).seat = a.seat := by
    cases content with
    | nil =>
      unfold Arena.refit
      rw [Buffer.splice_nil]
      rfl
    | cons byte rest =>
      refine seat_of_splice rfl rfl rfl ?_
      rw [List.length_cons] at short
      unfold Block.finish
      rw [List.length_cons]
      omega
  refine ⟨⟨same, ?_, ?_⟩, owner, ends⟩
  · intro start found
    obtain rfl : b.offset = start := Option.some.inj (last.symm.trans found)
    exact Nat.le_add_right b.offset size
  · exact Nat.le_trans ends (Nat.le_of_eq (congrArg Seat.capacity same).symm)

/-! ### Operations -/

theorem maintains_alloc [Build] (size align : Nat) :
    Maintains (Seated seat) seat.Backs (alloc size align) := by
  intro a seated
  rcases alloc_cases a size align with ⟨-, failed⟩ | ⟨fault, -, -, failed⟩ |
    ⟨-, -, -, -, refused⟩ | ⟨padding, -, -, -, room, handed⟩
  · rw [failed]
    exact seated
  · rw [failed]
    exact seated
  · rw [refused]
    exact ⟨trivial, seated⟩
  · rw [handed]
    have inside := seated.inBounds.offset_le
    unfold remaining at room
    have fits : a.offset + padding + (List.replicate size (0 : UInt8)).length ≤ a.capacity := by
      rw [List.length_replicate]
      omega
    obtain ⟨kept, has⟩ := seated.handOut fits
    rw [List.length_replicate] at has
    exact ⟨has, kept⟩

theorem maintains_resize? [Build] (b : Block) (size : Nat) :
    Maintains (Seated seat) (fun answer => ∀ r, answer = some r → seat.Has r) (resize? b size) := by
  intro a seated
  rcases resize?_cases a b size with ⟨fault, -, failed⟩ | ⟨-, -, declined⟩ |
    ⟨owned, last, room, resized⟩
  · rw [failed]
    exact seated
  · rw [declined]
    exact ⟨nofun, seated⟩
  · rw [resized]
    have nothing : ([] : List UInt8).length ≤ size - b.len := Nat.zero_le _
    obtain ⟨kept, has⟩ := seated.refit (owner_of_owned owned) last room nothing
    refine ⟨?_, kept⟩
    rintro r ⟨⟩
    exact has

theorem maintains_clear (start stop : Nat) :
    Maintains (Seated seat) (fun _ => True) (clear start stop) := by
  refine maintains_get.bind fun a seated => maintains_orFault.bind fun old read => ?_
  refine maintains_set (seated.data (Buffer.length_splice ?_))
  rw [List.length_replicate]
  exact Buffer.slice_fits read

theorem maintains_copyWithin (start stop target : Nat) :
    Maintains (Seated seat) (fun _ => True) (copyWithin start stop target) := by
  refine maintains_get.bind fun a seated => maintains_orFault.bind fun new made => ?_
  obtain ⟨old, -, put⟩ := bind_eq_ok made
  exact maintains_set (seated.data (Buffer.length_overwrite put))

theorem maintains_realloc [Build] (b : Block) (size align : Nat) :
    Maintains (Seated seat) seat.Backs (realloc b size align) := by
  refine (maintains_resize? b size).bind fun resized? has => ?_
  cases resized? with
  | some resized =>
    have backs : seat.Backs (.ok resized) := has resized rfl
    dsimp only
    split
    · exact (maintains_clear _ _).bind fun _ _ => maintains_pure backs
    · exact maintains_pure backs
  | none =>
    refine (maintains_alloc size align).bind fun answer backs => ?_
    cases answer with
    | ok fresh =>
      exact maintains_orFault.bind fun stop _ =>
        (maintains_copyWithin b.offset stop fresh.offset).bind fun _ _ => maintains_pure backs
    | error refusal => exact maintains_pure trivial

/-- What is read of a block lies in the buffer. -/
theorem bytes_fit [Build] {shown : List UInt8} (read : a.bytes b = .ok shown) :
    b.offset + shown.length ≤ a.capacity := by
  obtain ⟨-, -, rest⟩ := bind_eq_ok read
  obtain ⟨stop, -, sliced⟩ := bind_eq_ok rest
  exact Buffer.slice_fits sliced

theorem maintains_writeBytes [Build] (b : Block) (start : Nat) (new : List UInt8) :
    Maintains (Seated seat) (fun _ => True) (writeBytes b start new) := by
  refine maintains_get.bind fun a seated => maintains_orFault.bind fun changed made => ?_
  obtain ⟨old, read, put⟩ := bind_eq_ok made
  refine maintains_set (seated.data (Buffer.length_splice ?_))
  rw [Buffer.length_overwrite put]
  exact bytes_fit read

theorem maintains_make (t : Scalar) :
    Maintains (Seated seat) (fun answer => seat.Backs (answer.map Cell.block)) (make t) := by
  refine (maintains_alloc t.size t.align).bind fun answer backs => ?_
  cases answer with
  | ok block =>
    exact (maintains_writeBytes block 0 _).bind fun _ _ => maintains_pure backs
  | error refusal => exact maintains_pure trivial

theorem maintains_makeArray (t : Scalar) (count : Nat) :
    Maintains (Seated seat) (fun answer => seat.Backs (answer.map CellArray.block))
      (makeArray t count) := by
  unfold makeArray
  split
  · refine (maintains_alloc _ _).bind fun answer backs => ?_
    cases answer with
    | ok block =>
      exact (maintains_writeBytes block 0 _).bind fun _ _ => maintains_pure backs
    | error refusal => exact maintains_pure trivial
  · exact maintains_pure trivial

theorem maintains_freeAll : Maintains (Seated seat) (fun _ => True) freeAll := by
  intro a seated
  rcases freeAll_cases a with ⟨fault, -, failed⟩ | ⟨-, emptied⟩
  · rw [failed]
    exact seated
  · rw [emptied]
    exact ⟨trivial, seated.same, inBounds_of_none rfl (Nat.zero_le _)⟩

/-- What a region goes back to is in bounds, whatever arena it is closed on. -/
theorem maintains_openRegion : Maintains (Seated seat) Checkpoint.InBounds openRegion := by
  intro a seated
  have inBounds := seated.inBounds
  rcases openRegion_cases a with ⟨-, failed⟩ | ⟨-, opened⟩
  · rw [failed]
    exact ⟨seated.same, inBounds_of_none rfl inBounds.offset_le⟩
  · rw [opened]
    exact ⟨inBounds.last_le, seated.same, inBounds_of_none rfl inBounds.offset_le⟩

theorem maintains_closeRegion {c : Checkpoint} (saved : c.InBounds) :
    Maintains (Seated seat) (fun _ => True) (closeRegion c) := by
  intro a seated
  rcases closeRegion_cases a c with ⟨fault, -, -, failed⟩ | ⟨-, above, closed⟩
  · rw [failed]
    exact seated
  · rw [closed]
    exact ⟨trivial, seated.same, saved, Nat.le_trans above seated.inBounds.offset_le⟩

theorem maintains_allocScoped (size align : Nat) :
    Maintains (Seated seat) (fun answer => seat.Backs (answer.map ScopedBlock.block))
      (allocScoped size align) := by
  refine maintains_openRegion.bind fun checkpoint saved => ?_
  have body : Maintains (Seated seat) (fun answer => seat.Backs (answer.map ScopedBlock.block)) (do
      let answer ← alloc size align
      let inside ← get
      return answer.map fun block => ({ checkpoint, inside, block } : ScopedBlock)) := by
    refine (maintains_alloc size align).bind fun answer backs => ?_
    refine maintains_get.bind fun inside _ => maintains_pure ?_
    cases answer <;> exact backs
  exact body.bind fun _ backs =>
    (maintains_closeRegion saved).bind fun _ _ => maintains_pure backs

end Arena

end FrontEnd.Memory
