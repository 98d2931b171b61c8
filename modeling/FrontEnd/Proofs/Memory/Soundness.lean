import Mathlib.Data.List.Pairwise
import FrontEnd.Proofs.Memory.Contents
import FrontEnd.Proofs.Memory.Layout

/-!
# Sound clients

`Sound` ties a session to the heap that its client sees. For each change that a request can come to
there is a lemma that a sound client stays sound under it.
-/

namespace FrontEnd.Memory

namespace Client

/-- The heap describes the session. -/
structure Sound (c : Client) : Prop where
  nested : Session.Nested 0 0 c.session
  word : c.arena.capacity < wordLimit
  layered : Layered c.arena.offset c.arena.last? c.heap.inner c.session.guards c.heap.outer
  named : (c.heap.live.map Live.name).Nodup
  known : ∀ l ∈ c.heap.live, l.name < c.heap.next
  holds : ∀ l ∈ c.heap.live, Holds c.arena l.block (c.heap.held l.name)

/-- A client goes on to a sound one, and still reads the same bytes from every block that it had,
but for the `operand?`. -/
structure Carries (c c' : Client) (operand? : Option Nat) : Prop where
  sound : c'.Sound
  apart : ∀ l ∈ c.heap.live, operand? ≠ some l.name → c'.arena.bytes l.block = c.arena.bytes l.block

theorem new_sound {data : List UInt8} (word : data.length < wordLimit) (id : UInt32)
    (address : Nat) : (new id address data).Sound where
  nested := ⟨Nat.zero_le _, rfl, Nat.le_refl 0, by rintro start ⟨⟩⟩
  word := word
  layered := settled_nil 0 0 none
  named := List.nodup_nil
  known := by rintro l ⟨⟩
  holds := by rintro l ⟨⟩

variable {c : Client} {s : Session} {h : Heap} {k l : Live} {name next size start : Nat}
  {known : List (Option UInt8)} {content new : List UInt8} {operand? : Option Nat}

/-! ### Where blocks lie -/

theorem Sound.ordered (sound : c.Sound) :
    c.heap.live.Pairwise fun newer older => older.block.finish ≤ newer.block.offset :=
  sound.layered.ordered sound.nested.stacked

theorem Sound.finish_le (sound : c.Sound) (live : l ∈ c.heap.live) :
    l.block.finish ≤ c.arena.offset :=
  sound.layered.finish_le sound.nested.stacked l live

theorem Sound.disjoint (sound : c.Sound) :
    c.heap.live.Pairwise fun k l => k.block.Disjoint l.block :=
  sound.ordered.imp fun after => Or.inr after

theorem Sound.apart (sound : c.Sound) (live : l ∈ c.heap.live) (other : k ∈ c.heap.live)
    (ne : k.name ≠ l.name) : l.block.Disjoint k.block := by
  exact sound.disjoint.forall live other fun same => ne (congrArg Live.name same.symm)

theorem Sound.eq_of_name (sound : c.Sound) (live : l ∈ c.heap.live) (other : k ∈ c.heap.live)
    (same : k.name = l.name) : k = l :=
  List.inj_on_of_nodup_map sound.named other live same

theorem Sound.owned (sound : c.Sound) (live : l ∈ c.heap.live) :
    c.arena.checkOwned l.block = .ok () := by
  obtain ⟨bytes, read, -⟩ := sound.holds l live
  obtain ⟨owner, short, inside, -⟩ := Arena.bytes_eq_ok_iff.mp read
  exact Arena.checkOwned_eq_ok_iff.mpr ⟨owner, short, inside⟩

theorem Sound.inside (sound : c.Sound) (live : l ∈ c.heap.live) :
    l.block.finish ≤ c.arena.capacity :=
  (Arena.checkOwned_eq_ok_iff.mp (sound.owned live)).2.2

/-- Every other block ends where the newest starts, or before. -/
theorem Sound.le_newest (sound : c.Sound) (newest : c.heap.newest? = some l)
    (other : k ∈ c.heap.live) (ne : k.name ≠ l.name) : k.block.finish ≤ l.block.offset := by
  have ordered := sound.ordered
  rw [Heap.live_of_newest newest] at ordered other
  rcases List.mem_cons.mp other with rfl | older
  · exact absurd rfl ne
  · exact (List.pairwise_cons.mp ordered).1 k older

/-- A request about a live block is made with its handle. -/
theorem Sound.step_of_live (sound : c.Sound) (live : l ∈ c.heap.live) {request : Request Nat}
    {make : Block → Request Block} {answer : Answer}
    (about : request.resolve? c.heap.block? = (c.heap.block? l.name).map make)
    (performed : c.session.perform (make l.block) = (answer, s)) :
    c.step request = ⟨s, c.heap.after request answer⟩ := by
  rw [Heap.block?_of_mem sound.named live] at about
  exact step_eq about performed

/-! ### Changes -/

theorem Sound.stays (sound : c.Sound) (operand? : Option Nat) : c.Carries c operand? :=
  ⟨sound, fun _ _ _ => rfl⟩

theorem Sound.drop (sound : Sound ⟨s, h⟩) (name : Nat) : Sound ⟨s, h.drop name⟩ := by
  have fewer : (h.drop name).live.Sublist h.live := by
    rw [Heap.live_drop]
    exact List.filter_sublist
  exact
    { nested := sound.nested
      word := sound.word
      layered := sound.layered.filter _
      named := sound.named.sublist (fewer.map Live.name)
      known := fun l live => sound.known l (fewer.subset live)
      holds := fun l live => sound.holds l (fewer.subset live) }

/-- A block handed out under a name that no live block has. -/
theorem Sound.handOut (sound : Sound ⟨s, h⟩) (above : s.arena.offset ≤ start)
    (fits : start + content.length ≤ s.arena.capacity) (fresh : ∀ l ∈ h.live, l.name ≠ name)
    (later : h.next ≤ next) (given : name < next) (agrees : Agrees known content) :
    Sound ⟨{ s with arena := s.arena.handOut start content },
      { (h.add name ⟨s.arena.id, start, content.length⟩).hold name known with next := next }⟩ := by
  have moved : _ ∧ Session.Keeps 0 (fun _ => False) _ _ := sound.nested.handOut above fits
  have kept : ∀ l ∈ h.live, (s.arena.handOut start content).bytes l.block = s.arena.bytes l.block :=
    fun l live => bytes_handOut fits (Nat.le_trans (sound.finish_le live) above)
  refine ⟨moved.1, ?_, ?_, ?_, ?_, ?_⟩
  · exact Nat.lt_of_le_of_lt (Nat.le_of_eq moved.2.capacity) sound.word
  · have low := Nat.le_trans sound.nested.stacked.frame.1 above
    have settled := sound.layered.settled
    exact sound.layered.change
      (settled.push (l := ⟨name, s.arena.id, start, content.length⟩) low above)
  · refine List.nodup_cons.mpr ⟨?_, sound.named⟩
    intro member
    obtain ⟨l, live, same⟩ := List.mem_map.mp member
    exact fresh l live same
  · intro l live
    rcases List.mem_cons.mp live with rfl | old
    · exact given
    · exact Nat.lt_of_lt_of_le (sound.known l old) later
  · intro l live
    rcases List.mem_cons.mp live with rfl | old
    · have held := holds_handOut sound.word fits agrees
      rw [← Heap.held_hold_self h name known] at held
      exact held
    · have held := (sound.holds l old).congr (kept l old)
      rw [← Heap.held_hold_ne h known (fresh l old)] at held
      exact held

theorem Sound.refit {added : Option UInt8} (sound : Sound ⟨s, h⟩) (newest : h.newest? = some l)
    (last : s.arena.last? = some l.block.offset)
    (room : size ≤ s.arena.capacity - l.block.offset) (short : content.length ≤ size - l.block.len)
    (filled : ∀ v, added = some v → content = List.replicate (size - l.block.len) v) :
    Carries ⟨s, h⟩ ⟨{ s with arena := s.arena.refit l.block size content },
      (h.renew ⟨l.name, { l.block with len := size }⟩).hold l.name
        (Heap.fit (h.held l.name) size added)⟩ (some l.name) := by
  have live := Heap.mem_of_newest newest
  have inside := sound.inside live
  have fits : l.block.offset + size ≤ s.arena.capacity := by
    have start_le : l.block.offset ≤ l.block.finish := Nat.le_add_right _ _
    have inside : l.block.finish ≤ s.arena.capacity := inside
    omega
  have resized : _ ∧ Session.Keeps 0 (fun _ => False) _ _ :=
    sound.nested.refit (sound.owned live) last room short
  have kept : ∀ k ∈ h.live, k.name ≠ l.name →
      (s.arena.refit l.block size content).bytes k.block = s.arena.bytes k.block :=
    fun k other ne => bytes_refit fits inside short (sound.le_newest newest other ne)
  have others := Heap.name_ne_newest sound.named newest
  have split := Heap.live_of_newest newest
  have older : ∀ k ∈ h.inner.tail ++ h.outer.flatten, k ∈ h.live := by
    intro k member
    rw [split]
    exact List.mem_cons_of_mem l member
  refine ⟨⟨resized.1, ?_, ?_, ?_, ?_, ?_⟩, fun k other ne => kept k other ?_⟩
  · exact Nat.lt_of_le_of_lt (Nat.le_of_eq resized.2.capacity) sound.word
  · have settled : Settled (Session.floor 0 s.guards) s.arena.offset s.arena.last? h.inner :=
      sound.layered.settled
    obtain ⟨rest, inner⟩ := List.head?_eq_some_iff.mp newest
    have tail : h.inner.tail = rest := by rw [inner, List.tail_cons]
    rw [inner] at settled
    have low := (settled.between l List.mem_cons_self).1
    have pushed :=
      settled.older.push (l := ⟨l.name, { l.block with len := size }⟩) low (Nat.le_refl _)
    rw [← last, ← tail] at pushed
    exact sound.layered.change pushed
  · have named := sound.named
    rw [split] at named
    exact named
  · intro k member
    rcases List.mem_cons.mp member with rfl | old
    · exact sound.known l live
    · exact sound.known k (older k old)
  · intro k member
    rcases List.mem_cons.mp member with rfl | old
    · have held := (sound.holds l live).refit sound.word fits short filled
      rw [← Heap.held_hold_self h l.name (Heap.fit _ _ _)] at held
      exact held
    · have held := (sound.holds k (older k old)).congr (kept k (older k old) (others k old))
      rw [← Heap.held_hold_ne h (Heap.fit (h.held l.name) size added) (others k old)] at held
      exact held
  · exact fun same => ne (congrArg some same.symm)

theorem Sound.write (sound : Sound ⟨s, h⟩) (live : l ∈ h.live)
    (fits : start + new.length ≤ l.block.len) :
    Carries ⟨s, h⟩ ⟨{ s with arena := { s.arena with
        data := Buffer.splice s.arena.data (l.block.offset + start) new } },
      h.hold l.name (Heap.overwritten (h.held l.name) start new)⟩ (some l.name) := by
  have inside : l.block.finish ≤ s.arena.capacity := sound.inside live
  have kept : ∀ k ∈ h.live, k.name ≠ l.name → Arena.bytes { s.arena with
      data := Buffer.splice s.arena.data (l.block.offset + start) new } k.block =
        s.arena.bytes k.block :=
    fun k other ne => bytes_write inside fits (sound.apart live other ne)
  have room : l.block.offset + start + new.length ≤ s.arena.data.length := by
    unfold Block.finish Arena.capacity at inside
    omega
  have capacity := Buffer.length_splice room
  refine ⟨⟨?_, ?_, sound.layered, sound.named, sound.known, ?_⟩, fun k other ne => kept k other ?_⟩
  · exact sound.nested.advance (Nat.le_trans sound.nested.inside (Nat.le_of_eq capacity.symm)) rfl
      sound.nested.stacked.frame
  · exact Nat.lt_of_le_of_lt (Nat.le_of_eq capacity) sound.word
  · intro k other
    by_cases same : k.name = l.name
    · obtain rfl := sound.eq_of_name live other same
      have held := (sound.holds k live).write fits
      rw [← Heap.held_hold_self h k.name (Heap.overwritten _ _ _)] at held
      exact held
    · have held := (sound.holds k other).congr (kept k other same)
      rw [← Heap.held_hold_ne h (Heap.overwritten (h.held l.name) start new) same] at held
      exact held
  · exact fun same => ne (congrArg some same.symm)

theorem Sound.emptied (sound : Sound ⟨s, h⟩) (closed : s.arena.regions = 0)
    (nested : Session.Nested 0 0
      { s with arena := { s.arena with offset := 0, last? := none } }) :
    Sound ⟨{ s with arena := { s.arena with offset := 0, last? := none } },
      { h with inner := [], outer := [] }⟩ := by
  have counted : s.arena.regions.toNat = 0 + s.guards.length := sound.nested.counted
  rw [closed, UInt32.toNat_zero] at counted
  have outermost : s.guards = [] := List.length_eq_zero_iff.mp (by omega)
  refine ⟨nested, sound.word, ?_, List.nodup_nil, by rintro l ⟨⟩, by rintro l ⟨⟩⟩
  show Layered 0 none [] s.guards []
  rw [outermost]
  exact settled_nil 0 0 none

/-- The last block given up, as by a region too many to count. -/
theorem Sound.without_last (sound : Sound ⟨s, h⟩)
    (nested : Session.Nested 0 0 { s with arena := { s.arena with last? := none } }) :
    Sound ⟨{ s with arena := { s.arena with last? := none } }, h⟩ :=
  ⟨nested, sound.word, sound.layered.change sound.layered.settled.without_last, sound.named,
    sound.known, sound.holds⟩

theorem Sound.opened (sound : Sound ⟨s, h⟩)
    (nested : Session.Nested 0 0 ⟨{ s.arena with last? := none, regions := s.arena.regions + 1 },
      ⟨s.arena.offset, s.arena.last?⟩ :: s.guards⟩) :
    Sound ⟨⟨{ s.arena with last? := none, regions := s.arena.regions + 1 },
        ⟨s.arena.offset, s.arena.last?⟩ :: s.guards⟩,
      { h with inner := [], outer := h.inner :: h.outer }⟩ :=
  ⟨nested, sound.word, ⟨settled_nil _ _ _, sound.layered⟩, sound.named, sound.known, sound.holds⟩

/-- The innermost region closed. Its blocks are dropped, and those around it are as they were. -/
theorem Sound.closed {arena : Arena} {guard : Checkpoint} {guards : List Checkpoint}
    (sound : Sound ⟨⟨arena, guard :: guards⟩, h⟩)
    (nested : Session.Nested 0 0 ⟨{ arena with
      offset := guard.offset, last? := guard.last?, regions := arena.regions - 1 }, guards⟩) :
    Sound ⟨⟨{ arena with
        offset := guard.offset, last? := guard.last?, regions := arena.regions - 1 }, guards⟩,
      h.after .closeRegion .done⟩ := by
  obtain ⟨inner, outer, held, next⟩ := h
  match outer, sound with
  | around :: outer, sound =>
    have fewer : (around ++ outer.flatten).Sublist (inner ++ (around ++ outer.flatten)) :=
      List.sublist_append_right _ _
    exact
      { nested := nested
        word := sound.word
        layered := sound.layered.2
        named := sound.named.sublist (fewer.map Live.name)
        known := fun l live => sound.known l (fewer.subset live)
        holds := fun l live => sound.holds l (fewer.subset live) }
  | [], sound => exact sound.layered.elim

end Client

end FrontEnd.Memory
