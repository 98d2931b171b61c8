import FrontEnd.Proofs.Memory.Refinement
import FrontEnd.Proofs.Memory.Resizing
import FrontEnd.Proofs.Memory.Rounding
import FrontEnd.Proofs.Memory.Seat

/-!
# Which blocks are aligned

`alloc` turns down what is no alignment, and places a block at a multiple of what is one. `realloc`
does so only for a block that it moves: where it resizes a block in place it reads no alignment at
all. `blocks_are_aligned` says which calls that concerns, and that no other block is out of line.
-/

namespace FrontEnd.Memory

namespace Arena

/-- A block that starts where `align` asks for, which must be an alignment. -/
def Aligns (a : Arena) (b : Block) (align : Nat) : Prop :=
  align.isPowerOfTwo ∧ max align minAlignment ∣ a.address + b.offset

variable {a a' : Arena} {b r : Block} {size align : Nat}

theorem aligns_handOut {padding : Nat} (allowed : isAlignment align = true)
    (skipped : a.padding (max align minAlignment) = .ok padding) :
    a.Aligns ⟨a.id, a.offset + padding, size⟩ align := by
  have after := le_alignUp (a.address + a.offset) (max align minAlignment)
  have start : a.address + (a.offset + padding) =
      alignUp (a.address + a.offset) (max align minAlignment) := by
    rw [(padding_eq_ok_iff.mp skipped).2]
    omega
  refine ⟨isAlignment_iff.mp allowed, ?_⟩
  rw [start]
  exact dvd_alignUp _ (max_minAlignment_pos align)

theorem aligns_of_alloc (handed : alloc size align a = .ok (.ok b) a') : a.Aligns b align := by
  rcases alloc_cases a size align with ⟨-, failed⟩ | ⟨fault, -, -, failed⟩ |
    ⟨-, -, -, -, refused⟩ | ⟨padding, allowed, skipped, -, -, handed'⟩
  · cases failed.symm.trans handed
  · cases failed.symm.trans handed
  · cases refused.symm.trans handed
  · cases handed'.symm.trans handed
    exact aligns_handOut allowed skipped

/-- A block keeps its place or gets one as asked for, by whether it can be resized. -/
theorem realloc_places (inside : a.offset ≤ a.capacity)
    (given : realloc b size align a = .ok (.ok r) a') :
    (a.Resizes b size ∧ r.offset = b.offset) ∨ (¬a.Resizes b size ∧ a.Aligns r align) := by
  rw [resizes_iff]
  rcases realloc_cases (a.judges b) inside size align with ⟨fault, -, failed⟩ | refused |
    ⟨owned, last, room, resized⟩ |
    ⟨-, apart, padding, content, allowed, skipped, -, -, -, -, moved⟩
  · cases failed.symm.trans given
  · cases refused.symm.trans given
  · cases resized.symm.trans given
    exact Or.inl ⟨⟨owned, last, room⟩, rfl⟩
  · cases moved.symm.trans given
    exact Or.inr ⟨fun ⟨_, fits⟩ => apart fits, aligns_handOut allowed skipped⟩

theorem alloc_of_odd (odd : ¬align.isPowerOfTwo) :
    alloc size align a = .error (.badAlignment align) a := by
  rw [← isAlignment_iff] at odd
  rcases alloc_cases a size align with ⟨-, failed⟩ | ⟨-, allowed, -⟩ | ⟨-, allowed, -⟩ |
    ⟨-, allowed, -⟩
  · exact failed
  · exact absurd allowed odd
  · exact absurd allowed odd
  · exact absurd allowed odd

theorem realloc_of_odd (owned : a.checkOwned b = .ok ()) (stuck : ¬a.Resizes b size)
    (odd : ¬align.isPowerOfTwo) : realloc b size align a = .error (.badAlignment align) a := by
  refine realloc_of_fault (resize_declined owned fun fits => stuck ?_) (alloc_of_odd odd)
  exact resizes_iff.mpr ⟨owned, fits⟩

end Arena

/-! ### Sessions -/

/-- A block of the arena at a seat, at a multiple of what every block is aligned to. -/
structure Seat.Grounds (seat : Seat) (b : Block) : Prop where
  has : seat.Has b
  aligned : minAlignment ∣ seat.address + b.offset

theorem Arena.Aligns.minAlignment_dvd {a : Arena} {b : Block} {align : Nat}
    (aligns : a.Aligns b align) : minAlignment ∣ a.address + b.offset :=
  Nat.dvd_trans (minAlignment_dvd_max aligns.1) aligns.2

namespace Session

variable {s s' : Session} {b : Block} {request : Request Block} {size base : Nat}

theorem Keeps.seat {written : Nat → Prop} {a a' : Arena} (keeps : Keeps base written a a') :
    a'.seat = a.seat := by
  unfold Arena.seat
  rw [keeps.id, keeps.address, keeps.capacity]

theorem Nested.seated (nested : s.Nested 0 0) : s.arena.Seated s.arena.seat :=
  ⟨rfl, fun start last => (nested.stacked.frame.2 start last).2, nested.inside⟩

theorem handle_of_onArena {α : Type} {action : ArenaM α} {answer : α → Answer}
    (given : s.onArena action answer = (.handle b, s')) :
    ∃ v a', action s.arena = .ok v a' ∧ answer v = .handle b := by
  unfold onArena catching at given
  split at given
  · rename_i v a' ran
    exact ⟨v, a', ran, congrArg Prod.fst given⟩
  · cases given

theorem ok_of_ofAlloc {action : ArenaM (Except AllocError Block)}
    (given : s.onArena action .ofAlloc = (.handle b, s')) : ∃ a', action s.arena = .ok (.ok b) a' := by
  obtain ⟨answer, a', ran, answered⟩ := handle_of_onArena given
  cases answer with
  | error reason => cases answered
  | ok block =>
    cases answered
    exact ⟨a', ran⟩

/-- A block handed out is grounded if the one that the request is about was. -/
theorem grounds_of_handle (nested : s.Nested 0 0) (sized : request.size? = some size)
    (grounded : ∀ old, request.operand? = some old → s.arena.seat.Grounds old)
    (given : s.perform request = (.handle b, s')) : s.arena.seat.Grounds b := by
  have seated := nested.seated
  cases request with
  | alloc asked align =>
    obtain ⟨a', handed⟩ := ok_of_ofAlloc given
    have kept := Arena.maintains_alloc asked align s.arena seated
    rw [handed] at kept
    exact ⟨kept.1, (Arena.aligns_of_alloc handed).minAlignment_dvd⟩
  | realloc old asked align =>
    obtain ⟨a', handed⟩ := ok_of_ofAlloc given
    have kept := Arena.maintains_realloc old asked align s.arena seated
    rw [handed] at kept
    refine ⟨kept.1, ?_⟩
    rcases Arena.realloc_places nested.inside handed with ⟨-, stays⟩ | ⟨-, aligns⟩
    · rw [stays]
      exact (grounded old rfl).aligned
    · exact aligns.minAlignment_dvd
  | resize old asked =>
    rcases perform_resize (s := s) old asked with ⟨answer, no_handle, same⟩ |
      ⟨owned, last, room, resized⟩
    · exact absurd (congrArg Prod.fst (same.symm.trans given)) (no_handle b)
    · cases resized.symm.trans given
      have nothing : ([] : List UInt8).length ≤ asked - old.len := Nat.zero_le _
      have kept := seated.refit (Arena.owner_of_owned owned) last room nothing
      exact ⟨kept.2, (grounded old rfl).aligned⟩
  | _ => cases sized

end Session

theorem Request.operand_of_resolve? {β γ : Type} {handle? : β → Option γ} {request : Request β}
    {resolved : Request γ} {b : γ} (resolves : request.resolve? handle? = some resolved)
    (about : resolved.operand? = some b) : ∃ name, handle? name = some b := by
  cases request with
  | realloc | resize | write | free =>
    obtain ⟨b, found, rfl⟩ := Option.map_eq_some_iff.mp resolves
    cases about
    exact ⟨_, found⟩
  | alloc | freeAll | openRegion | closeRegion =>
    cases resolves
    cases about

namespace Client

/-- A client whose live blocks are all grounded, whether or not a request has slipped. -/
structure Grounded (seat : Seat) (c : Client) : Prop where
  nested : Session.Nested 0 0 c.session
  same : c.arena.seat = seat
  grounds : ∀ l ∈ c.heap.live, seat.Grounds l.block

variable {c : Client} {l : Live} {seat : Seat} {size align : Nat}

theorem Grounded.owned (grounded : c.Grounded seat) (word : seat.capacity < wordLimit)
    (live : l ∈ c.heap.live) : c.arena.checkOwned l.block = .ok () :=
  Arena.checkOwned_of_has word (grounded.grounds l live).has grounded.same

theorem Grounded.step (grounded : c.Grounded seat) (request : Request Nat) :
    (c.step request).Grounded seat := by
  obtain ⟨nested, rfl, grounds⟩ := grounded
  cases resolves : request.resolve? c.heap.block? with
  | none =>
    rw [step_of_dead resolves]
    exact ⟨nested, rfl, grounds⟩
  | some resolved =>
    obtain ⟨stepped, keeps⟩ := Session.perform_nested nested (Or.inl rfl) resolved
    rw [step_eq resolves rfl]
    refine ⟨stepped, keeps.seat, fun l live => ?_⟩
    rcases live_after live with old | ⟨size, sized, answered⟩
    · exact grounds l old
    · have asked := (size_of_resolve? resolves).trans sized
      refine Session.grounds_of_handle nested asked (fun old about => ?_) (Prod.ext answered rfl)
      obtain ⟨name, found⟩ := Request.operand_of_resolve? resolves about
      obtain ⟨k, known, -, rfl⟩ := Heap.live_of_block? found
      exact grounds k known

theorem Grounded.run (grounded : c.Grounded seat) (requests : List (Request Nat)) :
    (c.run requests).Grounded seat := by
  induction requests generalizing c with
  | nil => exact grounded
  | cons request rest ih => exact ih (grounded.step request)

theorem new_grounded (id : UInt32) (address : Nat) (data : List UInt8) :
    (new id address data).Grounded ⟨id, address, data.length⟩ where
  nested := ⟨Nat.zero_le _, rfl, Nat.le_refl 0, by rintro start ⟨⟩⟩
  same := rfl
  grounds := by rintro l ⟨⟩

/-- A live block would be resized where it lies, and that is not where `align` asks for, or `align`
is no alignment. -/
def Neglects (c : Client) (l : Live) (size align : Nat) : Prop :=
  c.arena.Resizes l.block size ∧ ¬c.arena.Aligns l.block align

theorem Grounded.neglects_iff (grounded : c.Grounded seat) :
    c.Neglects l size align ↔
      ∃ b a', Arena.realloc l.block size align c.arena = .ok (.ok b) a' ∧
        ¬c.arena.Aligns b align := by
  constructor
  · rintro ⟨resizes, astray⟩
    obtain ⟨owned, last, room⟩ := Arena.resizes_iff.mp resizes
    exact ⟨_, _, Arena.realloc_in_place align owned last room, astray⟩
  · rintro ⟨b, a', given, astray⟩
    rcases Arena.realloc_places grounded.nested.inside given with ⟨resizes, stays⟩ | ⟨-, aligns⟩
    · refine ⟨resizes, fun aligns => astray ⟨aligns.1, ?_⟩⟩
      rw [stays]
      exact aligns.2
    · exact absurd aligns astray

theorem Grounded.realloc_of_odd (grounded : c.Grounded seat) (word : seat.capacity < wordLimit)
    (live : l ∈ c.heap.live) (odd : ¬align.isPowerOfTwo) (heeds : ¬c.Neglects l size align) :
    Arena.realloc l.block size align c.arena = .error (.badAlignment align) c.arena := by
  refine Arena.realloc_of_odd (grounded.owned word live) (fun resizes => heeds ?_) odd
  exact ⟨resizes, fun aligns => odd aligns.1⟩

theorem Grounded.heeds_small (grounded : c.Grounded seat) (live : l ∈ c.heap.live)
    (power : align.isPowerOfTwo) (small : align ≤ minAlignment) : ¬c.Neglects l size align := by
  rintro ⟨-, astray⟩
  refine astray ⟨power, ?_⟩
  rw [Nat.max_eq_right small]
  have aligned := (grounded.grounds l live).aligned
  rw [← grounded.same] at aligned
  exact aligned

end Client

open Arena (alloc realloc)

/-- Whatever a client has requested, a block that it gets is where it asked for, and a bad alignment
is a fault that changes nothing, but for a `realloc` that neglects the alignment: it comes back with
the block where it was. One that asks for no more than every block has neglects nothing. -/
theorem blocks_are_aligned {data : List UInt8} (word : data.length < wordLimit) (id : UInt32)
    (address : Nat) (requests : List (Request Nat)) :
    let c := (Client.new id address data).run requests
    c.arena.address = address ∧
    (∀ size align, (∀ b a', alloc size align c.arena = .ok (.ok b) a' → c.arena.Aligns b align) ∧
      (¬align.isPowerOfTwo → alloc size align c.arena = .error (.badAlignment align) c.arena)) ∧
    ∀ l ∈ c.heap.live, minAlignment ∣ address + l.block.offset ∧ ∀ size align,
      (c.Neglects l size align ↔ ∃ b a', realloc l.block size align c.arena = .ok (.ok b) a' ∧
        ¬c.arena.Aligns b align) ∧
      (¬align.isPowerOfTwo → ¬c.Neglects l size align →
        realloc l.block size align c.arena = .error (.badAlignment align) c.arena) ∧
      (align.isPowerOfTwo → align ≤ minAlignment → ¬c.Neglects l size align) := by
  intro c
  have grounded : c.Grounded ⟨id, address, data.length⟩ :=
    (Client.new_grounded id address data).run requests
  refine ⟨congrArg Seat.address grounded.same, fun size align => ?_, fun l live => ?_⟩
  · exact ⟨fun b a' handed => Arena.aligns_of_alloc handed, Arena.alloc_of_odd⟩
  · refine ⟨(grounded.grounds l live).aligned, fun size align => ?_⟩
    exact ⟨grounded.neglects_iff, grounded.realloc_of_odd word live, grounded.heeds_small live⟩

/-- Two blocks, of which the newer lies at a multiple of 16 and of no more. -/
def offLine : Client :=
  (Client.new 1 4096 (List.replicate 80 0)).run [.alloc 16 1, .alloc 4 1]

/-- The newer block grows in place when it is to lie at a multiple of 64, and at one of 3, which
`alloc` turns down. -/
theorem realloc_leaves_block_off_line :
    ⟨1, 1, 16, 4⟩ ∈ offLine.heap.live ∧
    (∃ a', realloc ⟨1, 16, 4⟩ 8 64 offLine.arena = .ok (.ok ⟨1, 16, 8⟩) a') ∧
    Nat.isPowerOfTwo 64 ∧ ¬max 64 minAlignment ∣ offLine.arena.address + 16 ∧
    (∃ a', realloc ⟨1, 16, 4⟩ 8 3 offLine.arena = .ok (.ok ⟨1, 16, 8⟩) a') ∧
    alloc 8 3 offLine.arena = .error (.badAlignment 3) offLine.arena := by
  have resizes : offLine.arena.Resizes ⟨1, 16, 4⟩ 8 := Arena.resizes_iff.mpr (by decide +kernel)
  obtain ⟨owned, last, room⟩ := Arena.resizes_iff.mp resizes
  have odd : ¬isAlignment 3 = true := by decide
  rw [isAlignment_iff] at odd
  exact ⟨by decide +kernel, ⟨_, Arena.realloc_in_place 64 owned last room⟩, ⟨6, rfl⟩,
    by decide +kernel, ⟨_, Arena.realloc_in_place 3 owned last room⟩, Arena.alloc_of_odd odd⟩

/-- There the newer block is neglected, and the older one, which would have to move, is not. -/
theorem blocks_are_aligned_offLine :
    (∃ b a', realloc ⟨1, 16, 4⟩ 8 64 offLine.arena = .ok (.ok b) a' ∧
      ¬offLine.arena.Aligns b 64) ∧
    realloc ⟨1, 0, 16⟩ 8 3 offLine.arena = .error (.badAlignment 3) offLine.arena := by
  obtain ⟨-, -, live⟩ := @blocks_are_aligned (List.replicate 80 0) (by decide) 1 4096
    [.alloc 16 1, .alloc 4 1]
  have newer := (live ⟨1, 1, 16, 4⟩ (by decide +kernel)).2 8 64
  have older := (live ⟨0, 1, 0, 16⟩ (by decide +kernel)).2 8 3
  have neglected : offLine.Neglects ⟨1, 1, 16, 4⟩ 8 64 := by
    refine ⟨Arena.resizes_iff.mpr (by decide +kernel), fun aligns => ?_⟩
    have astray : ¬max 64 minAlignment ∣ offLine.arena.address + 16 := by decide +kernel
    exact astray aligns.2
  have heeded : ¬offLine.Neglects ⟨0, 1, 0, 16⟩ 8 3 := by
    rintro ⟨resizes, -⟩
    obtain ⟨-, last, -⟩ := Arena.resizes_iff.mp resizes
    have newest : offLine.arena.last? = some 16 := by decide +kernel
    cases newest.symm.trans last
  have odd : ¬isAlignment 3 = true := by decide
  rw [isAlignment_iff] at odd
  exact ⟨newer.1.mp neglected, older.2.1 odd heeded⟩

end FrontEnd.Memory
