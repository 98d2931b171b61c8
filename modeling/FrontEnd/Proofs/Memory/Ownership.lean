import Mathlib.Data.List.Nodup
import FrontEnd.Proofs.Memory.Bookkeeping
import FrontEnd.Proofs.Memory.Faults

/-!
# Blocks follow their buffer

An arena knows its blocks by an identity that it carries about. A `Ledger` keeps account of the same
session by buffers: which is in which slot, and out of which each block was handed. The two agree, as
`blocks_follow_their_buffer` says, as long as identities last: a block is accepted by the arena that
holds its buffer, wherever that has moved, and by no other.
-/

namespace FrontEnd.Memory

/-! ### Use of a block -/

namespace Arena

/-- Every use of a block gets past the check of its owner. A fault that is left is one of the change
to be made, or of the allocation that `realloc` falls back on. -/
structure Accepts (a : Arena) (b : Block) : Prop where
  owned : a.checkOwned b = .ok ()
  bytes : ∃ shown, a.bytes b = .ok shown
  modify : ∀ f fault a', modifyBytes b f a = .error fault a' →
    ∃ shown, a.bytes b = .ok shown ∧ f shown = .error fault
  resize : ∀ size, ∃ answer a', resize? b size a = .ok answer a'
  realloc : ∀ size align fault a', realloc b size align a = .error fault a' →
    alloc size align a = .error fault a'

/-- Every use of a block faults at the check of its owner and changes nothing. -/
structure Refuses (a : Arena) (b : Block) : Prop where
  foreign : a.checkOwned b = .error (.foreignBlock b.owner a.id)
  bytes : a.bytes b = .error (.foreignBlock b.owner a.id)
  modify : ∀ f, modifyBytes b f a = .error (.foreignBlock b.owner a.id) a
  resize : ∀ size, resize? b size a = .error (.foreignBlock b.owner a.id) a
  realloc : ∀ size align, realloc b size align a = .error (.foreignBlock b.owner a.id) a

variable {a : Arena} {b : Block}

theorem modifyBytes_faults {f : List UInt8 → Except Fault (List UInt8)} {shown : List UInt8}
    {fault : Fault} {a' : Arena} (read : a.bytes b = .ok shown)
    (failed : modifyBytes b f a = .error fault a') : f shown = .error fault := by
  have changed : (a.bytes b >>= f) = f shown := by rw [read]; rfl
  unfold modifyBytes at failed
  rw [run_get_bind, changed] at failed
  cases made : f shown with
  | error fault' =>
    rw [run_orFault_error made] at failed
    cases failed
    rfl
  | ok new =>
    rw [run_orFault_ok made] at failed
    cases failed

theorem accepts_of_owned (inside : a.offset ≤ a.capacity) (owned : a.checkOwned b = .ok ()) :
    a.Accepts b := by
  have read := bytes_of_owned owned
  refine ⟨owned, ⟨_, read⟩, fun f fault a' failed => ⟨_, read, modifyBytes_faults read failed⟩,
    ?_, ?_⟩
  · intro size
    rcases resize?_cases a b size with ⟨fault, foreign, -⟩ | ⟨-, -, declined⟩ | ⟨-, -, -, resized⟩
    · cases owned.symm.trans foreign
    · exact ⟨_, _, declined⟩
    · exact ⟨_, _, resized⟩
  · intro size align fault a' failed
    rcases realloc_cases (a.judges b) inside size align with
      ⟨fault', foreign | refused, failed'⟩ | done | ⟨-, -, -, done⟩ |
      ⟨-, -, padding, content, -, -, -, -, -, -, done⟩
    · cases owned.symm.trans foreign
    · cases failed'.symm.trans failed
      exact refused
    · cases done.symm.trans failed
    · cases done.symm.trans failed
    · cases done.symm.trans failed

theorem refuses_of_foreign (foreign : b.owner ≠ a.id) : a.Refuses b := by
  obtain ⟨check, bytes, modify, resize, realloc⟩ :=
    stopsAt_of_check (checkOwned_of_foreign foreign)
  exact ⟨check, bytes, modify, resize, realloc⟩

end Arena

/-! ### The ledger -/

/-- A workspace with an account of its buffers, which are numbered as they come in. With each goes
one identity, as an arena that is emptied holds an empty buffer of its own. -/
structure Ledger where
  workspace : Workspace := {}
  /-- Address and size of each buffer. -/
  buffers : List (Nat × Nat) := []
  /-- The buffer of the arena in each slot. -/
  held : List Nat := []
  /-- The blocks handed out, each with the buffer that it was handed out of. -/
  issued : List (Nat × Block) := []
  deriving DecidableEq, Repr

namespace Event

/-- The buffer that an event brings in. -/
def brought : Event → List (Nat × Nat)
  | .create address data => [(address, data.length)]
  | .relocate _ _ => [((Arena.empty 0).address, 0)]
  | _ => []

/-- The buffers slot by slot after an event, where one that is brought in has the number `fresh`. -/
def rearrange (fresh : Nat) (held : List Nat) : Event → List Nat
  | .create _ _ => held ++ [fresh]
  | .relocate source target =>
    match held[source]? with
    | some n => (held.set source fresh).set target n
    | none => held
  | .swap i j =>
    match held[i]?, held[j]? with
    | some m, some n => (held.set i n).set j m
    | _, _ => held
  | _ => held

/-- The block in an answer, with the buffer of the arena that gave it. -/
def handed (held : List Nat) : Event → Answer → List (Nat × Block)
  | .operate slot _, .handle b => held[slot]?.toList.map fun n => (n, b)
  | _, _ => []

/-- A buffer that is brought in is no larger than memory. -/
def Fits : Event → Prop
  | .create _ data => data.length < wordLimit
  | _ => True

end Event

namespace Ledger

/-- Carries an event out. One that faults brings nothing in and hands nothing out. -/
def perform (l : Ledger) (event : Event) : Ledger :=
  match Workspace.perform event l.workspace with
  | .error _ workspace => { l with workspace }
  | .ok answer workspace =>
    { workspace
      buffers := l.buffers ++ event.brought
      held := event.rearrange l.buffers.length l.held
      issued := l.issued ++ event.handed l.held answer }

/-- The ledger after some events. -/
def run (l : Ledger) : List Event → Ledger
  | [] => l
  | event :: rest => run (l.perform event) rest

/-- The seat of an arena that holds a buffer, if identities are given out from `first` on. -/
def seat? (first : UInt32) (buffers : List (Nat × Nat)) (n : Nat) : Option Seat :=
  buffers[n]?.map fun place => ⟨first + .ofNat n, place.1, place.2⟩

/-- Each arena has the seat of its buffer, and each block belongs to the seat of its own. -/
structure Sound (first : UInt32) (l : Ledger) : Prop where
  inBounds : l.workspace.InBounds
  next : l.workspace.nextId = first + .ofNat l.buffers.length
  seats : l.workspace.seats.map some = l.held.map (seat? first l.buffers)
  nodup : l.held.Nodup
  issued : ∀ entry ∈ l.issued, ∃ seat, seat? first l.buffers entry.1 = some seat ∧ seat.Has entry.2
  words : ∀ place ∈ l.buffers, place.2 < wordLimit

variable {first : UInt32} {l : Ledger} {event : Event} {n slot : Nat} {a : Arena} {seat : Seat}
  {buffers : List (Nat × Nat)} {place : Nat × Nat} {held : List Nat}

theorem perform_of_ok {answer : Answer} {w : Workspace}
    (done : Workspace.perform event l.workspace = .ok answer w) :
    l.perform event =
      ⟨w, l.buffers ++ event.brought, event.rearrange l.buffers.length l.held,
        l.issued ++ event.handed l.held answer⟩ := by
  rw [perform, done]

theorem perform_of_error {fault : Fault} {w : Workspace}
    (failed : Workspace.perform event l.workspace = .error fault w) :
    l.perform event = { l with workspace := w } := by
  rw [perform, failed]

theorem perform_workspace (l : Ledger) (event : Event) :
    (l.perform event).workspace = stateAfter (Workspace.perform event l.workspace) := by
  unfold perform
  cases Workspace.perform event l.workspace <;> rfl

theorem run_workspace (l : Ledger) (events : List Event) :
    (l.run events).workspace = l.workspace.run events := by
  induction events generalizing l with
  | nil => rfl
  | cons event rest ih => rw [run, ih, perform_workspace, Workspace.run]

theorem mem_handed {answer : Answer} {entry : Nat × Block}
    (member : entry ∈ event.handed held answer) :
    ∃ slot operation, event = .operate slot operation ∧ answer = .handle entry.2 ∧
      held[slot]? = some entry.1 := by
  unfold Event.handed at member
  split at member
  · rename_i slot operation b
    obtain ⟨n, found, rfl⟩ := List.mem_map.mp member
    exact ⟨slot, operation, rfl, rfl, Option.mem_toList.mp found⟩
  · cases member

/-! ### Seats -/

theorem seat?_eq_some_iff :
    seat? first buffers n = some seat ↔
      seat.id = first + .ofNat n ∧ buffers[n]? = some (seat.address, seat.capacity) := by
  unfold seat?
  rw [Option.map_eq_some_iff]
  constructor
  · rintro ⟨place, found, rfl⟩
    exact ⟨rfl, found⟩
  · rintro ⟨id, found⟩
    exact ⟨_, found, by rw [← id]⟩

theorem lt_of_seat? (known : seat? first buffers n = some seat) : n < buffers.length :=
  (List.getElem?_eq_some_iff.mp (seat?_eq_some_iff.mp known).2).1

theorem seat?_append (lt : n < buffers.length) :
    seat? first (buffers ++ [place]) n = seat? first buffers n := by
  rw [seat?, seat?, List.getElem?_append_left lt]

theorem seat?_fresh (first : UInt32) (buffers : List (Nat × Nat)) (place : Nat × Nat) :
    seat? first (buffers ++ [place]) buffers.length =
      some ⟨first + .ofNat buffers.length, place.1, place.2⟩ := by
  rw [seat?, List.getElem?_concat_length, Option.map_some]

theorem Sound.lt_of_held (h : l.Sound first) (member : n ∈ l.held) : n < l.buffers.length := by
  have known : seat? first l.buffers n ∈ l.workspace.seats.map some := by
    rw [h.seats]
    exact List.mem_map_of_mem member
  obtain ⟨seat, -, known⟩ := List.mem_map.mp known
  exact lt_of_seat? known.symm

theorem Sound.held_of_seat (h : l.Sound first) (found : l.workspace.seats[slot]? = some seat) :
    ∃ n, l.held[slot]? = some n ∧ seat? first l.buffers n = some seat := by
  have same := congrArg (·[slot]?) h.seats
  simp only [List.getElem?_map, found, Option.map_some] at same
  obtain ⟨n, held, known⟩ := Option.map_eq_some_iff.mp same.symm
  exact ⟨n, held, known⟩

theorem Sound.held_of_slot (h : l.Sound first) (found : l.workspace.slots[slot]? = some a) :
    ∃ n, l.held[slot]? = some n ∧ seat? first l.buffers n = some a.seat := by
  apply h.held_of_seat
  rw [Workspace.seats, List.getElem?_map, found, Option.map_some]

/-! ### What an event does to the account -/

theorem Sound.stays (h : l.Sound first) (stays : event.moves = false) :
    (l.perform event).Sound first := by
  have nothing : event.brought = [] := by
    cases event <;> first | rfl | cases stays
  have same : event.rearrange l.buffers.length l.held = l.held := by
    cases event <;> first | rfl | cases stays
  have sustained := Workspace.maintains_steady event stays l.workspace ⟨h.inBounds, rfl, rfl⟩
  cases came : Workspace.perform event l.workspace with
  | error fault w =>
    rw [came] at sustained
    rw [perform_of_error came]
    obtain ⟨inBounds, seats, next⟩ := sustained
    exact ⟨inBounds, next.trans h.next, by rw [seats]; exact h.seats, h.nodup, h.issued, h.words⟩
  | ok answer w =>
    rw [came] at sustained
    obtain ⟨grants, inBounds, seats, next⟩ := sustained
    rw [perform_of_ok came, nothing, same, List.append_nil]
    refine ⟨inBounds, next.trans h.next, by rw [seats]; exact h.seats, h.nodup, ?_, h.words⟩
    intro entry member
    rcases List.mem_append.mp member with old | new
    · exact h.issued entry old
    · obtain ⟨slot, operation, named, given, held⟩ := mem_handed new
      obtain ⟨seat, found, has⟩ := grants slot operation entry.2 named given
      obtain ⟨n, held', known⟩ := h.held_of_seat found
      cases held.symm.trans held'
      exact ⟨seat, known, has⟩

/-- What is left to show of an event that brings in a buffer. -/
theorem Sound.brings {w : Workspace} (h : l.Sound first) (fits : place.2 < wordLimit)
    (inBounds : w.InBounds) (next : w.nextId = l.workspace.nextId + 1) (nodup : held.Nodup)
    (seats : w.seats.map some = held.map (seat? first (l.buffers ++ [place]))) :
    Sound first ⟨w, l.buffers ++ [place], held, l.issued⟩ := by
  refine ⟨inBounds, ?_, seats, nodup, ?_, ?_⟩
  · rw [next, h.next, List.length_append, List.length_singleton, UInt32.ofNat_add, UInt32.add_assoc]
    rfl
  · intro entry member
    obtain ⟨seat, known, has⟩ := h.issued entry member
    exact ⟨seat, (seat?_append (lt_of_seat? known)).trans known, has⟩
  · intro other member
    rcases List.mem_append.mp member with old | new
    · exact h.words other old
    · obtain rfl := List.mem_singleton.mp new
      exact fits

theorem Sound.seats_append (h : l.Sound first) (place : Nat × Nat) :
    l.workspace.seats.map some = l.held.map (seat? first (l.buffers ++ [place])) := by
  rw [h.seats]
  exact List.map_congr_left fun n member => (seat?_append (h.lt_of_held member)).symm

theorem Sound.fresh (h : l.Sound first) : l.buffers.length ∉ l.held :=
  fun member => Nat.lt_irrefl _ (h.lt_of_held member)

theorem Sound.created (h : l.Sound first) {address : Nat} {data : List UInt8}
    (fits : data.length < wordLimit) : (l.perform (.create address data)).Sound first := by
  have inBounds := (Workspace.maintains_perform (.create address data)).stateAfter h.inBounds
  have done : l.perform (.create address data) =
      ⟨l.workspace.addArena address data, l.buffers ++ [(address, data.length)],
        l.held ++ [l.buffers.length], l.issued ++ []⟩ := perform_of_ok rfl
  rw [done, List.append_nil]
  refine h.brings fits inBounds rfl ?_ ?_
  · rw [List.nodup_append]
    refine ⟨h.nodup, List.nodup_singleton _, ?_⟩
    rintro n member _ last rfl
    rw [List.mem_singleton] at last
    exact h.fresh (last ▸ member)
  · have new : (l.workspace.addArena address data).seats =
        l.workspace.seats ++ [⟨l.workspace.nextId, address, data.length⟩] := List.map_append
    rw [new, List.map_append, List.map_append, ← h.seats_append, List.map_singleton,
      List.map_singleton, seat?_fresh, h.next]

theorem not_mem_set {held : List Nat} {i m n : Nat} (nodup : held.Nodup) (found : held[i]? = some m)
    (other : n ≠ m) : m ∉ held.set i n := by
  intro member
  obtain ⟨k, shown⟩ := List.mem_iff_getElem?.mp member
  have inside := (List.getElem?_eq_some_iff.mp found).1
  by_cases same : i = k
  · subst same
    rw [List.getElem?_set_self inside] at shown
    exact other (Option.some.inj shown)
  · rw [List.getElem?_set_ne same] at shown
    exact same ((List.getElem?_inj inside nodup).mp (found.trans shown.symm))

theorem Sound.relocated (h : l.Sound first) (source target : Nat) :
    (l.perform (.relocate source target)).Sound first := by
  have inBounds := (Workspace.maintains_perform (.relocate source target)).stateAfter h.inBounds
  rcases Workspace.relocate_cases l.workspace source target with ⟨fault, failed⟩ |
    ⟨a, found, -, moved⟩
  · have same : l.perform (.relocate source target) = l := perform_of_error (run_bind_error failed)
    rw [same]
    exact h
  · have moved : Workspace.perform (.relocate source target) l.workspace = .ok .done
        { l.workspace with
          slots := (l.workspace.slots.set source (Arena.empty l.workspace.nextId)).set target a
          nextId := l.workspace.nextId + 1 } := run_bind_ok moved
    rw [moved] at inBounds
    obtain ⟨n, held, known⟩ := h.held_of_slot found
    have old := lt_of_seat? known
    simp only [perform_of_ok moved, Event.brought, Event.rearrange, Event.handed, held,
      List.append_nil]
    refine h.brings (by decide) inBounds rfl ?_ ?_
    -- the buffer that moves has left its slot before it gets to the other
    · exact (h.nodup.set h.fresh).set (not_mem_set h.nodup held (Nat.ne_of_gt old))
    · have emptied : (Arena.empty l.workspace.nextId).seat =
          ⟨first + .ofNat l.buffers.length, (Arena.empty 0).address, 0⟩ := by
        rw [← h.next]
        rfl
      simp only [Workspace.seats, List.map_set, emptied]
      rw [← Workspace.seats, h.seats_append, seat?_fresh, seat?_append old, known]

theorem Sound.swapped (h : l.Sound first) (i j : Nat) : (l.perform (.swap i j)).Sound first := by
  have inBounds := (Workspace.maintains_perform (.swap i j)).stateAfter h.inBounds
  rcases Workspace.swap_cases l.workspace i j with ⟨fault, failed⟩ | ⟨a, b, one, other, swapped⟩
  · have same : l.perform (.swap i j) = l := perform_of_error (run_bind_error failed)
    rw [same]
    exact h
  · have swapped : Workspace.perform (.swap i j) l.workspace =
        .ok .done { l.workspace with slots := (l.workspace.slots.set i b).set j a } :=
      run_bind_ok swapped
    rw [swapped] at inBounds
    obtain ⟨m, held, known⟩ := h.held_of_slot one
    obtain ⟨n, held', known'⟩ := h.held_of_slot other
    simp only [perform_of_ok swapped, Event.brought, Event.rearrange, Event.handed, held, held',
      List.append_nil]
    refine ⟨inBounds, h.next, ?_, ?_, h.issued, h.words⟩
    · simp only [Workspace.seats, List.map_set, known, known', ← h.seats]
    · obtain ⟨inside, rfl⟩ := List.getElem?_eq_some_iff.mp held
      obtain ⟨inside', rfl⟩ := List.getElem?_eq_some_iff.mp held'
      exact (List.set_set_perm inside inside').nodup_iff.mpr h.nodup

theorem perform_sound (h : l.Sound first) (fits : event.Fits) : (l.perform event).Sound first := by
  cases event with
  | create address data => exact h.created fits
  | relocate source target => exact h.relocated source target
  | swap i j => exact h.swapped i j
  | operate slot operation => exact h.stays rfl
  | openRegion slot => exact h.stays rfl
  | closeRegion depth => exact h.stays rfl
  | abandonRegion depth => exact h.stays rfl

theorem run_sound (h : l.Sound first) (events : List Event) (fit : ∀ event ∈ events, event.Fits) :
    (l.run events).Sound first := by
  induction events generalizing l with
  | nil => exact h
  | cons event rest ih =>
    rw [List.forall_mem_cons] at fit
    exact ih (perform_sound h fit.1) fit.2

/-- Nothing has happened yet. -/
def start (first : UInt32) : Ledger := { workspace := { nextId := first } }

theorem start_sound (first : UInt32) : (start first).Sound first :=
  ⟨⟨nofun, nofun⟩, (UInt32.add_zero first).symm, rfl, List.nodup_nil, nofun, nofun⟩

/-! ### Identities that last -/

/-- Identities tell buffers apart until they come round again. -/
theorem id_inj {m n : Nat} (few : l.buffers.length < UInt32.size) (m_lt : m < l.buffers.length)
    (n_lt : n < l.buffers.length) (same : first + UInt32.ofNat m = first + UInt32.ofNat n) :
    m = n := by
  have word := congrArg UInt32.toNat ((UInt32.add_right_inj first).mp same)
  rw [UInt32.toNat_ofNat', UInt32.toNat_ofNat'] at word
  unfold UInt32.size at few
  omega

theorem Sound.ids_nodup (h : l.Sound first) (few : l.buffers.length < UInt32.size) :
    (l.workspace.slots.map Arena.id).Nodup := by
  have ids : l.workspace.slots.map Arena.id = l.held.map fun n => first + UInt32.ofNat n := by
    apply List.ext_getElem?
    intro slot
    rw [List.getElem?_map, List.getElem?_map]
    cases found : l.workspace.slots[slot]? with
    | none =>
      have absent := congrArg (·[slot]?) h.seats
      simp only [Workspace.seats, List.getElem?_map, found, Option.map_none] at absent
      rw [Option.map_eq_none_iff.mp absent.symm]
      rfl
    | some a =>
      obtain ⟨n, held, known⟩ := h.held_of_slot found
      rw [held]
      exact congrArg some (seat?_eq_some_iff.mp known).1
  rw [ids]
  refine h.nodup.map_on ?_
  intro m m_in n n_in same
  exact id_inj few (h.lt_of_held m_in) (h.lt_of_held n_in) same

theorem Sound.accepts (h : l.Sound first) {b : Block} (issued : (n, b) ∈ l.issued)
    (found : l.workspace.slots[slot]? = some a) (held : l.held[slot]? = some n) : a.Accepts b := by
  obtain ⟨seat, known, has⟩ := h.issued (n, b) issued
  obtain ⟨n', held', known'⟩ := h.held_of_slot found
  cases held.symm.trans held'
  cases known.symm.trans known'
  have word := h.words _ (List.mem_of_getElem? (seat?_eq_some_iff.mp known).2)
  have inside := (h.inBounds.arenas a (List.mem_of_getElem? found)).offset_le
  exact Arena.accepts_of_owned inside (Arena.checkOwned_of_has word has rfl)

theorem Sound.refuses (h : l.Sound first) (few : l.buffers.length < UInt32.size) {b : Block}
    (issued : (n, b) ∈ l.issued) (found : l.workspace.slots[slot]? = some a)
    (elsewhere : l.held[slot]? ≠ some n) : a.Refuses b := by
  obtain ⟨seat, known, has⟩ := h.issued (n, b) issued
  obtain ⟨n', held', known'⟩ := h.held_of_slot found
  -- if the identities agreed, so would the buffers
  refine Arena.refuses_of_foreign fun owner => elsewhere ?_
  have ids : first + UInt32.ofNat n' = first + UInt32.ofNat n := by
    rw [← (seat?_eq_some_iff.mp known').1, ← (seat?_eq_some_iff.mp known).1, ← has.1]
    exact owner.symm
  rw [held', id_inj few (lt_of_seat? known') (lt_of_seat? known) ids]

end Ledger

/-- Whatever has been asked of some arenas, no two have the same identity, and each block that one of
them has ever handed out is accepted by the arena that holds the buffer of the block now and refused
by all others, if identities have not come round. -/
theorem blocks_follow_their_buffer (first : UInt32) (events : List Event)
    (fit : ∀ event ∈ events, event.Fits)
    (few : (Ledger.run (.start first) events).buffers.length < UInt32.size) :
    let l : Ledger := .run (.start first) events
    l.workspace = Workspace.run { nextId := first } events ∧
    l.workspace.nextId = first + .ofNat l.buffers.length ∧
    (l.workspace.slots.map Arena.id).Nodup ∧ l.held.Nodup ∧
    (∀ (slot : Nat) (a : Arena), l.workspace.slots[slot]? = some a →
      ∃ n : Nat, l.held[slot]? = some n ∧ l.buffers[n]? = some (a.address, a.capacity)) ∧
    ∀ (n : Nat) (b : Block), (n, b) ∈ l.issued →
      ∀ (slot : Nat) (a : Arena), l.workspace.slots[slot]? = some a →
        (l.held[slot]? = some n → a.Accepts b) ∧ (l.held[slot]? ≠ some n → a.Refuses b) := by
  intro l
  have sound : l.Sound first := Ledger.run_sound (Ledger.start_sound first) events fit
  refine ⟨Ledger.run_workspace _ events, sound.next, sound.ids_nodup few, sound.nodup, ?_, ?_⟩
  · intro slot a found
    obtain ⟨n, held, known⟩ := sound.held_of_slot found
    exact ⟨n, held, (Ledger.seat?_eq_some_iff.mp known).2⟩
  · intro n b issued slot a found
    exact ⟨sound.accepts issued found, sound.refuses few issued found⟩

/-- The arena of the first buffer is moved over that of the second, and changes places with the one
it left behind while a region is open on it. The region then closes on the wrong arena. -/
theorem blocks_follow_their_buffer_moved :
    let events : List Event :=
      [.create 4096 (List.replicate 64 7), .create 8192 (List.replicate 48 7),
        .operate 0 (.alloc 16 1), .operate 1 (.alloc 8 1), .operate 0 (.realloc ⟨1, 0, 16⟩ 24 1),
        .relocate 0 1, .openRegion 1, .swap 0 1, .closeRegion 0]
    let l : Ledger := .run (.start 1) events
    l.held = [0, 2] ∧ l.issued = [(0, ⟨1, 0, 16⟩), (1, ⟨2, 0, 8⟩), (0, ⟨1, 0, 24⟩)] ∧
    ∃ moved emptied, l.workspace.slots = [moved, emptied] ∧ moved.id = 1 ∧ emptied.id = 3 ∧
      moved.Accepts ⟨1, 0, 16⟩ ∧ moved.Accepts ⟨1, 0, 24⟩ ∧ emptied.Refuses ⟨1, 0, 16⟩ ∧
      moved.Refuses ⟨2, 0, 8⟩ ∧ emptied.Refuses ⟨2, 0, 8⟩ := by
  intro events l
  have held : l.held = [0, 2] := by decide
  have issued : l.issued = [(0, ⟨1, 0, 16⟩), (1, ⟨2, 0, 8⟩), (0, ⟨1, 0, 24⟩)] := by decide
  have ids : l.workspace.slots.map Arena.id = [1, 3] := by decide
  have fit : ∀ event ∈ events, event.Fits := by simp [events, Event.Fits, wordLimit]
  have few : l.buffers.length < UInt32.size := by decide
  obtain ⟨-, -, -, -, -, follow⟩ := blocks_follow_their_buffer 1 events fit few
  obtain ⟨moved, rest, slots, moved_id, tail⟩ := List.map_eq_cons_iff.mp ids
  obtain ⟨emptied, none_left, rfl, emptied_id, last⟩ := List.map_eq_cons_iff.mp tail
  obtain rfl := List.map_eq_nil_iff.mp last
  have here : l.workspace.slots[0]? = some moved := by rw [slots]; rfl
  have there : l.workspace.slots[1]? = some emptied := by rw [slots]; rfl
  have old := follow 0 ⟨1, 0, 16⟩ (by decide)
  have grown := follow 0 ⟨1, 0, 24⟩ (by decide)
  have lost := follow 1 ⟨2, 0, 8⟩ (by decide)
  exact ⟨held, issued, moved, emptied, slots, moved_id, emptied_id, (old 0 moved here).1 (by decide),
    (grown 0 moved here).1 (by decide), (old 1 emptied there).2 (by decide),
    (lost 0 moved here).2 (by decide), (lost 1 emptied there).2 (by decide)⟩

end FrontEnd.Memory
