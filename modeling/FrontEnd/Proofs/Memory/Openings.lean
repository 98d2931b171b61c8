import FrontEnd.Proofs.Memory.Ownership

/-!
# Regions and the arenas they were opened on

A region remembers a slot and two numbers, not an arena. A `Journal` notes for each open region which
buffer it was opened on and how the arena stood then. With it one can say which closes hit another
arena: `Strays` tells them exactly, and only a session that puts another arena under an open region
has any.
-/

namespace FrontEnd.Memory

/-- The buffer and the arena that a region was opened on. -/
structure Opening where
  buffer : Nat
  arena : Arena
  deriving DecidableEq, Repr

/-- A ledger with the openings of the regions that are still open, the innermost first. -/
structure Journal where
  ledger : Ledger := {}
  openings : List Opening := []
  deriving DecidableEq, Repr

namespace Event

/-- What is left of a list with one entry for each open region. -/
def prune {α : Type} (entries : List α) : Event → List α
  | .closeRegion depth => entries.eraseIdx depth
  | .abandonRegion depth => entries.eraseIdx depth
  | _ => entries

/-- Whether an event puts another arena into a slot. -/
def Replaces (slot : Nat) : Event → Prop
  | .relocate source target => slot = source ∨ slot = target
  | .swap i j => slot = i ∨ slot = j
  | _ => False

end Event

/-- What there is to note when a region is opened on a slot. -/
def Ledger.opening? (l : Ledger) (slot : Nat) : Option Opening :=
  match l.held[slot]?, l.workspace.slots[slot]? with
  | some buffer, some arena => some ⟨buffer, arena⟩
  | _, _ => none

namespace Journal

/-- Carries an event out. A region that opens is noted, and one that closes is struck out. -/
def perform (j : Journal) (event : Event) : Journal where
  ledger := j.ledger.perform event
  openings :=
    match event, Workspace.perform event j.ledger.workspace with
    | .openRegion slot, .ok _ _ => (j.ledger.opening? slot).toList ++ j.openings
    | _, _ => event.prune j.openings

/-- The journal after some events. -/
def run (j : Journal) : List Event → Journal
  | [] => j
  | event :: rest => run (j.perform event) rest

/-- Nothing has happened yet. -/
def start (first : UInt32) : Journal := { ledger := .start first }

/-- The region of a guard would close on the arena of another buffer, which has a region open and is
in use up to the checkpoint at least. -/
def Strays (j : Journal) (guard : Guard) (opening : Opening) : Prop :=
  j.ledger.held[guard.slot]? ≠ some opening.buffer ∧
    ∃ a, j.ledger.workspace.slots[guard.slot]? = some a ∧ 0 < a.regions.toNat ∧
      guard.checkpoint.offset ≤ a.offset

/-- A session that leaves every arena where a region is open on it. -/
def Undisturbed (j : Journal) : List Event → Prop
  | [] => True
  | event :: rest =>
    (∀ guard ∈ j.ledger.workspace.guards, ¬event.Replaces guard.slot) ∧
      Undisturbed (j.perform event) rest

end Journal

/-! ### What events do to guards -/

namespace Workspace

variable {w : Workspace} {α : Type} {slot depth : Nat} {guard : Guard} {a : Arena}

theorem onSlot_guards (slot : Nat) (action : ArenaM α) (w : Workspace) :
    (stateAfter (onSlot slot action w)).guards = w.guards := by
  unfold onSlot
  cases w.slots[slot]? with
  | none => rfl
  | some a =>
    dsimp only
    cases action a <;> rfl

theorem openRegion_cases (w : Workspace) (slot : Nat) :
    (∃ fault w', openRegion slot w = .error fault w' ∧ w'.guards = w.guards) ∨
    ∃ a, w.slots[slot]? = some a ∧ openRegion slot w =
      .ok ⟨a.offset, a.last?⟩ { w with
        slots := w.slots.set slot { a with last? := none, regions := a.regions + 1 }
        guards := ⟨slot, ⟨a.offset, a.last?⟩⟩ :: w.guards } := by
  cases found : w.slots[slot]? with
  | none =>
    exact Or.inl ⟨_, _, run_bind_error (onSlot_none found _), rfl⟩
  | some a =>
    rcases Arena.openRegion_cases a with ⟨-, failed⟩ | ⟨-, opened⟩
    · exact Or.inl ⟨_, _, run_bind_error (onSlot_error found failed), rfl⟩
    · exact Or.inr ⟨a, rfl, run_bind_ok (onSlot_ok found opened)⟩

theorem closeRegion?_eq (listed : w.guards[depth]? = some guard) :
    closeRegion? depth w =
      (do onSlot guard.slot (Arena.closeRegion guard.checkpoint); return some guard : WorkspaceM _)
        { w with guards := w.guards.eraseIdx depth } := by
  unfold closeRegion?
  rw [run_get_bind, listed]
  rfl

theorem closeRegion?_guards (depth : Nat) (w : Workspace) :
    (stateAfter (closeRegion? depth w)).guards = w.guards.eraseIdx depth := by
  cases listed : w.guards[depth]? with
  | none =>
    have nothing : closeRegion? depth w = .ok none w := by
      unfold closeRegion?
      rw [run_get_bind, listed]
      rfl
    rw [nothing, List.eraseIdx_of_length_le (List.getElem?_eq_none_iff.mp listed)]
    rfl
  | some guard =>
    have kept := onSlot_guards guard.slot (Arena.closeRegion guard.checkpoint)
      { w with guards := w.guards.eraseIdx depth }
    rw [closeRegion?_eq listed]
    cases closed : onSlot guard.slot (Arena.closeRegion guard.checkpoint)
        { w with guards := w.guards.eraseIdx depth } with
    | ok answer w' =>
      rw [run_bind_ok closed]
      rwa [closed] at kept
    | error fault w' =>
      rw [run_bind_error closed]
      rwa [closed] at kept

theorem perform_guards (event : Event) (w : Workspace)
    (opens : ∀ slot, event ≠ .openRegion slot) :
    (stateAfter (perform event w)).guards = event.prune w.guards := by
  cases event with
  | create address data => rfl
  | operate slot operation => exact onSlot_guards slot operation.run w
  | openRegion slot => exact absurd rfl (opens slot)
  | closeRegion depth =>
    have kept := closeRegion?_guards depth w
    unfold perform
    dsimp only
    cases closed : closeRegion? depth w with
    | ok guard? w' =>
      rw [closed] at kept
      rw [run_bind_ok closed]
      cases guard? <;> exact kept
    | error fault w' =>
      rw [closed] at kept
      rw [run_bind_error closed]
      exact kept
  | abandonRegion depth => rfl
  | relocate source target =>
    rcases relocate_cases w source target with ⟨fault, failed⟩ | ⟨a, -, -, moved⟩
    · rw [show perform (.relocate source target) w = .error fault w from run_bind_error failed]
      rfl
    · rw [show perform (.relocate source target) w = .ok .done _ from run_bind_ok moved]
      rfl
  | swap i j =>
    rcases swap_cases w i j with ⟨fault, failed⟩ | ⟨a, b, -, -, swapped⟩
    · rw [show perform (.swap i j) w = .error fault w from run_bind_error failed]
      rfl
    · rw [show perform (.swap i j) w = .ok .done _ from run_bind_ok swapped]
      rfl

/-- A close either faults, for one of two reasons and without a change to any arena, or takes the
arena in its slot back to its checkpoint. -/
theorem closeRegion?_cases (listed : w.guards[depth]? = some guard)
    (found : w.slots[guard.slot]? = some a) :
    (¬(0 < a.regions.toNat ∧ guard.checkpoint.offset ≤ a.offset) ∧
      ∃ fault, (fault = .improperRegionCounter a.id ∨
          fault = .belowCheckpoint a.id a.offset guard.checkpoint.offset) ∧
        closeRegion? depth w = .error fault { w with guards := w.guards.eraseIdx depth }) ∨
    ((0 < a.regions.toNat ∧ guard.checkpoint.offset ≤ a.offset) ∧
      closeRegion? depth w = .ok (some guard) { w with
        guards := w.guards.eraseIdx depth
        slots := w.slots.set guard.slot { a with
          offset := guard.checkpoint.offset
          last? := guard.checkpoint.last?
          regions := a.regions - 1 } }) := by
  rw [closeRegion?_eq listed]
  rcases Arena.closeRegion_cases a guard.checkpoint with
    ⟨fault, cause, never, failed⟩ | ⟨counted, above, closed⟩
  · exact Or.inl ⟨never, fault, cause, run_bind_error (onSlot_unchanged found failed)⟩
  · exact Or.inr ⟨⟨counted, above⟩, run_bind_ok (onSlot_ok found closed)⟩

end Workspace

/-! ### The account is kept -/

namespace Journal

open Ledger (seat?)

variable {first : UInt32} {j : Journal} {l : Ledger} {event : Event} {guard : Guard} {o : Opening}
  {slot n fresh : Nat} {held : List Nat} {buffers later : List (Nat × Nat)} {seat : Seat}

/-- A note tells what the checkpoint of its guard goes back to, and where the arena was at home. -/
structure Noted (first : UInt32) (l : Ledger) (guard : Guard) (o : Opening) : Prop where
  checkpoint : guard.checkpoint = ⟨o.arena.offset, o.arena.last?⟩
  seat : seat? first l.buffers o.buffer = some o.arena.seat
  slot : guard.slot < l.held.length

/-- A sound ledger, and a note for each open region. -/
structure Sound (first : UInt32) (j : Journal) : Prop where
  ledger : j.ledger.Sound first
  noted : List.Forall₂ (Noted first j.ledger) j.ledger.workspace.guards j.openings

theorem forall₂_prune {α β : Type} {R : α → β → Prop} {xs : List α} {ys : List β}
    (h : List.Forall₂ R xs ys) (event : Event) :
    List.Forall₂ R (event.prune xs) (event.prune ys) := by
  have erased (depth : Nat) : List.Forall₂ R (xs.eraseIdx depth) (ys.eraseIdx depth) := by
    rw [List.eraseIdx_eq_take_drop_succ, List.eraseIdx_eq_take_drop_succ]
    exact List.rel_append (List.forall₂_take depth h) (List.forall₂_drop (depth + 1) h)
  cases event with
  | closeRegion depth => exact erased depth
  | abandonRegion depth => exact erased depth
  | _ => exact h

theorem seat?_mono (more : buffers <+: later) (known : seat? first buffers n = some seat) :
    seat? first later n = some seat := by
  obtain ⟨rest, rfl⟩ := more
  rw [← known, seat?, seat?, List.getElem?_append_left (Ledger.lt_of_seat? known)]

theorem length_rearrange (fresh : Nat) (held : List Nat) (event : Event) :
    held.length ≤ (event.rearrange fresh held).length := by
  unfold Event.rearrange
  split
  · simp
  · split <;> simp
  · split <;> simp
  · exact Nat.le_refl _

/-- An event that leaves a slot alone leaves the buffer in it. -/
theorem getElem?_rearrange (inside : slot < held.length) (stays : ¬event.Replaces slot) :
    (event.rearrange fresh held)[slot]? = held[slot]? := by
  unfold Event.rearrange
  split
  · rw [List.getElem?_append_left inside]
  · rename_i source target
    obtain ⟨other, other'⟩ := not_or.mp stays
    split
    · rw [List.getElem?_set_ne (Ne.symm other'), List.getElem?_set_ne (Ne.symm other)]
    · rfl
  · rename_i i j
    obtain ⟨other, other'⟩ := not_or.mp stays
    split
    · rw [List.getElem?_set_ne (Ne.symm other'), List.getElem?_set_ne (Ne.symm other)]
    · rfl
  · rfl

theorem perform_buffers (l : Ledger) (event : Event) : l.buffers <+: (l.perform event).buffers := by
  unfold Ledger.perform
  split
  · exact List.prefix_rfl
  · exact List.prefix_append _ _

theorem perform_held (l : Ledger) (event : Event) :
    (l.perform event).held = l.held ∨
      (l.perform event).held = event.rearrange l.buffers.length l.held := by
  unfold Ledger.perform
  split
  · exact Or.inl rfl
  · exact Or.inr rfl

theorem Noted.perform (h : Noted first l guard o) (event : Event) :
    Noted first (l.perform event) guard o := by
  refine ⟨h.checkpoint, seat?_mono (perform_buffers l event) h.seat, ?_⟩
  rcases perform_held l event with same | rearranged
  · rw [same]
    exact h.slot
  · rw [rearranged]
    exact Nat.lt_of_lt_of_le h.slot (length_rearrange _ _ event)

/-- A region that is opened gets a note, and any other event only prunes them. -/
theorem perform_cases (sound : j.Sound first) (event : Event) :
    (∃ slot a n, event = .openRegion slot ∧ j.ledger.workspace.slots[slot]? = some a ∧
      j.ledger.held[slot]? = some n ∧ seat? first j.ledger.buffers n = some a.seat ∧
      (j.perform event).ledger.workspace.guards =
        ⟨slot, ⟨a.offset, a.last?⟩⟩ :: j.ledger.workspace.guards ∧
      (j.perform event).openings = ⟨n, a⟩ :: j.openings) ∨
    ((j.perform event).ledger.workspace.guards = event.prune j.ledger.workspace.guards ∧
      (j.perform event).openings = event.prune j.openings) := by
  have state := Ledger.perform_workspace j.ledger event
  by_cases opens : ∃ slot, event = .openRegion slot
  · obtain ⟨slot, rfl⟩ := opens
    rcases Workspace.openRegion_cases j.ledger.workspace slot with ⟨fault, w', failed, guards⟩ |
      ⟨a, found, opened⟩
    · have failed : Workspace.perform (.openRegion slot) j.ledger.workspace = .error fault w' :=
        run_bind_error failed
      right
      rw [failed] at state
      refine ⟨(congrArg Workspace.guards state).trans guards, ?_⟩
      simp only [perform, failed]
    · have opened : Workspace.perform (.openRegion slot) j.ledger.workspace = .ok .done _ :=
        run_bind_ok opened
      obtain ⟨n, held, known⟩ := sound.ledger.held_of_slot found
      left
      rw [opened] at state
      refine ⟨slot, a, n, rfl, found, held, known, congrArg Workspace.guards state, ?_⟩
      simp only [perform, opened, Ledger.opening?, held, found]
      rfl
  · have other (slot : Nat) : event ≠ .openRegion slot := fun same => opens ⟨slot, same⟩
    right
    refine ⟨(congrArg Workspace.guards state).trans (Workspace.perform_guards event _ other), ?_⟩
    unfold perform
    dsimp only
    split
    · rename_i slot _ _ _
      exact absurd rfl (other slot)
    · rfl

theorem perform_sound (sound : j.Sound first) (fits : event.Fits) : (j.perform event).Sound first := by
  have kept := sound.noted.imp fun _ _ noted => noted.perform event
  refine ⟨Ledger.perform_sound sound.ledger fits, ?_⟩
  rcases perform_cases sound event with ⟨slot, a, n, rfl, found, held, known, guards, openings⟩ |
    ⟨guards, openings⟩
  · rw [guards, openings]
    have noted : Noted first j.ledger ⟨slot, ⟨a.offset, a.last?⟩⟩ ⟨n, a⟩ :=
      ⟨rfl, known, (List.getElem?_eq_some_iff.mp held).1⟩
    exact .cons (noted.perform _) kept
  · rw [guards, openings]
    exact forall₂_prune kept event

theorem run_sound (sound : j.Sound first) (events : List Event)
    (fit : ∀ event ∈ events, event.Fits) : (j.run events).Sound first := by
  induction events generalizing j with
  | nil => exact sound
  | cons event rest ih =>
    rw [List.forall_mem_cons] at fit
    exact ih (perform_sound sound fit.1) fit.2

theorem start_sound (first : UInt32) : (start first).Sound first :=
  ⟨Ledger.start_sound first, .nil⟩

/-! ### Sessions that move no arena -/

/-- Every open region finds the buffer in its slot that it was opened on. -/
def Settled (j : Journal) : Prop :=
  List.Forall₂ (fun guard o => j.ledger.held[guard.slot]? = some o.buffer)
    j.ledger.workspace.guards j.openings

theorem perform_settled (sound : j.Sound first) (settled : j.Settled)
    (stays : ∀ guard ∈ j.ledger.workspace.guards, ¬event.Replaces guard.slot) :
    (j.perform event).Settled := by
  have still (slot n : Nat) (held : j.ledger.held[slot]? = some n) (alone : ¬event.Replaces slot) :
      (j.ledger.perform event).held[slot]? = some n := by
    rcases perform_held j.ledger event with same | rearranged
    · rw [same]
      exact held
    · rw [rearranged, getElem?_rearrange (List.getElem?_eq_some_iff.mp held).1 alone]
      exact held
  have kept := (List.forall₂_and_left _ _).mpr ⟨stays, settled⟩
  have kept : List.Forall₂ (fun guard o => (j.perform event).ledger.held[guard.slot]? = some o.buffer)
      j.ledger.workspace.guards j.openings :=
    kept.imp fun guard o ⟨alone, held⟩ => still guard.slot o.buffer held alone
  unfold Settled
  rcases perform_cases sound event with ⟨slot, a, n, rfl, found, held, known, guards, openings⟩ |
    ⟨guards, openings⟩
  · rw [guards, openings]
    exact .cons (still slot n held id) kept
  · rw [guards, openings]
    exact forall₂_prune kept event

theorem run_settled (sound : j.Sound first) (settled : j.Settled) (events : List Event)
    (fit : ∀ event ∈ events, event.Fits) (undisturbed : j.Undisturbed events) :
    (j.run events).Settled := by
  induction events generalizing j with
  | nil => exact settled
  | cons event rest ih =>
    rw [List.forall_mem_cons] at fit
    exact ih (perform_sound sound fit.1) (perform_settled sound settled undisturbed.1) fit.2
      undisturbed.2

theorem run_workspace (j : Journal) (events : List Event) :
    (j.run events).ledger.workspace = j.ledger.workspace.run events := by
  induction events generalizing j with
  | nil => rfl
  | cons event rest ih =>
    rw [run, ih, Workspace.run, ← Ledger.perform_workspace]
    rfl

theorem Sound.finds (sound : j.Sound first) (noted : Noted first j.ledger guard o) :
    ∃ a n, j.ledger.workspace.slots[guard.slot]? = some a ∧ j.ledger.held[guard.slot]? = some n ∧
      seat? first j.ledger.buffers n = some a.seat := by
  have lengths := congrArg List.length sound.ledger.seats
  simp only [Workspace.seats, List.length_map] at lengths
  have inside : guard.slot < j.ledger.workspace.slots.length := by
    rw [lengths]
    exact noted.slot
  have found := List.getElem?_eq_getElem inside
  obtain ⟨n, held, known⟩ := sound.ledger.held_of_slot found
  exact ⟨_, n, found, held, known⟩

/-- A close that does not fault strays exactly if the arena in the slot is another one than the region
was opened on. -/
theorem Sound.close_cases {depth : Nat} (sound : j.Sound first) (noted : Noted first j.ledger guard o)
    (listed : j.ledger.workspace.guards[depth]? = some guard) :
    ∃ a n, j.ledger.workspace.slots[guard.slot]? = some a ∧ j.ledger.held[guard.slot]? = some n ∧
      ((¬j.Strays guard o ∧ ∃ fault, (fault = .improperRegionCounter a.id ∨
          fault = .belowCheckpoint a.id a.offset o.arena.offset) ∧
        Workspace.closeRegion? depth j.ledger.workspace = .error fault
          { j.ledger.workspace with guards := j.ledger.workspace.guards.eraseIdx depth }) ∨
      ((j.Strays guard o ↔ n ≠ o.buffer) ∧ (n = o.buffer → a.seat = o.arena.seat) ∧
        o.arena.offset ≤ a.offset ∧
        Workspace.closeRegion? depth j.ledger.workspace = .ok (some guard) { j.ledger.workspace with
          guards := j.ledger.workspace.guards.eraseIdx depth
          slots := j.ledger.workspace.slots.set guard.slot { a with
            offset := o.arena.offset
            last? := o.arena.last?
            regions := a.regions - 1 } })) := by
  obtain ⟨a, n, found, held, known⟩ := sound.finds noted
  have closes := Workspace.closeRegion?_cases listed found
  have strays : j.Strays guard o ↔
      n ≠ o.buffer ∧ 0 < a.regions.toNat ∧ guard.checkpoint.offset ≤ a.offset := by
    unfold Strays
    simp [held, found]
  rw [noted.checkpoint] at closes strays
  refine ⟨a, n, found, held, ?_⟩
  rcases closes with ⟨never, fault, cause, failed⟩ | ⟨always, closed⟩
  · exact Or.inl ⟨fun astray => never (strays.mp astray).2, fault, cause, failed⟩
  · refine Or.inr ⟨strays.trans (and_iff_left always), fun own => ?_, always.2, closed⟩
    rw [own] at known
    exact Option.some.inj (known.symm.trans noted.seat)

end Journal

/-- Whatever has been asked of some arenas, and wherever they have gone, a region that closes without a
fault and does not stray closes on the arena that it was opened on. It takes that arena back to the
checkpoint, and what was in use there when the region was opened stays in use. A region strays exactly
if it closes without a fault on another arena. A close that faults says that no region is open or that
the checkpoint is out of reach, and changes no arena. As long as no arena is put in the place of one
with an open region, no region strays. -/
theorem regions_close_their_arena (first : UInt32) (events : List Event)
    (fit : ∀ event ∈ events, event.Fits) :
    let j : Journal := .run (.start first) events
    let w : Workspace := .run { nextId := first } events
    j.ledger.workspace = w ∧ j.openings.length = w.guards.length ∧
    ∀ depth guard o, w.guards[depth]? = some guard → j.openings[depth]? = some o →
      ∃ a n, w.slots[guard.slot]? = some a ∧ j.ledger.held[guard.slot]? = some n ∧
        (n ≠ o.buffer ∧ (∃ w', Workspace.closeRegion? depth w = .ok (some guard) w') ↔
          j.Strays guard o) ∧
        (∀ w', Workspace.closeRegion? depth w = .ok (some guard) w' → ¬j.Strays guard o →
          n = o.buffer ∧ a.seat = o.arena.seat ∧
          ∃ a', a' = { a with
              offset := o.arena.offset
              last? := o.arena.last?
              regions := a.regions - 1 } ∧
            w' = { w with
              guards := w.guards.eraseIdx depth
              slots := w.slots.set guard.slot a' } ∧
            ∀ b : Block, b.finish ≤ o.arena.offset →
              b.finish ≤ a'.offset ∧ b.finish ≤ a.offset ∧ a'.bytes b = a.bytes b) ∧
        (∀ fault w', Workspace.closeRegion? depth w = .error fault w' →
          (fault = .improperRegionCounter a.id ∨
            fault = .belowCheckpoint a.id a.offset o.arena.offset) ∧
          w' = { w with guards := w.guards.eraseIdx depth }) ∧
        (Journal.Undisturbed (.start first) events → ¬j.Strays guard o) := by
  intro j w
  have sound : j.Sound first := Journal.run_sound (Journal.start_sound first) events fit
  have same : j.ledger.workspace = w := Journal.run_workspace _ events
  refine ⟨same, ?_, fun depth guard o listed opening => ?_⟩
  · rw [← same]
    exact sound.noted.length_eq.symm
  rw [← same] at listed
  have both : (guard, o) ∈ j.ledger.workspace.guards.zip j.openings :=
    List.mem_of_getElem? (List.getElem?_zip_eq_some.mpr ⟨listed, opening⟩)
  have settled : Journal.Undisturbed (.start first) events → ¬j.Strays guard o := by
    intro undisturbed elsewhere
    have settled : j.Settled :=
      Journal.run_settled (Journal.start_sound first) .nil events fit undisturbed
    have here := List.forall₂_zip settled both
    exact elsewhere.1 here
  obtain ⟨a, n, found, held, closes⟩ := sound.close_cases (List.forall₂_zip sound.noted both) listed
  rw [same] at found closes
  refine ⟨a, n, found, held, ?_⟩
  rcases closes with ⟨steady, fault, cause, failed⟩ | ⟨strays, seat, above, closed⟩
  · refine ⟨⟨fun ⟨_, w', closed⟩ => ?_, fun astray => absurd astray steady⟩, ?_, ?_, settled⟩
    · cases failed.symm.trans closed
    · intro w' closed
      cases failed.symm.trans closed
    · intro fault' w' failed'
      cases failed.symm.trans failed'
      exact ⟨cause, rfl⟩
  · refine ⟨⟨fun ⟨other, _⟩ => strays.mpr other, fun astray => ?_⟩, ?_, ?_, settled⟩
    · exact ⟨strays.mp astray, _, closed⟩
    · intro w' closed' steady
      cases closed.symm.trans closed'
      have own : n = o.buffer := not_not.mp (mt strays.mpr steady)
      exact ⟨own, seat own, _, rfl, rfl, fun b used => ⟨used, Nat.le_trans used above, rfl⟩⟩
    · intro fault w' failed
      cases closed.symm.trans failed

/-- Two arenas with a region open on each, that have changed places. A block of 40 bytes had been
handed out of the first before. -/
def exchanged : List Event :=
  [.create 4096 (List.replicate 64 0), .create 8192 (List.replicate 64 0), .operate 0 (.alloc 40 1),
    .openRegion 0, .openRegion 1, .swap 0 1]

/-- The inner region, which was opened on the second arena, closes on the first and drops the block. -/
theorem region_closes_elsewhere :
    let j : Journal := .run (.start 1) exchanged
    ∃ guard o, j.ledger.workspace.guards[0]? = some guard ∧ j.openings[0]? = some o ∧
      o.buffer = 1 ∧ j.ledger.held[guard.slot]? = some 0 ∧ (0, ⟨1, 0, 40⟩) ∈ j.ledger.issued ∧
      j.ledger.workspace.slots[guard.slot]?.map (fun a => (a.id, a.offset)) = some (1, 40) ∧
      ∃ w', Workspace.closeRegion? 0 j.ledger.workspace = .ok (some guard) w' ∧
        w'.slots[guard.slot]?.map (fun a => (a.id, a.offset)) = some (1, 0) := by
  refine ⟨⟨1, ⟨0, none⟩⟩, ⟨1, _⟩, by decide +kernel, rfl, rfl, by decide +kernel, by decide +kernel,
    by decide +kernel, _, rfl, by decide +kernel⟩

/-- Once the arenas have changed places again, the outer region closes on the first, with the block
still in use. -/
theorem regions_close_their_arena_exchanged :
    let events := exchanged ++ [.operate 1 (.alloc 16 1), .swap 0 1]
    let j : Journal := .run (.start 1) events
    ∃ o, j.openings[1]? = some o ∧ o.buffer = 0 ∧ ¬j.Strays ⟨0, ⟨40, some 0⟩⟩ o ∧
      ∃ w' a', Workspace.closeRegion? 1 (Workspace.run {} events) =
          .ok (some ⟨0, ⟨40, some 0⟩⟩) w' ∧
        w'.slots[0]? = some a' ∧ a'.id = 1 ∧ a'.offset = 40 := by
  intro events j
  have fit : ∀ event ∈ events, event.Fits := by simp [events, exchanged, Event.Fits, wordLimit]
  obtain ⟨-, -, closes⟩ := regions_close_their_arena 1 events fit
  have listed : (Workspace.run { nextId := 1 } events).guards[1]? = some ⟨0, ⟨40, some 0⟩⟩ := by
    decide +kernel
  have noted : j.openings[1]?.map (fun o => (o.buffer, o.arena.offset, o.arena.id)) =
      some (0, 40, 1) := by decide +kernel
  obtain ⟨o, opening, same⟩ := Option.map_eq_some_iff.mp noted
  simp only [Prod.mk.injEq] at same
  obtain ⟨buffer, offset, id⟩ := same
  obtain ⟨a, n, found, held, strays, own, -, -⟩ := closes 1 _ o listed opening
  have first : j.ledger.held[0]? = some 0 := by decide +kernel
  have home : n = o.buffer := by
    rw [buffer]
    exact Option.some.inj (held.symm.trans first)
  have steady : ¬j.Strays ⟨0, ⟨40, some 0⟩⟩ o := fun elsewhere => (strays.mpr elsewhere).1 home
  obtain ⟨-, seat, a', shape, closed, -⟩ := own _ rfl steady
  refine ⟨o, opening, buffer, steady, _, a', rfl, ?_, ?_, ?_⟩
  · rw [closed]
    exact List.getElem?_set_self (List.getElem?_eq_some_iff.mp found).1
  · rw [shape]
    exact (congrArg Seat.id seat).trans id
  · rw [shape]
    exact offset

end FrontEnd.Memory
