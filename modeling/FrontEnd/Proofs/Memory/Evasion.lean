import FrontEnd.Proofs.Memory.Faults
import FrontEnd.Proofs.Memory.Seat

/-!
# Blocks that evade the check

If sums are not checked, the end of a block that runs past the last word comes round, and where it
comes to lie inside the buffer the check of the block lets it pass (`Block.Evades`). Such a block is
resized where it starts, and moving it may fault after its new place has been taken
(`Block.Strands`). Nothing else makes a block that is not the arena's usable, or a fault change the
arena (`bad_blocks_fault_cleanly`).
-/

namespace FrontEnd.Memory

/-- The numbers in a block are machine words. -/
structure Block.IsWords (b : Block) : Prop where
  offset : b.offset < wordLimit
  len : b.len < wordLimit

/-- The block is another arena's or does not end inside the buffer. -/
def Block.IsBad (b : Block) (a : Arena) : Prop := b.owner ≠ a.id ∨ a.capacity < b.finish

/-- The block's end comes round past the last word, and then lies inside the buffer. -/
structure Block.Evades [build : Build] (b : Block) (a : Arena) : Prop where
  unchecked : build = .wrapping
  owner : b.owner = a.id
  past : wordLimit ≤ b.finish
  inside : b.finish - wordLimit ≤ a.capacity

/-- The block evades the check and cannot be resized. A new block is handed out for it, but it
reaches out of the buffer with the bytes that are to be kept. -/
structure Block.Strands [Build] (b : Block) (a : Arena) (size align : Nat) : Prop where
  evades : b.Evades a
  stuck : ¬(a.last? = some b.offset ∧ size ≤ a.capacity - b.offset)
  beyond : a.capacity < b.offset + min b.len size
  taken : ∃ fresh a', Arena.alloc size align a = .ok (.ok fresh) a' ∧ a' ≠ a

/-- The fault of a block that is bad and does not evade the check. -/
def Block.objection [build : Build] (b : Block) (a : Arena) : Fault :=
  if b.owner ≠ a.id then .foreignBlock b.owner a.id
  else if b.finish < wordLimit then .blockOutside b.offset b.finish a.id a.capacity
  else if build = .wrapping then .blockOutside b.offset (b.finish - wordLimit) a.id a.capacity
  else .wordOverflow

/-- An arena whose last block starts in the part in use, of a buffer that can be addressed. -/
structure Arena.Regular (a : Arena) : Prop where
  inBounds : a.InBounds
  word : a.capacity < wordLimit

/-! ### Calls -/

/-- What can be asked of an arena with no region involved. -/
inductive Call where
  | alloc (size align : Nat)
  | realloc (block : Block) (size align : Nat)
  | resize (block : Block) (size : Nat)
  | bytes (block : Block)
  /-- Bytes put into a block, from its byte `start` on. -/
  | write (block : Block) (start : Nat) (new : List UInt8)
  | freeAll
  | relocate (spare : UInt32)
  deriving DecidableEq, Repr

namespace Call

/-- Makes a call, whatever it answers. -/
def run [Build] : Call → ArenaM Unit
  | alloc size align => do
    let _ ← Arena.alloc size align
    return ()
  | realloc block size align => do
    let _ ← Arena.realloc block size align
    return ()
  | resize block size => do
    let _ ← Arena.resize? block size
    return ()
  | bytes block => do
    let a ← get
    let _ ← orFault (a.bytes block)
    return ()
  | write block start new => Arena.writeBytes block start new
  | freeAll => Arena.freeAll
  | relocate spare => do
    let _ ← Arena.relocate spare
    return ()

/-- The arena after some calls, each fault among them caught. -/
def runAll [Build] (a : Arena) : List Call → Arena
  | [] => a
  | call :: rest => runAll (stateAfter (call.run a)) rest

/-- The blocks that a call names have words for numbers. -/
def IsWords : Call → Prop
  | realloc block _ _ => block.IsWords
  | resize block _ => block.IsWords
  | bytes block => block.IsWords
  | write block _ _ => block.IsWords
  | _ => True

/-- A call that faults after a new block has been handed out. -/
def Strands [Build] (a : Arena) : Call → Prop
  | realloc block size align => block.Strands a size align
  | _ => False

end Call

namespace Arena

variable {a : Arena} {b : Block} {size align : Nat}

/-! ### The check -/

theorem stop_of_past [build : Build] (words : b.IsWords) (wraps : build = .wrapping)
    (past : wordLimit ≤ b.finish) : b.stop = .ok (b.finish - wordLimit) := by
  have offset := words.offset
  have len := words.len
  refine word_of_past wraps past ?_
  show b.offset + b.len - wordLimit < wordLimit
  omega

theorem check_of_evades (build : Build) (words : b.IsWords) (evades : b.Evades a) :
    a.checkOwned b = .ok () := by
  have ends := stop_of_past words evades.unchecked evades.past
  rw [checkOwned_of_stop evades.owner ends, if_neg (Nat.not_lt.mpr evades.inside)]

theorem check_of_bad (build : Build) (words : b.IsWords) (bad : b.IsBad a)
    (caught : ¬b.Evades a) : a.checkOwned b = .error (b.objection a) := by
  unfold Block.objection
  by_cases owner : b.owner = a.id
  · have outside : a.capacity < b.finish := bad.resolve_left (not_not_intro owner)
    rw [if_neg (not_not_intro owner)]
    by_cases short : b.finish < wordLimit
    · rw [if_pos short, checkOwned_of_stop owner (word_of_lt short)]
      exact if_pos outside
    have past := Nat.le_of_not_lt short
    rw [if_neg short]
    by_cases wraps : build = .wrapping
    · have beyond : a.capacity < b.finish - wordLimit :=
        Nat.lt_of_not_le fun inside => caught ⟨wraps, owner, past, inside⟩
      rw [if_pos wraps, checkOwned_of_stop owner (stop_of_past words wraps past), if_pos beyond]
    · have overflows : b.stop = .error .wordOverflow := word_overflows wraps past
      unfold checkOwned
      rw [if_neg wraps, if_neg (not_not_intro owner), overflows]
      rfl
  · rw [if_pos owner]
    exact checkOwned_of_foreign owner

theorem judges_of_caught (build : Build) (words : b.IsWords) (word : a.capacity < wordLimit)
    (caught : ¬b.Evades a) : a.Judges b := by
  intro owned
  have fits : b.finish ≤ a.capacity := by
    refine Nat.le_of_not_lt fun outside => ?_
    cases owned.symm.trans (check_of_bad build words (.inr outside) caught)
  exact ⟨Nat.lt_of_le_of_lt fits word, fits⟩

/-! ### Blocks that evade it -/

/-- The bytes of such a block would end before they start. -/
theorem bytes_of_evades (build : Build) (words : b.IsWords) (evades : b.Evades a) :
    a.bytes b = .error .outOfRange := by
  have len := words.len
  have past := evades.past
  have backwards : ¬(b.offset ≤ b.finish - wordLimit ∧ b.finish - wordLimit ≤ a.data.length) := by
    unfold Block.finish at past ⊢
    omega
  unfold Arena.bytes
  rw [check_of_evades build words evades, stop_of_past words evades.unchecked evades.past]
  exact if_neg backwards

/-- As far as bytes are kept of such a block, they are no range of the buffer or reach out of it. -/
theorem astray_of_beyond (build : Build) (words : b.IsWords) (evades : b.Evades a)
    (beyond : a.capacity < b.offset + min b.len size) :
    ∃ stop, word (b.offset + min b.len size) = .ok stop ∧
      ¬(b.offset ≤ stop ∧ stop ≤ a.capacity) := by
  have offset := words.offset
  have len := words.len
  by_cases short : b.offset + min b.len size < wordLimit
  · exact ⟨_, word_of_lt short, by omega⟩
  · exact ⟨_, word_of_past evades.unchecked (Nat.le_of_not_lt short) (by omega), by omega⟩

theorem not_strands_of_idle [Build]
    (idle : ∀ fresh a', alloc size align a ≠ .ok (.ok fresh) a') : ¬b.Strands a size align := by
  intro strands
  obtain ⟨fresh, a', handed, -⟩ := strands.taken
  exact idle fresh a' handed

/-- Once a new block has been handed out, moving comes to the copy, which faults if it reaches out of
the buffer. -/
theorem spared_realloc_of_handed {start : Nat} (build : Build) (words : b.IsWords)
    (word : a.capacity < wordLimit) (evades : b.Evades a)
    (stuck : ¬(a.last? = some b.offset ∧ size ≤ a.capacity - b.offset))
    (fits : start + size ≤ a.capacity)
    (handed : alloc size align a =
      .ok (.ok ⟨a.id, start, size⟩) (a.handOut start (List.replicate size 0))) :
    a.Spared (realloc b size align) ↔ ¬b.Strands a size align := by
  have declined := resize_declined (check_of_evades build words evades) stuck
  have same : (a.handOut start (List.replicate size 0)).capacity = a.capacity :=
    Buffer.length_splice (by rw [List.length_replicate]; exact fits)
  by_cases beyond : a.capacity < b.offset + min b.len size
  · obtain ⟨stop, ends, astray⟩ := astray_of_beyond build words evades beyond
    have failed := (realloc_of_handed declined handed ends).trans
      (run_bind_error (copyWithin_of_range _ (by rw [same]; exact astray)))
    constructor
    · intro spared strands
      obtain ⟨fresh, a', handed', changed⟩ := strands.taken
      cases handed.symm.trans handed'
      exact changed (spared _ _ failed)
    · intro steady fault a' came
      cases failed.symm.trans came
      refine Decidable.byContradiction fun changed => ?_
      exact steady ⟨evades, stuck, beyond, _, _, handed, changed⟩
  · have reach := Nat.le_of_not_lt beyond
    have copied := @copyWithin_run (a.handOut start (List.replicate size 0)) b.offset
      (b.offset + min b.len size) start (Nat.le_add_right _ _) (by rw [same]; exact reach)
      (by rw [same]; omega)
    have ends : Memory.word (b.offset + min b.len size) = .ok (b.offset + min b.len size) :=
      word_of_lt (Nat.lt_of_le_of_lt reach word)
    have moved := (realloc_of_handed declined handed ends).trans (run_bind_ok copied)
    exact iff_of_true (spared_of_ok moved) fun strands => beyond strands.beyond

theorem spared_realloc_of_evades (build : Build) (words : b.IsWords) (word : a.capacity < wordLimit)
    (inside : a.offset ≤ a.capacity) (evades : b.Evades a) :
    a.Spared (realloc b size align) ↔ ¬b.Strands a size align := by
  have owned := check_of_evades build words evades
  by_cases fits : a.last? = some b.offset ∧ size ≤ a.capacity - b.offset
  · exact iff_of_true (spared_of_ok (realloc_in_place align owned fits.1 fits.2))
      fun strands => strands.stuck fits
  have declined := resize_declined owned fits
  rcases alloc_cases a size align with ⟨-, failed⟩ | ⟨fault, -, -, failed⟩ |
    ⟨-, -, -, -, refused⟩ | ⟨padding, -, -, -, room, handed⟩
  · exact iff_of_true (spared_of_error (realloc_of_fault declined failed))
      (not_strands_of_idle (by simp [failed]))
  · exact iff_of_true (spared_of_error (realloc_of_fault declined failed))
      (not_strands_of_idle (by simp [failed]))
  · exact iff_of_true (spared_of_ok (realloc_of_refusal declined refused))
      (not_strands_of_idle (by simp [refused]))
  · unfold remaining at room
    exact spared_realloc_of_handed build words word evades fits (by omega) handed

theorem spared_realloc_iff (build : Build) (regular : a.Regular) (words : b.IsWords) :
    a.Spared (realloc b size align) ↔ ¬b.Strands a size align := by
  have inside := regular.inBounds.offset_le
  by_cases evades : b.Evades a
  · exact spared_realloc_of_evades build words regular.word inside evades
  · have judges := judges_of_caught build words regular.word evades
    exact ⟨fun _ strands => evades strands.evades, fun _ => spared_realloc judges inside size align⟩

end Arena

/-! ### What calls leave behind -/

namespace Call

variable {a : Arena} {α : Type} {x : ArenaM α}

theorem run_ignored : (do let _ ← x; return ()) a = match x a with
    | .ok _ a' => .ok () a'
    | .error fault a' => .error fault a' := by
  cases came : x a with
  | ok v a' => exact run_bind_ok came
  | error fault a' => exact run_bind_error came

theorem spared_ignored : a.Spared (do let _ ← x; return ()) ↔ a.Spared x := by
  unfold Arena.Spared
  rw [run_ignored]
  cases x a with
  | ok v a' => simp
  | error fault a' => simp

theorem maintains_ignored {inv : Arena → Prop} {good : α → Prop} (maintains : Maintains inv good x) :
    Maintains inv (fun _ => True) (do let _ ← x; return ()) :=
  maintains.bind fun _ _ => maintains_pure trivial

theorem spared_iff (build : Build) (regular : a.Regular) (call : Call) (words : call.IsWords) :
    a.Spared call.run ↔ ¬call.Strands a := by
  cases call with
  | alloc size align =>
    exact iff_of_true (spared_ignored.mpr (Arena.spared_alloc size align)) not_false
  | realloc block size align =>
    exact spared_ignored.trans (Arena.spared_realloc_iff build regular words)
  | resize block size =>
    exact iff_of_true (spared_ignored.mpr (Arena.spared_resize? block size)) not_false
  | bytes block =>
    refine iff_of_true (fun fault a' came => ?_) not_false
    exact spared_ignored.mpr (Arena.spared_orFault (a.bytes block)) fault a' came
  | write block start new => exact iff_of_true (Arena.spared_modifyBytes block _) not_false
  | freeAll => exact iff_of_true Arena.spared_freeAll not_false
  | relocate spare =>
    exact iff_of_true (spared_ignored.mpr (Arena.spared_relocate spare)) not_false

theorem regular_of_seated {seat : Seat} (seated : a.Seated seat) (word : seat.capacity < wordLimit) :
    a.Regular := by
  obtain ⟨rfl, inBounds⟩ := seated
  exact ⟨inBounds, word⟩

/-- No call takes an arena out of bounds or enlarges its buffer. -/
theorem regular_run (build : Build) (regular : a.Regular) (call : Call) :
    (stateAfter (call.run a)).Regular := by
  have seated : a.Seated a.seat := ⟨rfl, regular.inBounds⟩
  have keeps {x : ArenaM Unit} (maintains : Maintains (Arena.Seated a.seat) (fun _ => True) x) :
      (stateAfter (x a)).Regular :=
    regular_of_seated (maintains.stateAfter seated) regular.word
  cases call with
  | alloc size align =>
    exact keeps (maintains_ignored (Arena.maintains_alloc size align))
  | realloc block size align =>
    exact keeps (maintains_ignored (Arena.maintains_realloc block size align))
  | resize block size =>
    exact keeps (maintains_ignored (Arena.maintains_resize? block size))
  | bytes block =>
    exact keeps (maintains_get.bind fun _ _ => maintains_ignored maintains_orFault)
  | write block start new => exact keeps (Arena.maintains_writeBytes block start new)
  | freeAll => exact keeps Arena.maintains_freeAll
  | relocate spare =>
    show (stateAfter ((do let _ ← Arena.relocate spare; return ()) a)).Regular
    rw [run_ignored]
    rcases Arena.relocate_cases a spare with ⟨fault, failed⟩ | ⟨-, moved⟩
    · rw [failed]
      exact regular
    · rw [moved]
      exact ⟨Arena.inBounds_of_none rfl (Nat.le_refl 0), Nat.two_pow_pos 64⟩

theorem regular_runAll (build : Build) (calls : List Call) (regular : a.Regular) :
    (runAll a calls).Regular := by
  induction calls generalizing a with
  | nil => exact regular
  | cons call rest ih => exact ih (regular_run build regular call)

end Call

open Arena (modifyBytes resize?)

/-- Of any arena that is regular, as it stays whatever is asked of it. No block that is another
arena's or that ends outside can be read or written, and unless its end comes round to inside, which
takes a build that does not check its sums, every use of it comes to the same fault. A block that
evades the check is resized as if it ended inside. A call that faults leaves the arena as it was,
exactly unless it moves such a block and strands. -/
theorem bad_blocks_fault_cleanly (build : Build) {a : Arena} (regular : a.Regular) :
    (∀ calls, (Call.runAll a calls).Regular) ∧
    (∀ b : Block, b.IsWords → b.IsBad a →
      (∃ fault, a.bytes b = .error fault) ∧
      (∀ f, ∃ fault, modifyBytes b f a = .error fault a) ∧
      (¬b.Evades a → a.StopsAt b (b.objection a)) ∧
      (b.Evades a → ∀ size, resize? b size a =
        if a.last? = some b.offset ∧ size ≤ a.capacity - b.offset then
          .ok (some { b with len := size }) { a with offset := b.offset + size }
        else .ok none a)) ∧
    ∀ call : Call, call.IsWords → (a.Spared call.run ↔ ¬call.Strands a) := by
  refine ⟨fun calls => Call.regular_runAll build calls regular, fun b words bad => ?_,
    Call.spared_iff build regular⟩
  by_cases evades : b.Evades a
  · have owned := Arena.check_of_evades build words evades
    have unread := Arena.bytes_of_evades build words evades
    refine ⟨⟨_, unread⟩, fun f => ⟨_, Arena.modifyBytes_of_fault (by rw [unread]; rfl)⟩,
      fun caught => absurd evades caught, fun _ size => ?_⟩
    split
    · rename_i fits
      rw [Arena.resize_in_place owned fits.1 fits.2, Arena.refit, Buffer.splice_nil]
    · rename_i stuck
      exact Arena.resize_declined owned stuck
  · have stops := Arena.stopsAt_of_check (Arena.check_of_bad build words bad evades)
    exact ⟨⟨_, stops.bytes⟩, fun f => ⟨_, stops.modify f⟩, fun _ => stops,
      fun evades' => absurd evades' evades⟩

/-- An arena of which 16 bytes and 4 more are in use. -/
def twoBlocks : Arena :=
  (Session.run ⟨{ id := 1, address := 4096, data := List.replicate 40 7 }, []⟩
    [.alloc 16 1, .alloc 4 1]).arena

theorem twoBlocks_regular : twoBlocks.Regular := by
  have last : twoBlocks.last? = some 16 := by decide +kernel
  have offset : twoBlocks.offset = 20 := by decide +kernel
  refine ⟨⟨fun start found => ?_, by decide +kernel⟩, by decide +kernel⟩
  cases last.symm.trans found
  omega

/-- The end of `long` comes round to the start of the buffer, and that of `far` to its byte 4. The
one is declined or resized like the last block, and the other moves in part, but only where sums are
not checked. -/
theorem bad_blocks_fault_cleanly_twoBlocks :
    let long : Block := ⟨1, 16, 0xFFFFFFFFFFFFFFF0⟩
    let far : Block := ⟨1, 0xFFFFFFFFFFFFFFFC, 8⟩
    twoBlocks.StopsAt long .wordOverflow ∧
    (∃ fault, @Arena.bytes .wrapping twoBlocks long = .error fault) ∧
    @resize? .wrapping long 8 twoBlocks =
      .ok (some ⟨1, 16, 8⟩) { twoBlocks with offset := 24 } ∧
    twoBlocks.Spared (Call.run (.realloc far 6 1)) ∧
    ¬twoBlocks.Spared (@Call.run .wrapping (.realloc far 6 1)) := by
  intro long far
  have long_words : long.IsWords := ⟨by decide, by decide⟩
  have far_words : far.IsWords := ⟨by decide, by decide⟩
  have long_bad : long.IsBad twoBlocks := .inr (by decide +kernel)
  obtain ⟨-, blocks, calls⟩ := bad_blocks_fault_cleanly .checked twoBlocks_regular
  obtain ⟨-, blocks', calls'⟩ := bad_blocks_fault_cleanly .wrapping twoBlocks_regular
  obtain ⟨-, -, stops, -⟩ := blocks long long_words long_bad
  obtain ⟨unread, -, -, resized⟩ := blocks' long long_words long_bad
  have objection : long.objection twoBlocks = .wordOverflow := by decide +kernel
  have long_evades := @Block.Evades.mk .wrapping long twoBlocks rfl (by decide +kernel) (by decide)
    (by decide +kernel)
  have far_evades := @Block.Evades.mk .wrapping far twoBlocks rfl (by decide +kernel) (by decide)
    (by decide +kernel)
  have strands : @Block.Strands .wrapping far twoBlocks 6 1 := by
    have moved : (stateAfter (@Arena.alloc .wrapping 6 1 twoBlocks)).offset ≠ twoBlocks.offset := by
      decide +kernel
    refine @Block.Strands.mk .wrapping far twoBlocks 6 1 far_evades (by decide +kernel)
      (by decide +kernel) ?_
    rcases @Arena.alloc_cases .wrapping twoBlocks 6 1 with ⟨-, failed⟩ | ⟨fault, -, -, failed⟩ |
      ⟨-, -, -, -, refused⟩ | ⟨padding, -, -, -, -, handed⟩
    · exact absurd rfl (by rwa [failed] at moved)
    · exact absurd rfl (by rwa [failed] at moved)
    · exact absurd rfl (by rwa [refused] at moved)
    · rw [handed] at moved
      exact ⟨_, _, handed, fun same => moved (congrArg Arena.offset same)⟩
  refine ⟨?_, unread, ?_, ?_, ?_⟩
  · exact objection ▸ stops fun evades => nomatch evades.unchecked
  · exact (resized long_evades 8).trans (if_pos ⟨by decide +kernel, by decide +kernel⟩)
  · exact (calls (.realloc far 6 1) far_words).mpr fun strands => nomatch strands.evades.unchecked
  · exact fun spared => (calls' (.realloc far 6 1) far_words).mp spared strands

/-- With sums that are not checked, the last block is resized by a block that ends far outside, and
moving one that starts there faults after its new place has been taken. -/
theorem wrapped_ends_slip_past :
    let long : Block := ⟨1, 16, 0xFFFFFFFFFFFFFFF0⟩
    let far : Block := ⟨1, 0xFFFFFFFFFFFFFFFC, 8⟩
    long.IsBad twoBlocks ∧ far.IsBad twoBlocks ∧
    (@resize? .wrapping long 8).run' twoBlocks = some (some ⟨1, 16, 8⟩) ∧
    (@Arena.realloc .wrapping far 6 1).run' twoBlocks = none ∧
    (stateAfter (@Arena.realloc .wrapping far 6 1 twoBlocks)).offset = 38 ∧
    twoBlocks.offset = 20 ∧
    ¬∀ (a : Arena) (b : Block), b.IsWords → b.IsBad a →
      ∀ size, ∃ fault a', @resize? .wrapping b size a = .error fault a' := by
  intro long far
  have resized : (@resize? .wrapping long 8).run' twoBlocks = some (some ⟨1, 16, 8⟩) := by
    decide +kernel
  have bad : long.IsBad twoBlocks := .inr (by decide +kernel)
  refine ⟨bad, .inr (by decide +kernel), resized, by decide +kernel, by decide +kernel,
    by decide +kernel, fun claimed => ?_⟩
  obtain ⟨fault, a', failed⟩ := claimed twoBlocks long ⟨by decide, by decide⟩ bad 8
  obtain ⟨kept, ran⟩ := run_of_run' resized
  cases failed.symm.trans ran

end FrontEnd.Memory
