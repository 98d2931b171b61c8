import FrontEnd.Proofs.Lexer.Answer
import FrontEnd.Proofs.Memory.Discreet

/-!
# What staging sees of the scratch arena

Staging reads back the digits that it has stored, and leaves an arena that differs in its contents
at most. What comes of it does not depend on what the contents were. All of this holds over any
arena, usable or not.
-/

namespace FrontEnd

namespace Memory.Arena

/-- The same answer or fault, over arenas that are alike. -/
inductive Same {α : Type} :
    EStateM.Result Fault Arena α → EStateM.Result Fault Arena α → Prop where
  | ok {a a' : Arena} (v : α) (alike : a.Alike a') : Same (.ok v a) (.ok v a')
  | error {a a' : Arena} (fault : Fault) (alike : a.Alike a') :
      Same (.error fault a) (.error fault a')

/-- A computation to which the contents of the arena make no difference. -/
def Blind {α : Type} (x : ArenaM α) : Prop := ∀ a a', a.Alike a' → Same (x a) (x a')

/-- Writes bytes into a block and reads it back. -/
def writeRead (block : Block) (kept : List UInt8) : ArenaM (Except AllocError (List UInt8)) := do
  writeBytes block 0 kept
  let staged ← get
  return .ok (← orFault (staged.bytes block))

variable {α β : Type} {a a' a'' : Arena} {x : ArenaM α} {f : α → ArenaM β} {block : Block}
  {kept text : List UInt8} {answer : Except AllocError (List UInt8)}

/-! ### Computations that do not look -/

/-- A computation that comes to the same when it is shown nothing. -/
theorem blind_of_discreet {reveals : α → Nat → Prop} (h : Discreet (fun _ => False) reveals x) :
    Blind x := by
  intro a a' alike
  have same := h a a' ⟨alike, fun _ => False.elim⟩
  generalize x a = left at same ⊢
  generalize x a' = right at same ⊢
  cases same with
  | ok v shares => exact .ok v shares.alike
  | error fault shares => exact .error fault shares.alike

theorem writeRead_cases (full : block.len = kept.length) (a : Arena) :
    (∃ fault, a.checkOwned block = .error fault ∧ writeRead block kept a = .error fault a) ∨
    (a.checkOwned block = .ok () ∧ writeRead block kept a =
      .ok (.ok kept) { a with data := Buffer.splice a.data block.offset kept }) := by
  obtain ⟨fault, foreign, failed⟩ | ⟨-, short, -⟩ | ⟨owned, fits, written⟩ :=
    writeBytes_cases a block 0 kept
  · exact Or.inl ⟨fault, foreign, run_bind_error failed⟩
  · omega
  · right
    obtain ⟨owner, word, inside⟩ := checkOwned_eq_ok_iff.mp owned
    unfold Block.finish at word inside
    have room : block.offset + kept.length ≤ a.data.length := by
      rw [← full]
      exact inside
    have read : Arena.bytes { a with data := Buffer.splice a.data block.offset kept } block =
        .ok kept := by
      refine bytes_eq_ok_iff.mpr ⟨owner, word, ?_, ?_⟩
      · exact Nat.le_trans inside (Nat.le_of_eq (Buffer.length_splice room).symm)
      · rw [full]
        exact (Buffer.window_splice_self room).symm
    refine ⟨owned, ?_⟩
    unfold writeRead
    rw [run_bind_ok written, run_get_bind, Nat.add_zero, read]
    rfl

/-- Staging looks at the block that it has been handed, and at nothing else. -/
theorem discreet_stash (kept : List UInt8) : Discreet (fun _ => False) Nothing (stash kept) := by
  refine (discreet_alloc kept.length 1).bind fun _ answer _ _ => ?_
  cases answer with
  | error refusal => exact discreet_pure fun _ => False.elim
  | ok block =>
    refine (discreet_modifyBytes (fun i covers => Or.inr covers) _).bind fun _ _ _ _ => ?_
    show Discreet _ Nothing (do return Except.ok (← inspect fun staged => staged.bytes block))
    refine (discreet_inspect fun a a' shares => ?_).map fun _ _ => False.elim
    exact shares.bytes fun i covers => Or.inl (Or.inr covers)

/-! ### What staging leaves -/

theorem capacity_handOut {padding : Nat} (room : padding + kept.length ≤ a.remaining) :
    (a.handOut (a.offset + padding) kept).capacity = a.capacity := by
  unfold Arena.remaining at room
  rcases Nat.lt_or_ge a.capacity (a.offset + padding + kept.length) with short | fits
  · -- then nothing is left of an arena that is already past its end, and nothing was asked for
    obtain rfl : kept = [] := List.eq_nil_of_length_eq_zero (by omega)
    unfold handOut
    rw [Buffer.splice_nil]
    rfl
  · exact Buffer.length_splice fits

/-- The arena has no address for the bytes or no room, or else hands out a block for them. -/
theorem stash_run (kept : List UInt8) (a : Arena) :
    (∃ fault, a.padding minAlignment = .error fault ∧ stash kept a = .error fault a) ∨
    stash kept a = .ok (.error (.outOfMemory kept.length a.remaining)) a ∨
    ∃ padding, a.padding minAlignment = .ok padding ∧ padding + kept.length ≤ a.remaining ∧
      stash kept a = writeRead ⟨a.id, a.offset + padding, kept.length⟩ kept
        (a.handOut (a.offset + padding) (List.replicate kept.length 0)) := by
  unfold stash
  obtain ⟨odd, -⟩ | ⟨fault, -, overflows, came⟩ | ⟨padding, -, -, -, came⟩ |
    ⟨padding, -, found, -, room, came⟩ := alloc_cases a kept.length 1
  · exact absurd odd (by decide)
  · exact Or.inl ⟨fault, overflows, run_bind_error came⟩
  · exact Or.inr (Or.inl (run_bind_ok came))
  · exact Or.inr (Or.inr ⟨padding, found, room, run_bind_ok came⟩)

/-- What was read back is what was stored; only the contents and the end of what is in use have
changed. -/
theorem stash_keeps (ran : stash kept a = .ok answer a') :
    (∀ text, answer = .ok text → text = kept) ∧ a.offset ≤ a'.offset ∧
      ∃ data, a' = { a with data, offset := a'.offset, last? := a'.last? } ∧
        data.length = a.data.length := by
  obtain ⟨fault, -, came⟩ | came | ⟨padding, -, room, came⟩ := stash_run kept a
  · cases came.symm.trans ran
  · cases came.symm.trans ran
    exact ⟨nofun, Nat.le_refl _, a.data, rfl, rfl⟩
  · have ran := came.symm.trans ran
    have capacity : (a.handOut (a.offset + padding) (List.replicate kept.length 0)).capacity =
        a.capacity := capacity_handOut (by rw [List.length_replicate]; exact room)
    have full : (⟨a.id, a.offset + padding, kept.length⟩ : Block).len = kept.length := rfl
    obtain ⟨fault, -, failed⟩ | ⟨owned, stored⟩ := writeRead_cases full
      (a.handOut (a.offset + padding) (List.replicate kept.length 0))
    · cases failed.symm.trans ran
    · cases stored.symm.trans ran
      obtain ⟨-, -, inside⟩ := checkOwned_eq_ok_iff.mp owned
      refine ⟨fun text same => (Except.ok.inj same).symm, ?_, _, rfl, ?_⟩
      · exact Nat.le_trans (Nat.le_add_right _ _) (Nat.le_add_right _ _)
      · exact (Buffer.length_splice inside).trans capacity

/-- Staging that does not fault leaves a region that can be closed. -/
theorem inRegion_stash (countable : a.regions.toNat + 1 < UInt32.size)
    (ran : stash kept { a with last? := none, regions := a.regions + 1 } = .ok answer a') :
    ∃ data, inRegion (fun _ => stash kept) a = .ok answer { a with data } ∧
      data.length = a.data.length := by
  obtain ⟨-, above, data, same, length⟩ := stash_keeps ran
  have regions : a'.regions = a.regions + 1 := by rw [same]
  refine ⟨data, ?_, length⟩
  rw [@inRegion_run _ a _ (fun _ => stash kept) _ countable ran regions above, same]

/-- What a region's body has done, if the region was closed. -/
theorem exists_of_inRegion {body : Checkpoint → ArenaM α} {v : α}
    (ran : inRegion body a = .ok v a') :
    a.regions.toNat + 1 < UInt32.size ∧
      ∃ left, body ⟨a.offset, a.last?⟩ { a with last? := none, regions := a.regions + 1 } =
        .ok v left := by
  obtain ⟨-, stops⟩ | ⟨countable, opens⟩ := openRegion_cases a
  · cases (run_bind_error stops).symm.trans ran
  · have ran := (run_bind_ok opens).symm.trans ran
    obtain ⟨answer, left, ran, closes⟩ := run_bind_eq_ok ran
    obtain ⟨_, closed, -, answers⟩ := run_bind_eq_ok closes
    cases answers
    exact ⟨countable, left, ran⟩

end Memory.Arena

namespace Lexer

open Memory (AllocError Arena)

variable {a a' : Arena} {bytes digits : List UInt8} {answer : Except AllocError (List UInt8)}
  {r : Reading}

/-- Staging that does not fault answers with the digits without separators or a refusal, and leaves
an arena that is alike. -/
theorem staged_keeps (came : (staged a digits).1 = .ok answer) :
    (∀ text, answer = .ok text → text = strip digits) ∧ a.Alike (staged a digits).2 := by
  by_cases separated : separator ∈ digits
  · have ran := staged_eq_ok separated came
    obtain ⟨countable, inside, stashed⟩ := Arena.exists_of_inRegion ran
    obtain ⟨data, closed, length⟩ := Arena.inRegion_stash countable stashed
    rw [closed] at ran
    injection ran with _ left
    exact ⟨(Arena.stash_keeps stashed).1, data, left.symm, length⟩
  · rw [staged_plain separated] at came ⊢
    cases came
    refine ⟨fun text same => ?_, .refl a⟩
    cases same
    exact (strip_eq_self separated).symm

/-- A numeral is read of its digits without separators, unless the arena cannot hold them. -/
theorem Numeral.readIn_ok {n : Numeral} (read : (n.readIn a bytes).1 = .ok r) :
    r = n.evaluate (strip (bytes.drop n.mark)) ∨
      ∃ refusal, r = .error (0, .scratchExhausted refusal) := by
  obtain ⟨answer, came, rfl⟩ := Numeral.readIn_eq_ok_iff.mp read
  cases answer with
  | error refusal => exact Or.inr ⟨refusal, rfl⟩
  | ok digits =>
    obtain rfl := (staged_keeps came).1 digits rfl
    exact Or.inl rfl

theorem staged_blind (alike : a.Alike a') :
    (staged a' digits).1 = (staged a digits).1 ∧ (staged a digits).2.Alike (staged a' digits).2 := by
  unfold staged
  split
  · have blind := Arena.blind_of_discreet (.inRegion fun _ => Arena.discreet_stash (strip digits))
    have same := blind a a' alike
    generalize Arena.inRegion (fun _ => Arena.stash (strip digits)) a = left at same ⊢
    generalize Arena.inRegion (fun _ => Arena.stash (strip digits)) a' = right at same ⊢
    cases same with
    | ok _ alike => exact ⟨rfl, alike⟩
    | error _ alike => exact ⟨rfl, alike⟩
  · exact ⟨rfl, alike⟩

theorem reading_keeps (came : (reading a bytes).1 = .ok r) : a.Alike (reading a bytes).2 := by
  obtain ⟨n, numeral⟩ | ⟨r, other⟩ := reading_cases bytes
  · rw [numeral] at came ⊢
    obtain ⟨answer, came, -⟩ := Numeral.readIn_eq_ok_iff.mp came
    exact (staged_keeps came).2
  · rw [other]
    exact .refl a

theorem reading_blind (alike : a.Alike a') :
    (reading a' bytes).1 = (reading a bytes).1 ∧ (reading a bytes).2.Alike (reading a' bytes).2 := by
  obtain ⟨n, numeral⟩ | ⟨r, other⟩ := reading_cases bytes
  · rw [numeral, numeral, Numeral.readIn, Numeral.readIn]
    obtain ⟨same, left⟩ := staged_blind alike
    exact ⟨congrArg (Except.map n.finish) same, left⟩
  · rw [other, other]
    exact ⟨rfl, alike⟩

end Lexer

end FrontEnd
