import FrontEnd.Lexer
import FrontEnd.Proofs.Memory.Operations
import FrontEnd.Proofs.Memory.Rounding

/-!
# Staging

A numeral with separators is copied without them into a region of the scratch arena, and the region
is closed again. `inRegion_stash_cases` says what comes of it: the bytes or a refusal, and an arena
that is untouched, that is one that differs at most in bytes not in use.
-/

namespace FrontEnd

namespace Memory.Arena

/-- An arena that is in bounds, that machine words can address with an alignment to spare, and that
can count one more region. -/
structure Usable (a : Arena) : Prop where
  offset_le : a.offset ≤ a.capacity
  addressable : a.address + a.capacity + minAlignment ≤ wordLimit
  countable : a.regions.toNat + 1 < UInt32.size

/-- The same arena, but for bytes that are not in use. -/
def Untouched (a a' : Arena) : Prop :=
  ∃ data, a' = { a with data } ∧ data.length = a.data.length ∧
    data.take a.offset = a.data.take a.offset

variable {a a' a'' : Arena} {kept : List UInt8}

theorem Untouched.refl (a : Arena) : a.Untouched a := ⟨a.data, rfl, rfl, rfl⟩

theorem Untouched.trans (first : a.Untouched a') (second : a'.Untouched a'') : a.Untouched a'' := by
  obtain ⟨data, rfl, length, below⟩ := first
  obtain ⟨data', rfl, length', below'⟩ := second
  exact ⟨data', rfl, length'.trans length, below'.trans below⟩

theorem Untouched.usable (untouched : a.Untouched a') (usable : a.Usable) : a'.Usable := by
  obtain ⟨data, rfl, length, -⟩ := untouched
  have capacity : ({ a with data } : Arena).capacity = a.capacity := length
  obtain ⟨inside, addressable, countable⟩ := usable
  exact ⟨by rw [capacity]; exact inside, by rw [capacity]; exact addressable, countable⟩

theorem untouched_of_splice {start : Nat} (above : a.offset ≤ start)
    (fits : start + kept.length ≤ a.capacity) :
    a.Untouched { a with data := Buffer.splice a.data start kept } := by
  refine ⟨_, rfl, Buffer.length_splice fits, ?_⟩
  exact @Buffer.window_splice_apart a.data kept start 0 a.offset fits (Or.inl (by omega))

theorem Usable.padding (usable : a.Usable) : ∃ padding, a.padding minAlignment = .ok padding := by
  obtain ⟨inside, addressable, -⟩ := usable
  have positive : 0 < minAlignment := by decide
  have below := alignUp_lt (a.address + a.offset) positive
  exact ⟨_, padding_eq_ok_iff.mpr ⟨by omega, rfl⟩⟩

/-- What staging does inside its region. -/
def stash (kept : List UInt8) : ArenaM (Except AllocError (List UInt8)) := do
  match ← alloc kept.length 1 with
  | .ok block =>
    writeBytes block 0 kept
    let staged ← get
    return .ok (← orFault (staged.bytes block))
  | .error refusal => return .error refusal

/-- Bytes are stored in the first place there is and read back, if they fit. -/
theorem stash_cases {padding : Nat} (inside : a.offset ≤ a.capacity) (word : a.capacity < wordLimit)
    (skipped : a.padding minAlignment = .ok padding) :
    (¬(padding + kept.length < wordLimit ∧ padding + kept.length ≤ a.remaining) ∧
      stash kept a = .ok (.error (.outOfMemory kept.length a.remaining)) a) ∨
    (padding + kept.length ≤ a.remaining ∧
      stash kept a = .ok (.ok kept) (a.handOut (a.offset + padding) kept)) := by
  rcases alloc_cases a kept.length 1 with ⟨odd, -⟩ | ⟨fault, -, overflows, -⟩ |
    ⟨found, -, found_eq, full, refused⟩ | ⟨found, -, found_eq, -, room, handed⟩
  · exact absurd odd (by decide)
  · cases skipped.symm.trans overflows
  · left
    cases skipped.symm.trans found_eq
    unfold stash
    exact ⟨full, run_bind_ok refused⟩
  · right
    cases skipped.symm.trans found_eq
    refine ⟨room, ?_⟩
    have fits : a.offset + padding + kept.length ≤ a.capacity := by
      unfold remaining at room
      omega
    have written := writeBytes_handOut word fits
    have read := bytes_handOut_self word fits
    unfold stash
    rw [run_bind_ok handed]
    dsimp only
    rw [run_bind_ok written, run_get_bind, run_orFault_ok read]
    rfl

/-- The region is closed again, over bytes that are not in use. -/
theorem inRegion_stash_cases (usable : a.Usable) (kept : List UInt8) :
    ∃ padding, a.padding minAlignment = .ok padding ∧
      ((¬(padding + kept.length < wordLimit ∧ padding + kept.length ≤ a.remaining) ∧
        inRegion (fun _ => stash kept) a =
          .ok (.error (.outOfMemory kept.length a.remaining)) a) ∨
      (a.offset + padding + kept.length ≤ a.capacity ∧
        inRegion (fun _ => stash kept) a =
          .ok (.ok kept) { a with
            data := Buffer.splice a.data (a.offset + padding) kept })) := by
  obtain ⟨padding, skipped⟩ := usable.padding
  obtain ⟨inside, addressable, countable⟩ := usable
  have word : a.capacity < wordLimit := by
    unfold minAlignment at addressable
    omega
  refine ⟨padding, skipped, ?_⟩
  have stashes := @stash_cases { a with last? := none, regions := a.regions + 1 } kept padding
    inside word skipped
  rcases stashes with ⟨full, refused⟩ | ⟨room, stored⟩
  · left
    have ran := @inRegion_run _ a _ (fun _ => stash kept) _ countable refused rfl (Nat.le_refl _)
    exact ⟨full, ran⟩
  · right
    have room : padding + kept.length ≤ a.capacity - a.offset := room
    have above : a.offset ≤ a.offset + padding + kept.length := by omega
    have ran := @inRegion_run _ a _ (fun _ => stash kept) _ countable stored rfl above
    exact ⟨by omega, ran⟩

end Memory.Arena

namespace Lexer

open Memory (Arena)
open Memory.Arena (Usable Untouched)

/-- What a computation on a lexer comes to that does nothing but use the scratch arena, leaves it
untouched, and faults only over one that is not usable. -/
def Settles {α : Type} (l : Lexer) (good : α → Prop) : EStateM.Result Fault Lexer α → Prop
  | .ok v l' =>
    good v ∧ ∃ scratch, l' = { l with scratch } ∧ (l.scratch.Usable → l.scratch.Untouched scratch)
  | .error _ l' => ¬l.scratch.Usable ∧ ∃ scratch, l' = { l with scratch }

variable {α β : Type} {l : Lexer} {good : α → Prop} {better : β → Prop} {v : α}

theorem settles_ok (holds : good v) : l.Settles good (.ok v l) :=
  ⟨holds, l.scratch, rfl, fun _ => .refl _⟩

theorem Settles.bind {m : LexerM α} {f : α → LexerM β} (first : l.Settles good (m l))
    (second : ∀ v scratch, good v →
      Settles { l with scratch } better (f v { l with scratch })) :
    l.Settles better ((m >>= f) l) := by
  cases ran : m l with
  | error fault l' =>
    rw [ran] at first
    rw [run_bind_error ran]
    exact first
  | ok v l' =>
    rw [ran] at first
    obtain ⟨holds, scratch, rfl, kept⟩ := first
    have goes_on := second v scratch holds
    rw [run_bind_ok ran]
    cases came : f v { l with scratch } with
    | error fault l' =>
      rw [came] at goes_on
      obtain ⟨unusable, last, rfl⟩ := goes_on
      exact ⟨fun usable => unusable ((kept usable).usable usable), last, rfl⟩
    | ok v l' =>
      rw [came] at goes_on
      obtain ⟨holds, last, rfl, still⟩ := goes_on
      exact ⟨holds, last, rfl, fun usable =>
        (kept usable).trans (still ((kept usable).usable usable))⟩

/-- Over an arena that is not usable anything may come of staging. -/
theorem onScratch_settles {action : Memory.ArenaM α}
    (runs : l.scratch.Usable → ∃ v after,
      action l.scratch = .ok v after ∧ l.scratch.Untouched after) :
    l.Settles (fun _ => True) (onScratch action l) := by
  unfold onScratch
  by_cases usable : l.scratch.Usable
  · obtain ⟨v, after, ran, untouched⟩ := runs usable
    rw [ran]
    exact ⟨trivial, after, rfl, fun _ => untouched⟩
  · cases action l.scratch with
    | error fault after => exact ⟨usable, after, rfl⟩
    | ok v after => exact ⟨trivial, after, rfl, fun now => absurd now usable⟩

theorem stage_settles (digits : List UInt8) : l.Settles (fun _ => True) (stage digits l) := by
  unfold stage
  by_cases separated : separator ∈ digits
  · rw [if_pos separated]
    refine onScratch_settles fun usable => ?_
    obtain ⟨padding, -, ⟨-, refused⟩ | ⟨fits, stored⟩⟩ :=
      Arena.inRegion_stash_cases usable (digits.filter (· != separator))
    · exact ⟨_, _, refused, .refl _⟩
    · exact ⟨_, _, stored, Arena.untouched_of_splice (Nat.le_add_right _ _) fits⟩
  · rw [if_neg separated]
    exact settles_ok trivial

end Lexer

end FrontEnd
