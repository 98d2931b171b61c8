import FrontEnd.Proofs.Lexer.Scratch

/-!
# After a fault

Staging that faults leaves its region open, and whatever it stumbled over stays in the way
(`spent_of_fault`): in an arena that is spent nothing is staged again. A token that is still read over
it needs no staging, and reads the same over any other arena (`reading_of_spent`).
-/

namespace FrontEnd

namespace Memory.Arena

/-- An arena that cannot store anything: it cannot count another region, its end cannot be aligned to
a machine word, or it ends outside its buffer. -/
inductive Spent (a : Arena) : Prop where
  | uncountable (full : UInt32.size ≤ a.regions.toNat + 1)
  | unaligned (fault : Fault) (overflows : a.padding minAlignment = .error fault)
  | outside (past : a.capacity < a.offset)

variable {a a' : Arena} {kept text : List UInt8} {fault : Fault}

theorem Spent.of_alike (spent : a.Spent) (alike : a.Alike a') : a'.Spent := by
  cases spent with
  | uncountable full =>
    obtain ⟨data, rfl, -⟩ := alike
    exact .uncountable full
  | unaligned fault overflows =>
    apply Spent.unaligned fault
    rw [alike.padding, overflows]
  | outside past =>
    apply Spent.outside
    rw [alike.capacity, alike.offset]
    exact past

/-- A block that has just been handed out is the arena's own, so that only its end can be amiss. -/
theorem spent_of_foreign {start len : Nat} {content : List UInt8} (filled : content.length = len)
    (foreign : (a.handOut start content).checkOwned ⟨a.id, start, len⟩ = .error fault) :
    (a.handOut start content).Spent := by
  subst filled
  rcases Nat.lt_or_ge (start + content.length) wordLimit with addressed | far
  · rcases Nat.lt_or_ge (a.handOut start content).capacity (start + content.length) with past | fits
    · exact .outside past
    · cases foreign.symm.trans (checkOwned_eq_ok_iff.mpr ⟨rfl, addressed, fits⟩)
  · have overflows : word (a.address + (start + content.length)) = .error .wordOverflow :=
      if_neg (by omega)
    apply Spent.unaligned .wordOverflow
    unfold Arena.padding
    show (word (a.address + (start + content.length)) >>= _) = _
    rw [overflows]
    rfl

theorem spent_of_stash (failed : stash kept a = .error fault a') : a'.Spent := by
  obtain ⟨fault, overflows, came⟩ | came | ⟨padding, -, -, came⟩ := stash_run kept a
  · cases came.symm.trans failed
    exact .unaligned fault overflows
  · cases came.symm.trans failed
  · -- the block has been handed out by then, and lies outside the buffer or past the last word
    have failed := came.symm.trans failed
    obtain ⟨fault, foreign, stays⟩ | ⟨-, stored⟩ := @writeRead_cases
      ⟨a.id, a.offset + padding, kept.length⟩ kept rfl
      (a.handOut (a.offset + padding) (List.replicate kept.length 0))
    · cases stays.symm.trans failed
      exact spent_of_foreign List.length_replicate foreign
    · cases stored.symm.trans failed

theorem spent_of_fault (failed : inRegion (fun _ => stash kept) a = .error fault a') :
    a'.Spent := by
  obtain ⟨full, stops⟩ | ⟨countable, opens⟩ := openRegion_cases a
  · cases (run_bind_error stops).symm.trans failed
    exact .uncountable full
  · have inside := (run_bind_ok opens).symm.trans failed
    cases ran : stash kept { a with last? := none, regions := a.regions + 1 } with
    | error fault left =>
      cases (run_bind_error ran).symm.trans inside
      exact spent_of_stash ran
    | ok answer left =>
      obtain ⟨_, closed, -⟩ := inRegion_stash countable ran
      cases closed.symm.trans failed

theorem Spent.not_staged (spent : a.Spent) :
    inRegion (fun _ => stash kept) a ≠ .ok (.ok text) a' := by
  intro ran
  obtain ⟨countable, left, stored⟩ := exists_of_inRegion ran
  obtain ⟨fault, -, came⟩ | came | ⟨padding, found, room, came⟩ :=
    stash_run kept { a with last? := none, regions := a.regions + 1 }
  · cases came.symm.trans stored
  · cases came.symm.trans stored
  · have stored := came.symm.trans stored
    obtain ⟨fault, -, failed⟩ | ⟨owned, -⟩ := @writeRead_cases
      ⟨a.id, a.offset + padding, kept.length⟩ kept rfl
      (handOut { a with last? := none, regions := a.regions + 1 } (a.offset + padding)
        (List.replicate kept.length 0))
    · cases failed.symm.trans stored
    · obtain ⟨-, -, inside⟩ := checkOwned_eq_ok_iff.mp owned
      rw [capacity_handOut (by rw [List.length_replicate]; exact room)] at inside
      have within : a.offset + padding + kept.length ≤ a.capacity := inside
      cases spent with
      | uncountable full => omega
      | unaligned fault overflows => cases overflows.symm.trans found
      | outside past => omega

end Memory.Arena

namespace Lexer

open Memory (AllocError Arena)

variable {a : Arena} {bytes digits text : List UInt8} {found : TokenKind × TokenValue}

theorem staged_leaves (a : Arena) (digits : List UInt8) :
    a.Alike (staged a digits).2 ∨ (staged a digits).2.Spent := by
  cases came : (staged a digits).1 with
  | ok answer => exact Or.inl (staged_keeps came).2
  | error fault => exact Or.inr (Arena.spent_of_fault (staged_eq_error came))

theorem staged_of_spent (spent : a.Spent) (came : (staged a digits).1 = .ok (.ok text))
    (b : Arena) : (staged b digits).1 = .ok (.ok text) := by
  by_cases separated : separator ∈ digits
  · exact absurd (staged_eq_ok separated came) spent.not_staged
  · rw [staged_plain separated] at came ⊢
    exact came

/-- Whatever is read, it leaves an arena that is alike or spent. -/
theorem reading_leaves (a : Arena) (bytes : List UInt8) :
    a.Alike (reading a bytes).2 ∨ (reading a bytes).2.Spent := by
  obtain ⟨n, numeral⟩ | ⟨r, other⟩ := reading_cases bytes
  · rw [numeral]
    exact staged_leaves a _
  · rw [other]
    exact Or.inl (.refl a)

theorem reading_of_spent (spent : a.Spent) (read : (reading a bytes).1 = .ok (.ok found))
    (b : Arena) : (reading b bytes).1 = .ok (.ok found) := by
  obtain ⟨n, numeral⟩ | ⟨r, other⟩ := reading_cases bytes
  · rw [numeral] at read ⊢
    obtain ⟨answer, came, finished⟩ := Numeral.readIn_eq_ok_iff.mp read
    cases answer with
    | error refusal => cases finished
    | ok text => exact Numeral.readIn_eq_ok_iff.mpr ⟨_, staged_of_spent spent came b, finished⟩
  · rw [other] at read ⊢
    exact read

end Lexer

end FrontEnd
