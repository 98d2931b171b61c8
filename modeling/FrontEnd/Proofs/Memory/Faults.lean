import FrontEnd.Proofs.Memory.Operations

/-!
# What faults leave behind

A block whose check faults stops every use of it (`Arena.StopsAt`). Whatever the reason that an
operation faults for, the arena is as it was (`Arena.Spared`), as long as a block that is moved has
been checked for what it is (`Arena.spared_realloc`).
-/

namespace FrontEnd.Memory.Arena

/-- Every use of a block comes to one fault and changes nothing. -/
structure StopsAt [Build] (a : Arena) (b : Block) (fault : Fault) : Prop where
  check : a.checkOwned b = .error fault
  bytes : a.bytes b = .error fault
  modify : ∀ f, modifyBytes b f a = .error fault a
  resize : ∀ size, resize? b size a = .error fault a
  realloc : ∀ size align, realloc b size align a = .error fault a

/-- A computation leaves the arena alone if it faults over it. -/
def Spared {α : Type} (a : Arena) (x : ArenaM α) : Prop :=
  ∀ fault a', x a = .error fault a' → a' = a

variable {a : Arena} {b : Block} {fault : Fault}

/-! ### Blocks that cannot be used -/

theorem stopsAt_of_check [Build] (check : a.checkOwned b = .error fault) : a.StopsAt b fault where
  check := check
  bytes := bytes_of_foreign check
  modify := fun _ => modifyBytes_of_fault (by rw [bytes_of_foreign check]; rfl)
  resize := fun size => resize_of_foreign size check
  realloc := fun size align => realloc_of_foreign size align check

theorem checkOwned_of_foreign [Build] (foreign : b.owner ≠ a.id) :
    a.checkOwned b = .error (.foreignBlock b.owner a.id) := if_pos foreign

/-! ### What is spared -/

section

variable {α : Type} {x : ArenaM α}

theorem spared_of_error (failed : x a = .error fault a) : a.Spared x := by
  intro fault' a' came
  cases failed.symm.trans came
  rfl

theorem spared_of_ok {v : α} {a' : Arena} (ran : x a = .ok v a') : a.Spared x := by
  intro fault a'' came
  cases ran.symm.trans came

theorem spared_orFault (made : Except Fault α) : a.Spared (orFault made) := by
  cases made with
  | error fault => exact spared_of_error rfl
  | ok v => exact spared_of_ok rfl

end

theorem spared_alloc [Build] (size align : Nat) : a.Spared (alloc size align) := by
  rcases alloc_cases a size align with ⟨-, failed⟩ | ⟨fault, -, -, failed⟩ |
    ⟨-, -, -, -, refused⟩ | ⟨padding, -, -, -, -, handed⟩
  · exact spared_of_error failed
  · exact spared_of_error failed
  · exact spared_of_ok refused
  · exact spared_of_ok handed

theorem spared_resize? [Build] (b : Block) (size : Nat) : a.Spared (resize? b size) := by
  rcases resize?_cases a b size with ⟨fault, -, failed⟩ | ⟨-, -, declined⟩ | ⟨-, -, -, resized⟩
  · exact spared_of_error failed
  · exact spared_of_ok declined
  · exact spared_of_ok resized

/-- Once a block has been handed out to move to, nothing is left that could fault. -/
theorem spared_realloc [Build] (judges : a.Judges b) (inside : a.offset ≤ a.capacity)
    (size align : Nat) : a.Spared (realloc b size align) := by
  rcases realloc_cases judges inside size align with ⟨fault, -, failed⟩ | refused |
    ⟨-, -, -, resized⟩ | ⟨-, -, padding, content, -, -, -, -, -, -, moved⟩
  · exact spared_of_error failed
  · exact spared_of_ok refused
  · exact spared_of_ok resized
  · exact spared_of_ok moved

theorem spared_modifyBytes [Build] (b : Block) (f : List UInt8 → Except Fault (List UInt8)) :
    a.Spared (modifyBytes b f) := by
  cases made : a.bytes b >>= f with
  | error fault => exact spared_of_error (modifyBytes_of_fault made)
  | ok new =>
    apply spared_of_ok
    unfold modifyBytes
    rw [run_get_bind]
    exact run_orFault_ok made

theorem spared_freeAll : a.Spared freeAll := by
  rcases freeAll_cases a with ⟨fault, -, failed⟩ | ⟨-, emptied⟩
  · exact spared_of_error failed
  · exact spared_of_ok emptied

theorem spared_relocate (spare : UInt32) : a.Spared (relocate spare) := by
  rcases relocate_cases a spare with ⟨fault, failed⟩ | ⟨-, moved⟩
  · exact spared_of_error failed
  · exact spared_of_ok moved

end FrontEnd.Memory.Arena
