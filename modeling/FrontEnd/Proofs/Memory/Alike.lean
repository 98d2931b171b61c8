import FrontEnd.Proofs.Memory.Operations

/-!
# Arenas that are alike

Arenas can differ in their contents and in nothing else. Whatever is decided by the rest is the same
over both.
-/

namespace FrontEnd.Memory.Arena

/-- The same arena, but for its contents. -/
def Alike (a a' : Arena) : Prop := ∃ data, a' = { a with data } ∧ data.length = a.data.length

variable {a a' a'' : Arena}

theorem Alike.refl (a : Arena) : a.Alike a := ⟨a.data, rfl, rfl⟩

theorem Alike.trans (first : a.Alike a') (second : a'.Alike a'') : a.Alike a'' := by
  obtain ⟨data, rfl, length⟩ := first
  obtain ⟨data', rfl, length'⟩ := second
  exact ⟨data', rfl, length'.trans length⟩

theorem Alike.capacity (alike : a.Alike a') : a'.capacity = a.capacity := by
  obtain ⟨data, rfl, length⟩ := alike
  exact length

theorem Alike.id (alike : a.Alike a') : a'.id = a.id := by
  obtain ⟨data, rfl, -⟩ := alike
  rfl

theorem Alike.offset (alike : a.Alike a') : a'.offset = a.offset := by
  obtain ⟨data, rfl, -⟩ := alike
  rfl

theorem Alike.padding (alike : a.Alike a') (align : Nat) : a'.padding align = a.padding align := by
  obtain ⟨data, rfl, -⟩ := alike
  rfl

theorem Alike.checkOwned (alike : a.Alike a') (block : Block) :
    a'.checkOwned block = a.checkOwned block := by
  have capacity := alike.capacity
  obtain ⟨data, rfl, -⟩ := alike
  unfold Arena.checkOwned
  rw [capacity]

theorem Alike.splice (alike : a.Alike a') (start : Nat) (new : List UInt8) :
    Alike { a with data := Buffer.splice a.data start new }
      { a' with data := Buffer.splice a'.data start new } := by
  obtain ⟨data, rfl, length⟩ := alike
  refine ⟨_, rfl, ?_⟩
  simp [Buffer.splice, length]

end FrontEnd.Memory.Arena
