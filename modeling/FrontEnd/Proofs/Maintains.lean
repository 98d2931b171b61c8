import FrontEnd.Proofs.Memory.Operations

/-!
# Invariants of computations that fault

`Maintains inv good x` says of a computation that it keeps `inv` up, also where it faults, and that
what it answers is `good`. The rules take a computation apart at its binds.
-/

namespace FrontEnd

section

variable {σ α β : Type} {inv : σ → Prop} {good : α → Prop} {better : β → Prop} {s : σ}
  {x : EStateM Fault σ α} {f : α → EStateM Fault σ β}

/-- The state that a computation has left, whether it has faulted or not. -/
def stateAfter : EStateM.Result Fault σ α → σ
  | .ok _ s => s
  | .error _ s => s

/-- A state with the invariant, and an answer, if there is one, that is good. -/
def Sustained (inv : σ → Prop) (good : α → Prop) : EStateM.Result Fault σ α → Prop
  | .ok v s => good v ∧ inv s
  | .error _ s => inv s

theorem Sustained.mono {result : EStateM.Result Fault σ α} {fine : α → Prop}
    (h : Sustained inv good result) (implies : ∀ v, good v → fine v) : Sustained inv fine result := by
  cases result with
  | ok v s => exact ⟨implies v h.1, h.2⟩
  | error fault s => exact h

theorem Sustained.weaken {result : EStateM.Result Fault σ α} {kept : σ → Prop}
    (h : Sustained inv good result) (implies : ∀ s, inv s → kept s) : Sustained kept good result := by
  cases result with
  | ok v s => exact ⟨h.1, implies s h.2⟩
  | error fault s => exact implies s h

/-- Keeps an invariant up and answers well. -/
def Maintains (inv : σ → Prop) (good : α → Prop) (x : EStateM Fault σ α) : Prop :=
  ∀ s, inv s → Sustained inv good (x s)

theorem Maintains.stateAfter (h : Maintains inv good x) (holds : inv s) :
    inv (stateAfter (x s)) := by
  have sustained := h s holds
  cases came : x s with
  | ok v s' =>
    rw [came] at sustained
    exact sustained.2
  | error fault s' =>
    rw [came] at sustained
    exact sustained

theorem Maintains.bind (first : Maintains inv good x)
    (second : ∀ v, good v → Maintains inv better (f v)) : Maintains inv better (x >>= f) := by
  intro s holds
  have sustained := first s holds
  cases came : x s with
  | ok v s' =>
    rw [came] at sustained
    rw [run_bind_ok came]
    exact second v sustained.1 s' sustained.2
  | error fault s' =>
    rw [came] at sustained
    rw [run_bind_error came]
    exact sustained

theorem maintains_pure {v : α} (answers : good v) : Maintains inv good (pure v) :=
  fun _ holds => ⟨answers, holds⟩

theorem maintains_orFault {read : Except Fault α} :
    Maintains inv (fun v => read = .ok v) (orFault read) := by
  intro s holds
  cases read with
  | error fault => exact holds
  | ok v => exact ⟨rfl, holds⟩

theorem maintains_get : Maintains inv inv get := fun _ holds => ⟨holds, holds⟩

theorem maintains_set (holds : inv s) : Maintains inv (fun _ => True) (set s) :=
  fun _ _ => ⟨trivial, holds⟩

theorem maintains_modify {g : σ → σ} (keeps : ∀ s, inv s → inv (g s)) :
    Maintains inv (fun _ => True) (modify g : EStateM Fault σ PUnit) :=
  fun s holds => ⟨trivial, keeps s holds⟩

end

end FrontEnd
