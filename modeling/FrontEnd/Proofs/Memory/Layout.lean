import FrontEnd.Proofs.Memory.Heap

/-!
# How live blocks lie

The live blocks of a region lie in the order of their age, at or above its checkpoint, and so do
those of the regions around it below the checkpoint. `Layered` says this of all open regions at
once, together with what the last block of the arena, and of each checkpoint, can be.
-/

namespace FrontEnd.Memory

/-- Blocks that share no byte. -/
def Block.Disjoint (b c : Block) : Prop := b.finish ≤ c.offset ∨ c.finish ≤ b.offset

instance : Std.Symm fun k l : Live => k.block.Disjoint l.block := ⟨fun _ _ => Or.symm⟩

/-- The live blocks of one region, the newest first, where an arena is in use from `floor` up to
`offset`. Only the newest can be the last block; any other ends where that starts, or before. -/
structure Settled (floor offset : Nat) (last? : Option Nat) (scope : List Live) : Prop where
  between : ∀ l ∈ scope, floor ≤ l.block.offset ∧ l.block.finish ≤ offset
  ordered : scope.Pairwise fun newer older => older.block.finish ≤ newer.block.offset
  last : ∀ start, last? = some start → ∀ l ∈ scope, l.block.finish ≤ start ∨
    scope.head? = some l ∧ l.block.offset = start ∧ l.block.finish = offset

/-- The live blocks of each open region are settled from its checkpoint up to where the next region
in starts. -/
def Layered (offset : Nat) (last? : Option Nat) (scope : List Live) :
    List Checkpoint → List (List Live) → Prop
  | [], [] => Settled 0 offset last? scope
  | guard :: guards, around :: outer =>
    Settled guard.offset offset last? scope ∧ Layered guard.offset guard.last? around guards outer
  | _, _ => False

variable {floor offset offset' : Nat} {last? last?' : Option Nat} {scope scope' : List Live}
  {guards : List Checkpoint} {outer : List (List Live)} {l : Live}

/-! ### One region -/

theorem settled_nil (floor offset : Nat) (last? : Option Nat) : Settled floor offset last? [] :=
  ⟨by simp, .nil, by simp⟩

theorem Settled.without_last (h : Settled floor offset last? scope) :
    Settled floor offset none scope :=
  ⟨h.between, h.ordered, by simp⟩

theorem Settled.filter (h : Settled floor offset last? scope) (keep : Live → Bool) :
    Settled floor offset last? (scope.filter keep) := by
  refine ⟨fun l kept => h.between l (List.mem_filter.mp kept).1, h.ordered.filter keep, ?_⟩
  intro start last l kept
  obtain ⟨member, keeps⟩ := List.mem_filter.mp kept
  rcases h.last start last l member with before | ⟨newest, is_last⟩
  · exact Or.inl before
  · right
    obtain ⟨rest, rfl⟩ := List.head?_eq_some_iff.mp newest
    rw [List.filter_cons_of_pos keeps]
    exact ⟨rfl, is_last⟩

theorem Settled.push (h : Settled floor offset last? scope) (low : floor ≤ l.block.offset)
    (above : offset ≤ l.block.offset) :
    Settled floor l.block.finish (some l.block.offset) (l :: scope) := by
  have after : ∀ older ∈ scope, older.block.finish ≤ l.block.offset := by
    intro older member
    exact Nat.le_trans (h.between older member).2 above
  have ends : l.block.offset ≤ l.block.finish := Nat.le_add_right _ _
  refine ⟨?_, List.pairwise_cons.mpr ⟨after, h.ordered⟩, ?_⟩
  · intro k member
    rcases List.mem_cons.mp member with rfl | older
    · exact ⟨low, Nat.le_refl _⟩
    · exact ⟨(h.between k older).1, Nat.le_trans (after k older) ends⟩
  · rintro start ⟨⟩ k member
    rcases List.mem_cons.mp member with rfl | older
    · exact Or.inr ⟨rfl, rfl, rfl⟩
    · exact Or.inl (after k older)

theorem Settled.older (h : Settled floor offset last? (l :: scope)) :
    Settled floor l.block.offset none scope := by
  obtain ⟨after, ordered⟩ := List.pairwise_cons.mp h.ordered
  refine ⟨fun k older => ⟨?_, after k older⟩, ordered, by simp⟩
  exact (h.between k (List.mem_cons_of_mem l older)).1

/-! ### All regions -/

theorem Layered.settled (h : Layered offset last? scope guards outer) :
    Settled (Session.floor 0 guards) offset last? scope := by
  match guards, outer, h with
  | [], [], h => exact h
  | guard :: guards, around :: outer, h => exact h.1

theorem Layered.change (h : Layered offset last? scope guards outer)
    (settled : Settled (Session.floor 0 guards) offset' last?' scope') :
    Layered offset' last?' scope' guards outer := by
  match guards, outer, h with
  | [], [], h => exact settled
  | guard :: guards, around :: outer, h => exact ⟨settled, h.2⟩

theorem Layered.filter (h : Layered offset last? scope guards outer) (keep : Live → Bool) :
    Layered offset last? (scope.filter keep) guards (outer.map fun scope => scope.filter keep) := by
  induction guards generalizing offset last? scope outer with
  | nil =>
    match outer, h with
    | [], h => exact Settled.filter h keep
  | cons guard guards ih =>
    match outer, h with
    | around :: outer, h => exact ⟨h.1.filter keep, ih h.2⟩

/-- The blocks of outer regions end below the checkpoint. -/
theorem Layered.outer_le (h : Layered offset last? scope guards outer)
    (stacked : Session.Stacked 0 offset last? guards) :
    ∀ l ∈ outer.flatten, l.block.finish ≤ Session.floor 0 guards := by
  induction guards generalizing offset last? scope outer with
  | nil =>
    match outer, h with
    | [], h => simp
  | cons guard guards ih =>
    match outer, h with
    | around :: outer, h =>
      intro l member
      rw [List.flatten_cons, List.mem_append] at member
      -- checkpoints only get lower on the way out
      rcases member with next | further
      · exact (h.2.settled.between l next).2
      · exact Nat.le_trans (ih h.2 stacked.2 l further) stacked.2.frame.1

theorem Layered.ordered (h : Layered offset last? scope guards outer)
    (stacked : Session.Stacked 0 offset last? guards) :
    (scope ++ outer.flatten).Pairwise fun newer older =>
      older.block.finish ≤ newer.block.offset := by
  induction guards generalizing offset last? scope outer with
  | nil =>
    match outer, h with
    | [], h =>
      rw [List.flatten_nil, List.append_nil]
      exact Settled.ordered h
  | cons guard guards ih =>
    have below := h.outer_le stacked
    match outer, h with
    | around :: outer, h =>
      refine List.pairwise_append.mpr ⟨h.1.ordered, ih h.2 stacked.2, ?_⟩
      intro newer inner older outside
      exact Nat.le_trans (below older outside) (h.1.between newer inner).1

theorem Layered.finish_le (h : Layered offset last? scope guards outer)
    (stacked : Session.Stacked 0 offset last? guards) :
    ∀ l ∈ scope ++ outer.flatten, l.block.finish ≤ offset := by
  intro l member
  rcases List.mem_append.mp member with inner | outside
  · exact (h.settled.between l inner).2
  · exact Nat.le_trans (h.outer_le stacked l outside) stacked.frame.1

/-- A live block that starts where the last block does is the newest of the innermost region, or it
is empty. -/
theorem Layered.newest_of_last (h : Layered offset last? scope guards outer)
    (stacked : Session.Stacked 0 offset last? guards) (live : l ∈ scope ++ outer.flatten)
    (last : last? = some l.block.offset) : scope.head? = some l ∨ l.block.len = 0 := by
  have empty_of_before : l.block.finish ≤ l.block.offset → l.block.len = 0 := by
    unfold Block.finish
    omega
  rcases List.mem_append.mp live with inner | outside
  · rcases h.settled.last _ last l inner with before | ⟨newest, -, -⟩
    · exact Or.inr (empty_of_before before)
    · exact Or.inl newest
  · right
    have low := (stacked.frame.2 _ last).1
    exact empty_of_before (Nat.le_trans (h.outer_le stacked l outside) low)

end FrontEnd.Memory
