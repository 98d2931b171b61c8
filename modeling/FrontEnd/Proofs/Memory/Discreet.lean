import FrontEnd.Memory.Cell
import FrontEnd.Proofs.Memory.Alike

/-!
# What an operation shows of the contents

Two arenas that are alike may hold the same bytes in some places and not in others. `Discreet` says
of a computation that it comes to the same over both, as long as all it looks at are places of the
first kind, and which places it adds to them: those of a block that it has just cleared. The rules
take a computation apart at its binds.
-/

namespace FrontEnd.Memory

/-- Whether a block lies over the byte `i` of the buffer. -/
def Block.Covers (b : Block) (i : Nat) : Prop := b.offset ≤ i ∧ i < b.finish

namespace Arena

/-- Arenas that are alike and hold the same bytes where they are shown. -/
structure Shares (shown : Nat → Prop) (a a' : Arena) : Prop where
  alike : a.Alike a'
  same : ∀ i, shown i → a'.data[i]? = a.data[i]?

/-- The same answer or fault over two arenas. An answer adds places in which they are the same. -/
inductive Shows {α : Type} (shown : Nat → Prop) (reveals : α → Nat → Prop) :
    EStateM.Result Fault Arena α → EStateM.Result Fault Arena α → Prop where
  | ok {a a' : Arena} (v : α) (shares : Shares (fun i => shown i ∨ reveals v i) a a') :
    Shows shown reveals (.ok v a) (.ok v a')
  | error {a a' : Arena} (fault : Fault) (shares : Shares shown a a') :
    Shows shown reveals (.error fault a) (.error fault a')

/-- A computation that comes to the same over arenas that share what is shown. -/
def Discreet {α : Type} (shown : Nat → Prop) (reveals : α → Nat → Prop) (x : ArenaM α) : Prop :=
  ∀ a a', Shares shown a a' → Shows shown reveals (x a) (x a')

/-- Looks at an arena without changing it. -/
def inspect {α : Type} (read : Arena → Except Fault α) : ArenaM α := do
  let a ← get
  orFault (read a)

/-- An answer that shows nothing new. -/
def Nothing {α : Type} : α → Nat → Prop := fun _ _ => False

/-- An answer that shows the block in it. -/
def Handed : Except AllocError Block → Nat → Prop
  | .ok b, i => b.Covers i
  | .error _, _ => False

variable {α β : Type} {a a' : Arena} {b : Block} {shown more : Nat → Prop} {start stop size : Nat}
  {reveals : α → Nat → Prop} {later : β → Nat → Prop} {x : ArenaM α} {f : α → ArenaM β}

/-! ### Sharing -/

theorem Shares.weaken (h : Shares more a a') (fewer : ∀ i, shown i → more i) : Shares shown a a' :=
  ⟨h.alike, fun i known => h.same i (fewer i known)⟩

theorem or_nothing (v : α) : (fun i => shown i ∨ Nothing v i) = shown :=
  funext fun _ => or_false _

theorem Shares.nothing (h : Shares shown a a') (v : α) :
    Shares (fun i => shown i ∨ Nothing v i) a a' := by
  rwa [or_nothing]

theorem Shares.window (h : Shares shown a a') {len : Nat}
    (known : ∀ i, start ≤ i → i < start + len → shown i) :
    Buffer.window a'.data start len = Buffer.window a.data start len := by
  apply List.ext_getElem?
  intro i
  rw [Buffer.getElem?_window, Buffer.getElem?_window]
  split
  · exact h.same _ (known _ (Nat.le_add_right _ _) (by omega))
  · rfl

theorem Shares.bytes (h : Shares shown a a') (known : ∀ i, b.Covers i → shown i) :
    a'.bytes b = a.bytes b :=
  bytes_congr h.alike.id h.alike.capacity (h.window fun i low high => known i ⟨low, high⟩)

/-- What is put over both is the same in both. -/
theorem Shares.splice (h : Shares shown a a') (start : Nat) (new : List UInt8) :
    Shares (fun i => shown i ∨ start ≤ i ∧ i < start + new.length)
      { a with data := Buffer.splice a.data start new }
      { a' with data := Buffer.splice a'.data start new } := by
  refine ⟨h.alike.splice start new, fun i known => ?_⟩
  exact Buffer.getElem?_splice_congr h.alike.capacity (known.symm.imp_right (h.same i))

theorem Shares.splice_same (h : Shares shown a a') (start : Nat) (new : List UInt8) :
    Shares shown { a with data := Buffer.splice a.data start new }
      { a' with data := Buffer.splice a'.data start new } :=
  (h.splice start new).weaken fun _ => Or.inl

/-- A change that does not look at the contents. -/
theorem Shares.map (h : Shares shown a a') {g : Arena → Arena}
    (blind : ∀ (a : Arena) (data : List UInt8), g { a with data } = { g a with data })
    (keeps : ∀ a, (g a).data = a.data) : Shares shown (g a) (g a') := by
  obtain ⟨⟨data, rfl, length⟩, same⟩ := h
  refine ⟨⟨data, blind a data, by rw [keeps]; exact length⟩, fun i known => ?_⟩
  rw [keeps, keeps]
  exact same i known

/-! ### Rules -/

theorem discreet_pure {v : α} (known : ∀ i, reveals v i → shown i) :
    Discreet shown reveals (pure v) :=
  fun _ _ shares => .ok v (shares.weaken fun i either => either.elim (fun shown => shown) (known i))

theorem discreet_orFault {read : Except Fault α}
    (rest : ∀ v, read = .ok v → Discreet shown later (f v)) :
    Discreet shown later (orFault read >>= f) := by
  cases read with
  | error fault => exact fun _ _ shares => .error fault shares
  | ok v => exact rest v rfl

/-- What comes after need be discreet only for answers that there can be. -/
theorem Discreet.bind (first : Discreet shown reveals x)
    (second : ∀ a v b, x a = .ok v b → Discreet (fun i => shown i ∨ reveals v i) later (f v)) :
    Discreet shown later (x >>= f) := by
  intro a a' shares
  have same := first a a' shares
  cases came : x a with
  | error fault b =>
    rw [came] at same
    generalize came' : x a' = right at same
    cases same with
    | error _ shares =>
      rw [run_bind_error came, run_bind_error came']
      exact .error fault shares
  | ok v b =>
    rw [came] at same
    generalize came' : x a' = right at same
    cases same with
    | @ok _ b' _ shares =>
      rw [run_bind_ok came, run_bind_ok came']
      have rest := second a v b came b b' shares
      generalize f v b = left at rest ⊢
      generalize f v b' = right at rest ⊢
      cases rest with
      | ok w shares => exact .ok w (shares.weaken fun _ known => known.imp_left Or.inl)
      | error fault shares => exact .error fault (shares.weaken fun _ => Or.inl)

/-- What an answer adds may be put in other words for the answers that there can be. -/
theorem Discreet.tell {told : α → Nat → Prop} (h : Discreet shown reveals x)
    (known : ∀ a v b, x a = .ok v b → ∀ i, told v i → shown i ∨ reveals v i) :
    Discreet shown told x := by
  intro a a' shares
  have same := h a a' shares
  cases came : x a with
  | error fault b =>
    rw [came] at same
    generalize x a' = right at same ⊢
    cases same with
    | error _ shares => exact .error fault shares
  | ok v b =>
    rw [came] at same
    generalize x a' = right at same ⊢
    cases same with
    | ok _ shares => exact .ok v (shares.weaken fun i => Or.rec Or.inl (known a v b came i))

theorem Discreet.map {g : α → β} (h : Discreet shown reveals x)
    (known : ∀ v i, later (g v) i → shown i ∨ reveals v i) :
    Discreet shown later (do return g (← x)) :=
  h.bind fun _ v _ _ => discreet_pure (known v)

theorem discreet_inspect {read : Arena → Except Fault α}
    (same : ∀ a a', Shares shown a a' → read a' = read a) :
    Discreet shown Nothing (inspect read) := by
  intro a a' shares
  show Shows shown Nothing (orFault (read a) a) (orFault (read a') a')
  rw [same a a' shares]
  cases read a with
  | error fault => exact .error fault shares
  | ok v => exact .ok v (shares.nothing v)

/-! ### Bytes -/

theorem discreet_modifyBytes (known : ∀ i, b.Covers i → shown i)
    (change : List UInt8 → Except Fault (List UInt8)) :
    Discreet shown Nothing (modifyBytes b change) := by
  intro a a' shares
  unfold modifyBytes
  rw [run_get_bind, run_get_bind, shares.bytes known]
  cases a.bytes b >>= change with
  | error fault => exact .error fault shares
  | ok new => exact .ok () ((shares.splice_same b.offset new).nothing ())

theorem discreet_clear (start stop : Nat) :
    Discreet shown (fun _ i => start ≤ i ∧ i < stop) (clear start stop) := by
  intro a a' shares
  have length : a'.data.length = a.data.length := shares.alike.capacity
  unfold clear
  rw [run_get_bind, run_get_bind]
  unfold Buffer.slice
  rw [length]
  split
  · rename_i inside
    have cleared (data : List UInt8) (same : data.length = a.data.length) :
        ((data.drop start).take (stop - start)).length = stop - start := by
      rw [List.length_take, List.length_drop]
      omega
    refine .ok () ?_
    rw [cleared _ rfl, cleared _ length]
    refine (shares.splice start (List.replicate (stop - start) 0)).weaken fun i known => ?_
    refine known.imp_right fun ⟨low, high⟩ => ⟨low, ?_⟩
    rw [List.length_replicate]
    omega
  · exact .error _ shares

theorem discreet_copyWithin (known : ∀ i, start ≤ i → i < stop → shown i) (target : Nat) :
    Discreet shown Nothing (copyWithin start stop target) := by
  intro a a' shares
  have length : a'.data.length = a.data.length := shares.alike.capacity
  have piece : Buffer.slice a'.data start stop = Buffer.slice a.data start stop := by
    have same : Buffer.window a'.data start (stop - start) =
        Buffer.window a.data start (stop - start) :=
      shares.window fun i low high => known i low (by omega)
    unfold Buffer.slice
    unfold Buffer.window at same
    rw [length, same]
  unfold copyWithin
  rw [run_get_bind, run_get_bind, piece]
  cases Buffer.slice a.data start stop with
  | error fault => exact .error fault shares
  | ok new =>
    show Shows shown Nothing ((orFault (Buffer.overwrite a.data target new) >>= _) a)
      ((orFault (Buffer.overwrite a'.data target new) >>= _) a')
    unfold Buffer.overwrite
    rw [length]
    split
    · exact .ok () ((shares.splice_same target new).nothing ())
    · exact .error _ shares

/-! ### Blocks -/

theorem discreet_alloc (size align : Nat) : Discreet shown Handed (alloc size align) := by
  intro a a' shares
  have alike := shares.alike
  have remaining : a'.remaining = a.remaining := by
    unfold Arena.remaining
    rw [alike.capacity, alike.offset]
  unfold alloc
  rw [run_get_bind, run_get_bind, alike.padding, remaining, alike.offset, alike.id]
  split
  · cases a.padding (max align minAlignment) with
    | error fault => exact .error fault shares
    | ok padding =>
      rw [run_orFault_ok rfl, run_orFault_ok rfl]
      dsimp only
      split
      · refine .ok _ ?_
        have cleared := shares.splice (a.offset + padding) (List.replicate size 0)
        rw [List.length_replicate] at cleared
        obtain ⟨data, rfl, -⟩ := alike
        exact cleared.map (g := fun left => { left with
          offset := a.offset + padding + size
          last? := some (a.offset + padding) }) (fun _ _ => rfl) fun _ => rfl
      · exact .ok _ (shares.weaken fun _ known => known.resolve_right False.elim)
  · exact .error _ shares

theorem discreet_resize? (b : Block) (size : Nat) : Discreet shown Nothing (resize? b size) := by
  intro a a' shares
  have capacity := shares.alike.capacity
  have check := shares.alike.checkOwned b
  have last : a'.last? = a.last? := by
    obtain ⟨data, rfl, -⟩ := shares.alike
    rfl
  unfold resize?
  rw [run_get_bind, run_get_bind, check, last, capacity]
  cases a.checkOwned b with
  | error fault => exact .error fault shares
  | ok _ =>
    rw [run_orFault_ok rfl, run_orFault_ok rfl]
    split
    · have moved := shares.map (g := fun a => { a with offset := b.offset + size })
        (fun _ _ => rfl) fun _ => rfl
      obtain ⟨⟨data, rfl, -⟩, -⟩ := shares
      exact .ok _ (moved.nothing _)
    · exact .ok _ (shares.nothing _)

theorem resized_of_resize? {resized : Block} (ran : resize? b size a = .ok (some resized) a') :
    resized = { b with len := size } := by
  rcases resize?_cases a b size with ⟨fault, -, failed⟩ | ⟨-, -, declined⟩ | ⟨-, -, -, done⟩
  · cases failed.symm.trans ran
  · cases declined.symm.trans ran
  · cases done.symm.trans ran
    rfl

/-- A block that is cut down shows nothing new. -/
theorem discreet_resize?_of_le (known : ∀ i, b.Covers i → shown i) (shrinks : size ≤ b.len) :
    Discreet shown (fun resized? i => ∃ r, resized? = some r ∧ r.Covers i) (resize? b size) := by
  refine (discreet_resize? b size).tell ?_
  rintro a _ a' ran i ⟨r, rfl, low, high⟩
  obtain rfl := resized_of_resize? ran
  exact Or.inl (known i ⟨low, Nat.lt_of_lt_of_le high (Nat.add_le_add_left shrinks _)⟩)

/-- A block that grows where it lies is cleared from its end on, and one that moves takes its own
bytes along. -/
theorem discreet_realloc (known : ∀ i, b.Covers i → shown i) (size align : Nat) :
    Discreet shown Handed (realloc b size align) := by
  refine (discreet_resize? b size).bind fun a resized? a' ran => ?_
  cases resized? with
  | some resized =>
    obtain rfl := resized_of_resize? ran
    have kept {i : Nat} (covers : Block.Covers { b with len := size } i)
        (low : i < b.offset + b.len) : shown i := known i ⟨covers.1, low⟩
    dsimp only
    split
    · refine (discreet_clear _ _).bind fun _ _ _ _ => discreet_pure fun i covers => ?_
      by_cases low : i < b.offset + b.len
      · exact Or.inl (Or.inl (kept covers low))
      · exact Or.inr ⟨Nat.le_of_not_lt low, covers.2⟩
    · refine discreet_pure fun i covers => Or.inl (kept covers ?_)
      have high : i < b.offset + size := covers.2
      omega
  | none =>
    refine (discreet_alloc size align).bind fun _ answer _ _ => ?_
    cases answer with
    | error refusal => exact discreet_pure fun _ => False.elim
    | ok fresh =>
      -- the new block is all zero before anything is copied, so that it is shown as a whole, also
      -- where it takes bytes of the old one that were free again
      refine discreet_orFault fun stop ends => ?_
      obtain rfl := eq_of_word ends
      refine (discreet_copyWithin (fun i low high => ?_) fresh.offset).bind fun _ _ _ _ =>
        discreet_pure fun i covers => Or.inl (Or.inr covers)
      refine Or.inl (Or.inl (known i ⟨low, ?_⟩))
      unfold Block.finish
      omega

theorem discreet_freeAll : Discreet shown Nothing freeAll := by
  intro a a' shares
  have emptied := shares.map (g := fun a => { a with offset := 0, last? := none })
    (fun _ _ => rfl) fun _ => rfl
  have alike := shares.alike
  obtain ⟨data, rfl, -⟩ := alike
  unfold freeAll
  rw [run_get_bind, run_get_bind]
  dsimp only
  split
  · exact .ok () (emptied.nothing ())
  · exact .error _ shares

theorem discreet_openRegion : Discreet shown Nothing openRegion := by
  intro a a' shares
  have emptied := shares.map (g := fun a => { a with last? := none }) (fun _ _ => rfl) fun _ => rfl
  have opened := shares.map (g := fun a => { a with last? := none, regions := a.regions + 1 })
    (fun _ _ => rfl) fun _ => rfl
  have alike := shares.alike
  obtain ⟨data, rfl, -⟩ := alike
  unfold openRegion
  rw [run_get_bind, run_get_bind]
  dsimp only
  split
  · exact .ok _ (opened.nothing _)
  · exact .error _ emptied

theorem discreet_closeRegion (c : Checkpoint) : Discreet shown Nothing (closeRegion c) := by
  intro a a' shares
  have closed := shares.map
    (g := fun a => { a with offset := c.offset, last? := c.last?, regions := a.regions - 1 })
    (fun _ _ => rfl) fun _ => rfl
  have alike := shares.alike
  obtain ⟨data, rfl, -⟩ := alike
  unfold closeRegion
  rw [run_get_bind, run_get_bind]
  dsimp only
  split
  · exact .error _ shares
  split
  · exact .error _ shares
  · exact .ok () (closed.nothing ())

theorem Discreet.inRegion {body : Checkpoint → ArenaM α}
    (h : ∀ c, Discreet shown reveals (body c)) : Discreet shown reveals (inRegion body) := by
  refine discreet_openRegion.bind fun _ c _ _ => ?_
  rw [or_nothing]
  refine (h c).bind fun _ answer _ _ => ?_
  refine (discreet_closeRegion c).bind fun _ _ _ _ => discreet_pure fun i known => ?_
  exact Or.inl (Or.inr known)

/-! ### Cells -/

theorem discreet_make (t : Scalar) :
    Discreet shown (fun answer => Handed (answer.map Cell.block)) (make t) := by
  refine (discreet_alloc t.size t.align).bind fun _ answer _ _ => ?_
  cases answer with
  | error refusal => exact discreet_pure fun _ => False.elim
  | ok block =>
    exact (discreet_modifyBytes (fun i covers => Or.inr covers) _).bind fun _ _ _ _ =>
      discreet_pure fun i covers => Or.inl (Or.inr covers)

theorem discreet_makeArray (t : Scalar) (count : Nat) :
    Discreet shown (fun answer => Handed (answer.map CellArray.block)) (makeArray t count) := by
  unfold makeArray
  split
  · refine (discreet_alloc (count * t.size) t.align).bind fun _ answer _ _ => ?_
    cases answer with
    | error refusal => exact discreet_pure fun _ => False.elim
    | ok block =>
      exact (discreet_modifyBytes (fun i covers => Or.inr covers) _).bind fun _ _ _ _ =>
        discreet_pure fun i covers => Or.inl (Or.inr covers)
  · exact discreet_pure fun _ => False.elim

theorem Shares.load {t : Scalar} {cell : Cell t} (h : Shares shown a a')
    (known : ∀ i, cell.block.Covers i → shown i) : a'.load cell = a.load cell := by
  unfold Arena.load
  rw [h.bytes known]

theorem Shares.element {t : Scalar} {cells : CellArray t} (h : Shares shown a a')
    (known : ∀ i, cells.block.Covers i → shown i) (i : Nat) :
    a'.element cells i = a.element cells i := by
  unfold Arena.element
  rw [h.bytes known]

theorem Shares.elements {t : Scalar} {cells : CellArray t} (h : Shares shown a a')
    (known : ∀ i, cells.block.Covers i → shown i) : a'.elements cells = a.elements cells := by
  unfold Arena.elements
  rw [show a'.element cells = a.element cells from funext (h.element known)]

theorem discreet_setElement {t : Scalar} {cells : CellArray t}
    (known : ∀ i, cells.block.Covers i → shown i) (i : Nat) (v : t.Value) :
    Discreet shown Nothing (setElement cells i v) := by
  unfold setElement
  split
  · exact discreet_modifyBytes known _
  · exact fun _ _ shares => .error _ shares

end Arena

end FrontEnd.Memory
