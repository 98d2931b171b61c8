import FrontEnd.Memory.Region
import FrontEnd.Proofs.Buffer

/-!
# What an operation can do

For each operation of an arena one lemma lists its outcomes, each with its guard: a fault, a
refusal, or the arena that it leaves. Everything later rests on these and opens no operation again.
-/

namespace FrontEnd

/-! ### Running -/

section Running

variable {σ α β : Type} {s s' : σ} {x : EStateM Fault σ α} {f : α → EStateM Fault σ β}

theorem run_bind_ok {v : α} (h : x s = .ok v s') : (x >>= f) s = f v s' := by
  simp only [bind, EStateM.bind, h]

theorem run_bind_error {fault : Fault} (h : x s = .error fault s') :
    (x >>= f) s = .error fault s' := by
  simp only [bind, EStateM.bind, h]

theorem run'_of_ok {v : α} (h : x s = .ok v s') : x.run' s = some v :=
  congrArg (fun outcome => EStateM.run' (fun _ => outcome) s) h

theorem run_of_run' {v : α} (h : x.run' s = some v) : ∃ s', x s = .ok v s' := by
  cases ran : x s with
  | error fault s' =>
    have failed : x.run' s = none :=
      congrArg (fun outcome => EStateM.run' (fun _ => outcome) s) ran
    rw [failed] at h
    cases h
  | ok u s' =>
    rw [run'_of_ok ran] at h
    cases h
    exact ⟨s', rfl⟩

theorem run_get_bind {f : σ → EStateM Fault σ β} : (get >>= f) s = f s s := rfl

theorem run_orFault_ok {read : Except Fault α} {v : α} (h : read = .ok v) :
    (orFault read >>= f) s = f v s := by
  subst h
  rfl

theorem run_bind_eq_ok {v : β} {s'' : σ} (h : (x >>= f) s = .ok v s'') :
    ∃ u s', x s = .ok u s' ∧ f u s' = .ok v s'' := by
  cases ran : x s with
  | error fault s' =>
    rw [run_bind_error ran] at h
    cases h
  | ok u s' => exact ⟨u, s', rfl, (run_bind_ok ran).symm.trans h⟩

theorem run_orFault_eq_ok {read : Except Fault α} {v : β} (h : (orFault read >>= f) s = .ok v s') :
    ∃ u, read = .ok u ∧ f u s = .ok v s' := by
  cases read with
  | error fault => cases h
  | ok u => exact ⟨u, rfl, h⟩

theorem bind_eq_ok {read : Except Fault α} {g : α → Except Fault β} {v : β}
    (h : read >>= g = .ok v) : ∃ u, read = .ok u ∧ g u = .ok v := by
  cases read with
  | error fault => cases h
  | ok u => exact ⟨u, rfl, h⟩

theorem run_orFault_error {read : Except Fault α} {fault : Fault} (h : read = .error fault) :
    (orFault read >>= f) s = .error fault s := by
  subst h
  rfl

end Running

namespace Memory

open Buffer (window)

/-- One past the last byte of a block, as a number that need not be a machine word. -/
def Block.finish (b : Block) : Nat := b.offset + b.len

namespace Arena

/-! ### Ownership -/

theorem checkOwned_eq_ok_iff {a : Arena} {b : Block} :
    a.checkOwned b = .ok () ↔
      b.owner = a.id ∧ b.finish < wordLimit ∧ b.finish ≤ a.capacity := by
  unfold checkOwned Block.stop Block.finish
  rw [word_eq]
  by_cases owner : b.owner = a.id
  · by_cases fits : b.offset + b.len < wordLimit
    · by_cases inside : a.capacity < b.offset + b.len
      · simp [owner, fits, inside, bind, Except.bind]
      · simp [owner, fits, inside, bind, Except.bind]
        omega
    · simp [owner, fits, bind, Except.bind]
  · simp [owner]

theorem bytes_of_owned {a : Arena} {b : Block} (owned : a.checkOwned b = .ok ()) :
    a.bytes b = .ok (window a.data b.offset b.len) := by
  obtain ⟨-, short, inside⟩ := checkOwned_eq_ok_iff.mp owned
  have range : Buffer.slice a.data b.offset (b.offset + b.len) = .ok _ :=
    Buffer.slice_eq_window (Nat.le_add_right b.offset b.len) inside
  rw [Nat.add_sub_cancel_left] at range
  have stop : b.stop = .ok (b.offset + b.len) := word_of_lt short
  simp only [Arena.bytes, owned, stop, bind, Except.bind, range]

theorem bytes_of_foreign [Build] {a : Arena} {b : Block} {fault : Fault}
    (foreign : a.checkOwned b = .error fault) : a.bytes b = .error fault := by
  simp only [Arena.bytes, foreign, bind, Except.bind]

theorem modifyBytes_of_fault [Build] {a : Arena} {b : Block} {fault : Fault}
    {f : List UInt8 → Except Fault (List UInt8)} (failed : a.bytes b >>= f = .error fault) :
    modifyBytes b f a = .error fault a := by
  unfold modifyBytes
  rw [run_get_bind]
  exact run_orFault_error failed

theorem bytes_eq_ok_iff {a : Arena} {b : Block} {bytes : List UInt8} :
    a.bytes b = .ok bytes ↔
      b.owner = a.id ∧ b.finish < wordLimit ∧ b.finish ≤ a.capacity ∧
        bytes = window a.data b.offset b.len := by
  cases owned : a.checkOwned b with
  | error fault =>
    rw [bytes_of_foreign owned]
    constructor
    · intro h
      cases h
    · rintro ⟨owner, fits, inside, -⟩
      rw [checkOwned_eq_ok_iff.mpr ⟨owner, fits, inside⟩] at owned
      cases owned
  | ok u =>
    obtain ⟨owner, fits, inside⟩ := checkOwned_eq_ok_iff.mp owned
    rw [bytes_of_owned owned, Except.ok.injEq]
    constructor
    · rintro rfl
      exact ⟨owner, fits, inside, rfl⟩
    · rintro ⟨-, -, -, same⟩
      exact same.symm

theorem checkOwned_of_stop [Build] {a : Arena} {b : Block} {stop : Nat} (owner : b.owner = a.id)
    (ends : b.stop = .ok stop) :
    a.checkOwned b = if a.capacity < stop then
      .error (.blockOutside b.offset stop a.id a.capacity) else .ok () := by
  unfold checkOwned
  rw [if_neg (not_not_intro owner), ends]
  rfl

theorem owner_of_owned [Build] {a : Arena} {b : Block} (owned : a.checkOwned b = .ok ()) :
    b.owner = a.id := by
  refine Decidable.byContradiction fun foreign => ?_
  unfold checkOwned at owned
  rw [if_pos foreign] at owned
  cases owned

/-- A block shows what lies in its window, and is checked against identity and capacity only. -/
theorem bytes_congr {a a' : Arena} {b : Block} (id : a'.id = a.id)
    (capacity : a'.capacity = a.capacity)
    (shown : window a'.data b.offset b.len = window a.data b.offset b.len) :
    a'.bytes b = a.bytes b := by
  have check : a'.checkOwned b = a.checkOwned b := by
    unfold checkOwned
    rw [id, capacity]
  cases owned : a.checkOwned b with
  | error fault => rw [bytes_of_foreign owned, bytes_of_foreign (check.trans owned)]
  | ok u => rw [bytes_of_owned owned, bytes_of_owned (check.trans owned), shown]

/-! ### Writing -/

theorem writeBytes_run {a : Arena} {b : Block} {start : Nat} {new : List UInt8}
    (owned : a.checkOwned b = .ok ()) (fits : start + new.length ≤ b.len) :
    writeBytes b start new a =
      .ok () { a with data := Buffer.splice a.data (b.offset + start) new } := by
  obtain ⟨-, -, inside⟩ := checkOwned_eq_ok_iff.mp owned
  have shown : (window a.data b.offset b.len).length = b.len := Buffer.length_window inside
  have written : (a.bytes b >>= fun old => Buffer.overwrite old start new) =
      .ok (Buffer.splice (window a.data b.offset b.len) start new) := by
    simp only [bytes_of_owned owned, bind, Except.bind, Buffer.overwrite, shown, fits, if_true]
  unfold writeBytes modifyBytes
  rw [run_get_bind, run_orFault_ok written, Buffer.splice_window inside fits]
  rfl

theorem writeBytes_cases (a : Arena) (b : Block) (start : Nat) (new : List UInt8) :
    (∃ fault, a.checkOwned b = .error fault ∧ writeBytes b start new a = .error fault a) ∨
    (a.checkOwned b = .ok () ∧ b.len < start + new.length ∧
      writeBytes b start new a = .error .outOfRange a) ∨
    (a.checkOwned b = .ok () ∧ start + new.length ≤ b.len ∧
      writeBytes b start new a =
        .ok () { a with data := Buffer.splice a.data (b.offset + start) new }) := by
  cases owned : a.checkOwned b with
  | error fault =>
    left
    exact ⟨fault, rfl, modifyBytes_of_fault (by rw [bytes_of_foreign owned]; rfl)⟩
  | ok u =>
    right
    by_cases fits : start + new.length ≤ b.len
    · right
      exact ⟨rfl, fits, writeBytes_run owned fits⟩
    · left
      obtain ⟨-, -, inside⟩ := checkOwned_eq_ok_iff.mp owned
      have shown : (window a.data b.offset b.len).length = b.len := Buffer.length_window inside
      have refused : (a.bytes b >>= fun old => Buffer.overwrite old start new) =
          .error .outOfRange := by
        simp only [bytes_of_owned owned, bind, Except.bind, Buffer.overwrite, shown, fits, if_false]
      exact ⟨rfl, Nat.lt_of_not_le fits, modifyBytes_of_fault refused⟩

/-! ### Handing out -/

/-- The arena after a block with some content has been handed out. -/
def handOut (a : Arena) (start : Nat) (content : List UInt8) : Arena :=
  { a with
    data := Buffer.splice a.data start content
    offset := start + content.length
    last? := some start }

theorem checkOwned_handOut {a : Arena} {start : Nat} {content : List UInt8}
    (word : a.capacity < wordLimit) (fits : start + content.length ≤ a.capacity) :
    (a.handOut start content).checkOwned ⟨a.id, start, content.length⟩ = .ok () := by
  have capacity : (a.handOut start content).capacity = a.capacity := Buffer.length_splice fits
  refine checkOwned_eq_ok_iff.mpr ⟨rfl, Nat.lt_of_le_of_lt fits word, ?_⟩
  rw [capacity]
  exact fits

theorem bytes_handOut_self {a : Arena} {start : Nat} {content : List UInt8}
    (word : a.capacity < wordLimit) (fits : start + content.length ≤ a.capacity) :
    (a.handOut start content).bytes ⟨a.id, start, content.length⟩ = .ok content := by
  rw [bytes_of_owned (checkOwned_handOut word fits)]
  exact congrArg Except.ok (Buffer.window_splice_self fits)

/-- A block filled at once might have been handed out with what was written. -/
theorem writeBytes_handOut {a : Arena} {start : Nat} {content : List UInt8}
    (word : a.capacity < wordLimit) (fits : start + content.length ≤ a.capacity) :
    writeBytes ⟨a.id, start, content.length⟩ 0 content
        (a.handOut start (List.replicate content.length 0)) =
      .ok () (a.handOut start content) := by
  have same : (List.replicate content.length (0 : UInt8)).length = content.length :=
    List.length_replicate
  have zeroed : start + (List.replicate content.length (0 : UInt8)).length ≤ a.capacity := by
    rw [same]
    exact fits
  have owned := checkOwned_handOut word zeroed
  rw [same] at owned
  rw [writeBytes_run owned (Nat.le_of_eq (Nat.zero_add content.length))]
  unfold handOut
  dsimp only
  rw [Nat.add_zero, Buffer.splice_splice zeroed (Nat.le_of_eq same.symm), List.drop_replicate,
    Nat.sub_self, List.replicate_zero, List.append_nil, same]

theorem alloc_cases [Build] (a : Arena) (size align : Nat) :
    (isAlignment align = false ∧ alloc size align a = .error (.badAlignment align) a) ∨
    (∃ fault, isAlignment align = true ∧ a.padding (max align minAlignment) = .error fault ∧
      alloc size align a = .error fault a) ∨
    (∃ padding, isAlignment align = true ∧ a.padding (max align minAlignment) = .ok padding ∧
      ¬(padding + size < wordLimit ∧ padding + size ≤ a.remaining) ∧
      alloc size align a = .ok (.error (.outOfMemory size a.remaining)) a) ∨
    ∃ padding, isAlignment align = true ∧ a.padding (max align minAlignment) = .ok padding ∧
      padding + size < wordLimit ∧ padding + size ≤ a.remaining ∧
      alloc size align a = .ok (.ok ⟨a.id, a.offset + padding, size⟩)
        (a.handOut (a.offset + padding) (List.replicate size 0)) := by
  unfold alloc
  rw [run_get_bind]
  by_cases power : isAlignment align = true
  · right
    rw [if_pos power]
    cases skipped : a.padding (max align minAlignment) with
    | error fault => exact Or.inl ⟨fault, power, rfl, run_orFault_error rfl⟩
    | ok padding =>
      right
      rw [run_orFault_ok rfl]
      by_cases room : padding + size < wordLimit ∧ padding + size ≤ a.remaining
      · right
        refine ⟨padding, power, rfl, room.1, room.2, ?_⟩
        rw [if_pos room, handOut, List.length_replicate]
        rfl
      · left
        refine ⟨padding, power, rfl, room, ?_⟩
        rw [if_neg room]
        rfl
  · left
    rw [if_neg power]
    exact ⟨Bool.eq_false_iff.mpr power, rfl⟩

/-! ### Resizing -/

/-- The arena after its last block has been given another size, and bytes from its old end on. -/
def refit (a : Arena) (b : Block) (size : Nat) (added : List UInt8) : Arena :=
  { a with data := Buffer.splice a.data b.finish added, offset := b.offset + size }

theorem resize_of_foreign [Build] {a : Arena} {b : Block} {fault : Fault} (size : Nat)
    (foreign : a.checkOwned b = .error fault) : resize? b size a = .error fault a := by
  unfold resize?
  rw [run_get_bind]
  exact run_orFault_error foreign

theorem resize_in_place [Build] {a : Arena} {b : Block} {size : Nat} (owned : a.checkOwned b = .ok ())
    (last : a.last? = some b.offset) (room : size ≤ a.capacity - b.offset) :
    resize? b size a = .ok (some { b with len := size }) (a.refit b size []) := by
  unfold resize? refit
  rw [run_get_bind, Buffer.splice_nil, run_orFault_ok owned, if_pos ⟨last, room⟩]
  rfl

theorem resize_declined [Build] {a : Arena} {b : Block} {size : Nat}
    (owned : a.checkOwned b = .ok ())
    (stuck : ¬(a.last? = some b.offset ∧ size ≤ a.capacity - b.offset)) :
    resize? b size a = .ok none a := by
  unfold resize?
  rw [run_get_bind, run_orFault_ok owned, if_neg stuck]
  rfl

theorem resize?_cases [Build] (a : Arena) (b : Block) (size : Nat) :
    (∃ fault, a.checkOwned b = .error fault ∧ resize? b size a = .error fault a) ∨
    (a.checkOwned b = .ok () ∧ ¬(a.last? = some b.offset ∧ size ≤ a.capacity - b.offset) ∧
      resize? b size a = .ok none a) ∨
    (a.checkOwned b = .ok () ∧ a.last? = some b.offset ∧ size ≤ a.capacity - b.offset ∧
      resize? b size a = .ok (some { b with len := size }) (a.refit b size [])) := by
  cases owned : a.checkOwned b with
  | error fault => exact Or.inl ⟨fault, rfl, resize_of_foreign size owned⟩
  | ok u =>
    right
    by_cases fits : a.last? = some b.offset ∧ size ≤ a.capacity - b.offset
    · exact Or.inr ⟨rfl, fits.1, fits.2, resize_in_place owned fits.1 fits.2⟩
    · exact Or.inl ⟨rfl, fits, resize_declined owned fits⟩

theorem clear_run {a : Arena} {start stop : Nat} (ordered : start ≤ stop)
    (inside : stop ≤ a.capacity) :
    clear start stop a =
      .ok () { a with data := Buffer.splice a.data start (List.replicate (stop - start) 0) } := by
  have read := Buffer.slice_eq_window ordered inside
  have shown : (window a.data start (stop - start)).length = stop - start :=
    Buffer.length_window (by unfold capacity at inside; omega)
  unfold clear
  rw [run_get_bind, run_orFault_ok read, shown]
  rfl

theorem copyWithin_run {a : Arena} {start stop target : Nat} (ordered : start ≤ stop)
    (inside : stop ≤ a.capacity) (room : target + (stop - start) ≤ a.capacity) :
    copyWithin start stop target a =
      .ok () { a with
        data := Buffer.splice a.data target (window a.data start (stop - start)) } := by
  unfold capacity at inside room
  have shown : (window a.data start (stop - start)).length = stop - start :=
    Buffer.length_window (by omega)
  have read : (Buffer.slice a.data start stop >>= Buffer.overwrite a.data target) =
      .ok (Buffer.splice a.data target (window a.data start (stop - start))) := by
    simp only [Buffer.slice_eq_window ordered inside, bind, Except.bind, Buffer.overwrite, shown,
      room, if_true]
  unfold copyWithin
  rw [run_get_bind, run_orFault_ok read]
  rfl

theorem copyWithin_of_range {a : Arena} {start stop : Nat} (target : Nat)
    (astray : ¬(start ≤ stop ∧ stop ≤ a.capacity)) :
    copyWithin start stop target a = .error .outOfRange a := by
  have none_read : Buffer.slice a.data start stop = .error .outOfRange := if_neg astray
  unfold copyWithin
  rw [run_get_bind]
  exact run_orFault_error (by rw [none_read]; rfl)

/-- What growth in place leaves behind: zeros from the old end to the new one. -/
theorem realloc_in_place [Build] {a : Arena} {b : Block} {size : Nat} (align : Nat)
    (owned : a.checkOwned b = .ok ()) (last : a.last? = some b.offset)
    (room : size ≤ a.capacity - b.offset) :
    realloc b size align a =
      .ok (.ok { b with len := size }) (a.refit b size (List.replicate (size - b.len) 0)) := by
  have resized : resize? b size a =
      .ok (some { b with len := size }) { a with offset := b.offset + size } := by
    rw [resize_in_place owned last room, refit, Buffer.splice_nil]
  unfold realloc
  rw [run_bind_ok resized]
  by_cases grows : b.len < size
  · have ends : b.offset + size ≤ a.capacity := by omega
    have cleared := @clear_run { a with offset := b.offset + size } (b.offset + b.len)
      (b.offset + size) (by omega) ends
    have added : b.offset + size - (b.offset + b.len) = size - b.len := by omega
    simp only [if_pos grows]
    rw [run_bind_ok cleared, added]
    rfl
  · have none_added : size - b.len = 0 := by omega
    rw [none_added, List.replicate_zero, refit, Buffer.splice_nil]
    simp only [if_neg grows]
    rfl

/-- The bytes of a block copied into one just handed out. Those are the block's own bytes unless it
runs into the new one. -/
theorem copy_into_fresh {a : Arena} {b : Block} {start size : Nat} (within : b.finish ≤ a.capacity)
    (fits : start + size ≤ a.capacity) :
    ∃ content, content.length = size ∧
      (b.finish ≤ start →
        content = window a.data b.offset (min b.len size) ++ List.replicate (size - b.len) 0) ∧
      copyWithin b.offset (b.offset + min b.len size) start
        (a.handOut start (List.replicate size 0)) = .ok () (a.handOut start content) := by
  unfold Block.finish at within ⊢
  have zeroed : start + (List.replicate size (0 : UInt8)).length ≤ a.data.length := by
    rw [List.length_replicate]
    exact fits
  have same : (a.handOut start (List.replicate size 0)).capacity = a.capacity :=
    Buffer.length_splice zeroed
  have copied : copyWithin b.offset (b.offset + min b.len size) start
      (a.handOut start (List.replicate size 0)) = .ok () _ :=
    copyWithin_run (Nat.le_add_right b.offset (min b.len size)) (by omega) (by omega)
  rw [Nat.add_sub_cancel_left] at copied
  generalize kept_eq : window (a.handOut start (List.replicate size 0)).data b.offset
    (min b.len size) = kept at copied
  have shown : kept.length = min b.len size := by
    rw [← kept_eq]
    exact Buffer.length_window (by unfold capacity at same within; omega)
  refine ⟨kept ++ List.replicate (size - b.len) 0, ?_, ?_, ?_⟩
  · rw [List.length_append, List.length_replicate]
    omega
  · intro apart
    rw [← kept_eq, handOut, Buffer.window_splice_apart zeroed (by omega)]
  · have rest : (List.replicate size (0 : UInt8)).drop kept.length =
        List.replicate (size - b.len) 0 := by
      rw [List.drop_replicate, show size - kept.length = size - b.len by omega]
    rw [copied]
    unfold handOut
    dsimp only
    have length : kept.length + (size - b.len) = size := by omega
    rw [Buffer.splice_splice zeroed (by rw [List.length_replicate]; omega), rest,
      List.length_append, List.length_replicate, List.length_replicate, length]

section

variable [Build] {a a' : Arena} {b fresh : Block} {size align : Nat} {fault : Fault}

theorem realloc_of_foreign (size align : Nat) (foreign : a.checkOwned b = .error fault) :
    realloc b size align a = .error fault a := by
  unfold realloc
  exact run_bind_error (resize_of_foreign size foreign)

theorem realloc_of_fault (declined : resize? b size a = .ok none a)
    (failed : alloc size align a = .error fault a') : realloc b size align a = .error fault a' := by
  unfold realloc
  rw [run_bind_ok declined]
  exact run_bind_error failed

theorem realloc_of_refusal {refusal : AllocError} (declined : resize? b size a = .ok none a)
    (refused : alloc size align a = .ok (.error refusal) a') :
    realloc b size align a = .ok (.error refusal) a' := by
  unfold realloc
  rw [run_bind_ok declined]
  exact run_bind_ok refused

/-- A block that moves is copied into its new place, as far as `stop`. -/
theorem realloc_of_handed {stop : Nat} (declined : resize? b size a = .ok none a)
    (handed : alloc size align a = .ok (.ok fresh) a')
    (ends : word (b.offset + min b.len size) = .ok stop) :
    realloc b size align a =
      (copyWithin b.offset stop fresh.offset >>= fun _ => pure (.ok fresh)) a' := by
  unfold realloc
  rw [run_bind_ok declined]
  dsimp only
  rw [run_bind_ok handed]
  dsimp only
  rw [run_orFault_ok ends]

/-- What the check of a block lets pass ends inside, at a machine word. -/
def Judges (a : Arena) (b : Block) : Prop :=
  a.checkOwned b = .ok () → b.finish < wordLimit ∧ b.finish ≤ a.capacity

end

/-- If sums are checked, the check of a block is right. -/
theorem judges (a : Arena) (b : Block) : a.Judges b :=
  fun owned => (checkOwned_eq_ok_iff.mp owned).2

/-- A block that had to move holds the common bytes, unless the old one runs into it, and zeros
after them. -/
theorem realloc_cases [Build] {a : Arena} {b : Block} (judges : a.Judges b)
    (inside : a.offset ≤ a.capacity) (size align : Nat) :
    (∃ fault, (a.checkOwned b = .error fault ∨ alloc size align a = .error fault a) ∧
      realloc b size align a = .error fault a) ∨
    realloc b size align a = .ok (.error (.outOfMemory size a.remaining)) a ∨
    (a.checkOwned b = .ok () ∧ a.last? = some b.offset ∧ size ≤ a.capacity - b.offset ∧
      realloc b size align a =
        .ok (.ok { b with len := size }) (a.refit b size (List.replicate (size - b.len) 0))) ∨
    (a.checkOwned b = .ok () ∧ ¬(a.last? = some b.offset ∧ size ≤ a.capacity - b.offset) ∧
      ∃ padding content, isAlignment align = true ∧
        a.padding (max align minAlignment) = .ok padding ∧
        padding + size < wordLimit ∧ padding + size ≤ a.remaining ∧ content.length = size ∧
        (b.finish ≤ a.offset + padding →
          content = window a.data b.offset (min b.len size) ++ List.replicate (size - b.len) 0) ∧
        realloc b size align a =
          .ok (.ok ⟨a.id, a.offset + padding, size⟩) (a.handOut (a.offset + padding) content)) := by
  rcases resize?_cases a b size with ⟨fault, foreign, -⟩ | ⟨owned, notLast, declined⟩ |
    ⟨owned, last, room, -⟩
  · exact Or.inl ⟨fault, Or.inl foreign, realloc_of_foreign size align foreign⟩
  · rcases alloc_cases a size align with ⟨-, failed⟩ | ⟨fault, -, -, failed⟩ |
      ⟨-, -, -, -, refused⟩ | ⟨padding, power, skipped, short, room, handed⟩
    · exact Or.inl ⟨_, Or.inr failed, realloc_of_fault declined failed⟩
    · exact Or.inl ⟨fault, Or.inr failed, realloc_of_fault declined failed⟩
    · exact Or.inr (Or.inl (realloc_of_refusal declined refused))
    · right; right; right
      obtain ⟨word, within⟩ := judges owned
      have fits : a.offset + padding + size ≤ a.capacity := by
        unfold remaining at room
        omega
      obtain ⟨content, length, kept, copied⟩ := copy_into_fresh within fits
      have ends : Memory.word (b.offset + min b.len size) = .ok (b.offset + min b.len size) :=
        word_of_lt (by unfold Block.finish at word; omega)
      refine ⟨owned, notLast, padding, content, power, skipped, short, room, length, kept, ?_⟩
      rw [realloc_of_handed declined handed ends, run_bind_ok copied]
      rfl
  · right; right; left
    exact ⟨owned, last, room, realloc_in_place align owned last room⟩

/-! ### Moving -/

theorem relocate_cases (a : Arena) (spare : UInt32) :
    (∃ fault, relocate spare a = .error fault a) ∨
    (a.regions = 0 ∧ relocate spare a = .ok a (empty spare)) := by
  unfold relocate
  rw [run_get_bind]
  by_cases closed : a.regions = 0
  · right
    rw [if_pos closed]
    exact ⟨closed, rfl⟩
  · left
    rw [if_neg closed]
    exact ⟨.relocatedWhileOpen a.id a.regions, rfl⟩

/-! ### Regions -/

theorem freeAll_cases (a : Arena) :
    (∃ fault, a.regions ≠ 0 ∧ freeAll a = .error fault a) ∨
    (a.regions = 0 ∧ freeAll a = .ok () { a with offset := 0, last? := none }) := by
  unfold freeAll
  rw [run_get_bind]
  by_cases closed : a.regions = 0
  · right
    rw [if_pos closed]
    exact ⟨closed, rfl⟩
  · left
    rw [if_neg closed]
    exact ⟨.danglingRegions a.id a.regions, closed, rfl⟩

theorem openRegion_cases (a : Arena) :
    (UInt32.size ≤ a.regions.toNat + 1 ∧
      openRegion a = .error .wordOverflow { a with last? := none }) ∨
    (a.regions.toNat + 1 < UInt32.size ∧
      openRegion a =
        .ok ⟨a.offset, a.last?⟩ { a with last? := none, regions := a.regions + 1 }) := by
  unfold openRegion
  rw [run_get_bind]
  by_cases countable : a.regions.toNat + 1 < UInt32.size
  · right
    rw [if_pos countable]
    exact ⟨countable, rfl⟩
  · left
    rw [if_neg countable]
    exact ⟨Nat.le_of_not_lt countable, rfl⟩

theorem toNat_regions_succ {n : UInt32} (countable : n.toNat + 1 < UInt32.size) :
    (n + 1).toNat = n.toNat + 1 := by
  rw [UInt32.toNat_add, UInt32.toNat_one]
  exact Nat.mod_eq_of_lt countable

theorem toNat_regions_pred {n : UInt32} (counted : 0 < n.toNat) : (n - 1).toNat = n.toNat - 1 := by
  have one_le : (1 : UInt32) ≤ n := by
    rw [UInt32.le_iff_toNat_le, UInt32.toNat_one]
    exact counted
  rw [UInt32.toNat_sub_of_le _ _ one_le, UInt32.toNat_one]

theorem closeRegion_run {a : Arena} {c : Checkpoint} (counted : 0 < a.regions.toNat)
    (above : c.offset ≤ a.offset) :
    closeRegion c a =
      .ok () { a with offset := c.offset, last? := c.last?, regions := a.regions - 1 } := by
  have isOpen : a.regions ≠ 0 := by
    intro none_open
    rw [none_open] at counted
    exact absurd counted (by decide)
  unfold closeRegion
  rw [run_get_bind, if_neg isOpen, if_neg (Nat.not_lt.mpr above)]
  rfl

theorem closeRegion_cases (a : Arena) (c : Checkpoint) :
    (∃ fault, (fault = .improperRegionCounter a.id ∨
        fault = .belowCheckpoint a.id a.offset c.offset) ∧
      ¬(0 < a.regions.toNat ∧ c.offset ≤ a.offset) ∧ closeRegion c a = .error fault a) ∨
    (0 < a.regions.toNat ∧ c.offset ≤ a.offset ∧
      closeRegion c a =
        .ok () { a with offset := c.offset, last? := c.last?, regions := a.regions - 1 }) := by
  by_cases closed : a.regions = 0
  · left
    refine ⟨.improperRegionCounter a.id, Or.inl rfl, fun ⟨counted, _⟩ => ?_, ?_⟩
    · rw [closed] at counted
      exact absurd counted (by decide)
    · unfold closeRegion
      rw [run_get_bind, if_pos closed]
      rfl
  by_cases below : a.offset < c.offset
  · left
    refine ⟨.belowCheckpoint a.id a.offset c.offset, Or.inr rfl, fun ⟨_, above⟩ => ?_, ?_⟩
    · exact absurd below (Nat.not_lt.mpr above)
    · unfold closeRegion
      rw [run_get_bind, if_neg closed, if_pos below]
      rfl
  · right
    have counted : 0 < a.regions.toNat :=
      Nat.pos_of_ne_zero fun none_open => closed (UInt32.toNat_inj.mp none_open)
    have above := Nat.le_of_not_lt below
    exact ⟨counted, above, closeRegion_run counted above⟩

/-- What a region's body leaves of the arena, but for what closing the region brings back. -/
theorem inRegion_run {α : Type} {a a' : Arena} {body : Checkpoint → ArenaM α} {v : α}
    (countable : a.regions.toNat + 1 < UInt32.size)
    (ran : body ⟨a.offset, a.last?⟩ { a with last? := none, regions := a.regions + 1 } = .ok v a')
    (regions : a'.regions = a.regions + 1) (above : a.offset ≤ a'.offset) :
    inRegion body a =
      .ok v { a' with offset := a.offset, last? := a.last?, regions := a.regions } := by
  have counted := toNat_regions_succ countable
  rcases openRegion_cases a with ⟨full, -⟩ | ⟨-, opens⟩
  · omega
  have closes := @closeRegion_run a' ⟨a.offset, a.last?⟩ (by rw [regions]; omega) above
  rw [regions, UInt32.add_sub_cancel] at closes
  unfold inRegion
  rw [run_bind_ok opens, run_bind_ok ran, run_bind_ok closes]
  rfl

end Arena

end Memory

end FrontEnd
