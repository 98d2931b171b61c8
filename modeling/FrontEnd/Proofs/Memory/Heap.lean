import Mathlib.Data.List.Nodup
import FrontEnd.Proofs.Memory.Session

/-!
# The heap that a client sees

A client knows its blocks by names, and hands each request the current handle of the block it
names. A heap says which blocks are live and what they hold. It follows the requests and the
answers alone and knows nothing of offsets, checkpoints or the bytes of a buffer.
-/

namespace FrontEnd.Memory

/-- A live block under its name, by its current handle. -/
structure Live where
  name : Nat
  block : Block
  deriving DecidableEq, Repr

/-- The live blocks by the region that they were allocated in, and what they hold. -/
structure Heap where
  /-- The blocks of the innermost open region, the newest first. -/
  inner : List Live := []
  /-- The blocks of each region around it, and last those of no region. -/
  outer : List (List Live) := []
  /-- The bytes of the block of a name. A `none` is a byte that growth in place has added and
  that has not been written since. -/
  held : Nat → List (Option UInt8) := fun _ => []
  /-- The next name to give. -/
  next : Nat := 0

namespace Heap

/-- All live blocks, those of inner regions before those of outer ones. -/
def live (h : Heap) : List Live := h.inner ++ h.outer.flatten

/-- The current handle of a live block. -/
def block? (h : Heap) (name : Nat) : Option Block :=
  (h.live.find? fun l => l.name == name).map Live.block

/-- The block of the innermost region that was allocated last. -/
def newest? (h : Heap) : Option Live := h.inner.head?

/-- Notes what the block of a name holds. -/
def hold (h : Heap) (name : Nat) (bytes : List (Option UInt8)) : Heap :=
  { h with held := fun n => if n = name then bytes else h.held n }

/-- Takes the block of a name out of the region that it is in. -/
def drop (h : Heap) (name : Nat) : Heap :=
  { h with
    inner := h.inner.filter (·.name != name)
    outer := h.outer.map fun scope => scope.filter (·.name != name) }

/-- Puts a block into the innermost region. -/
def add (h : Heap) (name : Nat) (block : Block) : Heap :=
  { h with inner := ⟨name, block⟩ :: h.inner }

/-- Gives a block a new handle, in the region that it is in. -/
def rehandle (h : Heap) (name : Nat) (block : Block) : Heap :=
  let change (l : Live) : Live := if l.name = name then ⟨name, block⟩ else l
  { h with inner := h.inner.map change, outer := h.outer.map fun scope => scope.map change }

/-- Bytes cut down to a size, or made up to it. -/
def fit (bytes : List (Option UInt8)) (size : Nat) (added : Option UInt8) : List (Option UInt8) :=
  bytes.take size ++ List.replicate (size - bytes.length) added

/-- Bytes with others in place of those from `start` on. -/
def overwritten (bytes : List (Option UInt8)) (start : Nat) (new : List UInt8) :
    List (Option UInt8) :=
  bytes.take start ++ new.map some ++ bytes.drop (start + new.length)

/-- What a heap becomes when a request has come back with an answer. Closing a region drops the
blocks that were allocated in it. -/
def after (h : Heap) : Request Nat → Answer → Heap
  | .alloc size _, .handle block =>
    { (h.add h.next block).hold h.next (List.replicate size (some 0)) with next := h.next + 1 }
  | .realloc name size _, .handle block =>
    ((h.drop name).add name block).hold name (fit (h.held name) size (some 0))
  | .resize name size, .handle block =>
    (h.rehandle name block).hold name (fit (h.held name) size none)
  | .write name start bytes, .done => h.hold name (overwritten (h.held name) start bytes)
  | .free name _, .done => h.drop name
  | .freeAll, .done => { h with inner := [], outer := [] }
  | .openRegion, .done => { h with inner := [], outer := h.inner :: h.outer }
  | .closeRegion, .done =>
    match h.outer with
    | [] => h
    | scope :: outer => { h with inner := scope, outer }
  | _, _ => h

/-- Puts a block in place of the newest. -/
def renew (h : Heap) (l : Live) : Heap := { h with inner := l :: h.inner.tail }

variable {h : Heap} {name : Nat} {block : Block} {k l : Live}

theorem held_hold_self (h : Heap) (name : Nat) (bytes : List (Option UInt8)) :
    (h.hold name bytes).held name = bytes := if_pos rfl

theorem held_hold_ne (h : Heap) {name other : Nat} (bytes : List (Option UInt8))
    (ne : other ≠ name) : (h.hold name bytes).held other = h.held other := if_neg ne

theorem live_of_block? (found : h.block? name = some block) :
    ∃ l ∈ h.live, l.name = name ∧ l.block = block := by
  obtain ⟨l, at_name, same⟩ := Option.map_eq_some_iff.mp found
  have named := List.find?_some at_name
  exact ⟨l, List.mem_of_find?_eq_some at_name, beq_iff_eq.mp named, same⟩

theorem block?_of_mem (named : (h.live.map Live.name).Nodup) (live : l ∈ h.live) :
    h.block? l.name = some l.block := by
  have isSome : (h.live.find? fun k => k.name == l.name).isSome := by
    rw [List.find?_isSome]
    exact ⟨l, live, beq_self_eq_true l.name⟩
  obtain ⟨k, found⟩ := Option.isSome_iff_exists.mp isSome
  have same := List.find?_some found
  have member := List.mem_of_find?_eq_some found
  obtain rfl : k = l := List.inj_on_of_nodup_map named member live (beq_iff_eq.mp same)
  exact Option.map_eq_some_iff.mpr ⟨k, found, rfl⟩

theorem live_drop (h : Heap) (name : Nat) :
    (h.drop name).live = h.live.filter (·.name != name) := by
  unfold live drop
  rw [List.filter_append, List.filter_flatten]

theorem mem_rehandle (live : l ∈ (h.rehandle name block).live) :
    l ∈ h.live ∨ l = ⟨name, block⟩ := by
  have changed : l ∈ h.live.map fun k => if k.name = name then ⟨name, block⟩ else k := by
    unfold Heap.live at live ⊢
    rw [List.map_append, List.map_flatten]
    exact live
  obtain ⟨k, old, rfl⟩ := List.mem_map.mp changed
  by_cases about : k.name = name
  · rw [if_pos about]
    exact Or.inr rfl
  · rw [if_neg about]
    exact Or.inl old

theorem live_of_newest (newest : h.newest? = some l) :
    h.live = l :: (h.inner.tail ++ h.outer.flatten) := by
  obtain ⟨rest, inner⟩ := List.head?_eq_some_iff.mp newest
  unfold live
  rw [inner]
  rfl

theorem mem_of_newest (newest : h.newest? = some l) : l ∈ h.live := by
  rw [live_of_newest newest]
  exact List.mem_cons_self

theorem name_ne_newest (named : (h.live.map Live.name).Nodup) (newest : h.newest? = some l) :
    ∀ k ∈ h.inner.tail ++ h.outer.flatten, k.name ≠ l.name := by
  rw [live_of_newest newest, List.map_cons, List.nodup_cons] at named
  intro k other same
  exact named.1 (same ▸ List.mem_map_of_mem other)

/-- What leaves blocks of other names alone leaves alone all but the newest. -/
theorem untouched_by (named : (h.live.map Live.name).Nodup) (newest : h.newest? = some l)
    {f : List Live → List Live}
    (kept : ∀ scope : List Live, (∀ k ∈ scope, k.name ≠ l.name) → f scope = scope) :
    f h.inner.tail = h.inner.tail ∧ h.outer.map f = h.outer := by
  have others := name_ne_newest named newest
  refine ⟨kept _ fun k member => others k (List.mem_append_left _ member), ?_⟩
  conv_rhs => rw [← List.map_id' h.outer]
  refine List.map_congr_left fun scope member => kept scope fun k inside => others k ?_
  exact List.mem_append_right _ (List.mem_flatten_of_mem member inside)

theorem rehandle_newest (named : (h.live.map Live.name).Nodup) (newest : h.newest? = some l)
    (block : Block) : h.rehandle l.name block = h.renew ⟨l.name, block⟩ := by
  have kept : ∀ scope : List Live, (∀ k ∈ scope, k.name ≠ l.name) →
      scope.map (fun k => if k.name = l.name then ⟨l.name, block⟩ else k) = scope := by
    intro scope apart
    conv_rhs => rw [← List.map_id' scope]
    exact List.map_congr_left fun k member => if_neg (apart k member)
  obtain ⟨older, around⟩ := untouched_by named newest kept
  obtain ⟨rest, inner⟩ := List.head?_eq_some_iff.mp newest
  rw [inner, List.tail_cons] at older
  unfold rehandle renew
  dsimp only
  rw [around, inner, List.map_cons, if_pos rfl, older, List.tail_cons]

theorem add_drop_newest (named : (h.live.map Live.name).Nodup) (newest : h.newest? = some l)
    (block : Block) : (h.drop l.name).add l.name block = h.renew ⟨l.name, block⟩ := by
  have kept : ∀ scope : List Live, (∀ k ∈ scope, k.name ≠ l.name) →
      scope.filter (·.name != l.name) = scope :=
    fun scope apart => List.filter_eq_self.mpr fun k member => bne_iff_ne.mpr (apart k member)
  obtain ⟨older, around⟩ := untouched_by named newest kept
  obtain ⟨rest, inner⟩ := List.head?_eq_some_iff.mp newest
  rw [inner, List.tail_cons] at older
  unfold drop add renew
  dsimp only
  rw [around, inner, List.filter_cons_of_neg (by simp), older, List.tail_cons]

end Heap

/-- A request about blocks that are known by another reference, if there is one for each. -/
def Request.resolve? {β γ : Type} (handle? : β → Option γ) : Request β → Option (Request γ)
  | .alloc size align => some (.alloc size align)
  | .realloc block size align => (handle? block).map fun b => .realloc b size align
  | .resize block size => (handle? block).map fun b => .resize b size
  | .write block start bytes => (handle? block).map fun b => .write b start bytes
  | .free block align => (handle? block).map fun b => .free b align
  | .freeAll => some .freeAll
  | .openRegion => some .openRegion
  | .closeRegion => some .closeRegion

/-- The block that a request is about, if it is about one. -/
def Request.operand? {β : Type} : Request β → Option β
  | .realloc block _ _ => some block
  | .resize block _ => some block
  | .write block _ _ => some block
  | .free block _ => some block
  | _ => none

/-- The size that a request asks for, if it asks for one. -/
def Request.size? {β : Type} : Request β → Option Nat
  | .alloc size _ => some size
  | .realloc _ size _ => some size
  | .resize _ size => some size
  | _ => none

/-- A session with the heap that its client sees. -/
structure Client where
  session : Session
  heap : Heap := {}

namespace Client

/-- A client of a new arena over a buffer. -/
def new (id : UInt32) (address : Nat) (data : List UInt8) : Client :=
  { session := { arena := { id, address, data } } }

/-- The arena of the session. -/
def arena (c : Client) : Arena := c.session.arena

/-- Makes a request with the current handle of the block that it names. A request that names no
live block is not made. -/
def step (c : Client) (request : Request Nat) : Client :=
  match request.resolve? c.heap.block? with
  | none => c
  | some resolved =>
    let (answer, session) := c.session.perform resolved
    ⟨session, c.heap.after request answer⟩

/-- The client after some requests. -/
def run (c : Client) : List (Request Nat) → Client
  | [] => c
  | request :: rest => run (c.step request) rest

variable {c : Client} {request : Request Nat} {resolved : Request Block} {answer : Answer}
  {session : Session}

theorem step_of_dead (dead : request.resolve? c.heap.block? = none) : c.step request = c := by
  unfold step
  rw [dead]

theorem step_eq (resolves : request.resolve? c.heap.block? = some resolved)
    (performed : c.session.perform resolved = (answer, session)) :
    c.step request = ⟨session, c.heap.after request answer⟩ := by
  unfold step
  rw [resolves]
  dsimp only
  rw [performed]

end Client

end FrontEnd.Memory
