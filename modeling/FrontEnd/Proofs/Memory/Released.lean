import FrontEnd.Proofs.Memory.Discreet
import FrontEnd.Proofs.Memory.Heap

/-!
# Memory that others have used

A tenant of an arena asks it for blocks, and reads and writes those that it has been given. Whatever
lay in the arena before, and whatever its own blocks have left behind, it never gets to see again
through another block.
-/

namespace FrontEnd.Memory

/-- What can be done to the bytes and the scalars of blocks. -/
inductive Access where
  | bytes (block : Block)
  | fill (block : Block) (byte : UInt8)
  | load {t : Scalar} (cell : Cell t)
  | store {t : Scalar} (cell : Cell t) (v : t.Value)
  | element {t : Scalar} (cells : CellArray t) (i : Nat)
  | setElement {t : Scalar} (cells : CellArray t) (i : Nat) (v : t.Value)
  | elements {t : Scalar} (cells : CellArray t)
  | make (t : Scalar)
  | makeArray (t : Scalar) (count : Nat)

/-- What a tenant can do. -/
inductive Command where
  | ask (request : Request Block)
  | access (work : Access)

/-- What a tenant gets to see. -/
inductive Reply where
  | answer (answer : Answer)
  | bytes (bytes : List UInt8)
  | value (t : Scalar) (v : t.Value)
  | values (t : Scalar) (all : List t.Value)

/-- The block that an answer hands out. -/
def Answer.block? : Answer → Option Block
  | .handle block => some block
  | _ => none

/-- The block that a reply hands out. -/
def Reply.block? : Reply → Option Block
  | .answer a => a.block?
  | _ => none

/-- The block that an access is to. -/
def Access.block? : Access → Option Block
  | .bytes block => some block
  | .fill block _ => some block
  | .load cell => some cell.block
  | .store cell _ => some cell.block
  | .element cells _ => some cells.block
  | .setElement cells _ _ => some cells.block
  | .elements cells => some cells.block
  | .make _ => none
  | .makeArray _ _ => none

/-- Carries an access out. -/
def Access.act : Access → ArenaM Reply
  | .bytes block => return .bytes (← Arena.inspect fun a => a.bytes block)
  | .fill block byte => do
    Arena.fill block byte
    return .answer .done
  | .load cell => return .value _ (← Arena.inspect fun a => a.load cell)
  | .store cell v => do
    Arena.store cell v
    return .answer .done
  | .element cells i => return .value _ (← Arena.inspect fun a => a.element cells i)
  | .setElement cells i v => do
    Arena.setElement cells i v
    return .answer .done
  | .elements cells => return .values _ (← Arena.inspect fun a => a.elements cells)
  | .make t => return .answer (.ofAlloc ((← Arena.make t).map Cell.block))
  | .makeArray t count =>
    return .answer (.ofAlloc ((← Arena.makeArray t count).map CellArray.block))

namespace Command

/-- The block that a command is about. -/
def block? : Command → Option Block
  | .ask request => request.operand?
  | .access work => work.block?

/-- Growing a block in place adds bytes to it that nobody has cleared. -/
def Grows : Command → Prop
  | .ask (.resize block size) => block.len < size
  | _ => False

instance : (c : Command) → Decidable c.Grows
  | .ask (.resize block size) => inferInstanceAs (Decidable (block.len < size))
  | .ask (.alloc _ _) | .ask (.realloc _ _ _) | .ask (.write _ _ _) | .ask (.free _ _)
  | .ask .freeAll | .ask .openRegion | .ask .closeRegion | .access _ =>
    inferInstanceAs (Decidable False)

/-- Whether a command is about a block that is known, and does not grow it in place. -/
def Allowed (known : List Block) (c : Command) : Prop :=
  (∀ b ∈ c.block?.toList, b ∈ known) ∧ ¬c.Grows

instance (known : List Block) (c : Command) : Decidable (c.Allowed known) :=
  inferInstanceAs (Decidable (_ ∧ _))

end Command

/-- Carries a command out. -/
def Session.obey (s : Session) : Command → Reply × Session
  | .ask request => (.answer (s.perform request).1, (s.perform request).2)
  | .access work => s.catching work.act (fun reply => reply) fun fault => .answer (.faulted fault)

/-- A session, and every block that its client has been given so far. -/
structure Tenant where
  session : Session
  known : List Block

namespace Tenant

/-- Carries a command out, and remembers the block that comes of it. -/
def issue (t : Tenant) (command : Command) : Reply × Tenant :=
  let (reply, session) := t.session.obey command
  (reply, ⟨session, reply.block?.toList ++ t.known⟩)

/-- The tenant after some commands. -/
def run (t : Tenant) : List Command → Tenant
  | [] => t
  | command :: rest => run (t.issue command).2 rest

/-- What some commands come back with, one after the other. -/
def replies (t : Tenant) : List Command → List Reply
  | [] => []
  | command :: rest => (t.issue command).1 :: replies (t.issue command).2 rest

/-- Each command is allowed with the blocks that are known by then. -/
def Lawful (t : Tenant) : List Command → Prop
  | [] => True
  | command :: rest => command.Allowed t.known ∧ Lawful (t.issue command).2 rest

instance decidableLawful : (t : Tenant) → (commands : List Command) → Decidable (t.Lawful commands)
  | _, [] => inferInstanceAs (Decidable True)
  | t, command :: rest =>
    have := decidableLawful (t.issue command).2 rest
    inferInstanceAs (Decidable (_ ∧ _))

end Tenant

/-- Whether some known block lies over the byte `i` of the buffer. -/
def Covered (known : List Block) (i : Nat) : Prop := ∃ b ∈ known, b.Covers i

/-- Sessions with the same regions, over arenas that are alike and hold the same bytes in some
blocks. -/
structure Session.Twins (known : List Block) (s s' : Session) : Prop where
  guards : s'.guards = s.guards
  shares : Arena.Shares (Covered known) s.arena s'.arena

/-- The same reply from twins that stay twins, now also in the block that the reply hands out. -/
structure Session.Agree {ρ : Type} (block? : ρ → Option Block) (known : List Block)
    (r r' : ρ × Session) : Prop where
  same : r'.1 = r.1
  twins : Twins ((block? r.1).toList ++ known) r.2 r'.2

variable {α ρ : Type} {a a' : Arena} {s s' : Session} {known live : List Block} {b : Block}
  {size : Nat} {action : ArenaM α} {reveals : α → Nat → Prop} {block? : ρ → Option Block}

theorem covered_of_mem (member : b ∈ known) (i : Nat) (covers : b.Covers i) : Covered known i :=
  ⟨b, member, covers⟩

theorem covered_append {new : List Block} {i : Nat} (h : Covered (new ++ known) i) :
    Covered known i ∨ ∃ b ∈ new, b.Covers i := by
  obtain ⟨b, member, covers⟩ := h
  rcases List.mem_append.mp member with fresh | old
  · exact Or.inr ⟨b, fresh, covers⟩
  · exact Or.inl ⟨b, old, covers⟩

namespace Session

theorem Twins.catching (twins : Twins known s s') {reply : α → ρ} {caught : Fault → ρ}
    (discreet : Arena.Discreet (Covered known) reveals action)
    (told : ∀ v b, block? (reply v) = some b → ∀ i, b.Covers i → reveals v i)
    (silent : ∀ fault, block? (caught fault) = none) :
    Agree block? known (s.catching action reply caught) (s'.catching action reply caught) := by
  have shows := discreet s.arena s'.arena twins.shares
  unfold Session.catching
  generalize action s.arena = left at shows ⊢
  generalize action s'.arena = right at shows ⊢
  cases shows with
  | ok v shares =>
    refine ⟨rfl, twins.guards, shares.weaken fun i covered => ?_⟩
    rcases covered_append covered with old | ⟨b, new, covers⟩
    · exact Or.inl old
    · exact Or.inr (told v b (Option.mem_toList.mp new) i covers)
  | error fault shares =>
    refine ⟨rfl, twins.guards, ?_⟩
    dsimp only
    rw [silent fault]
    exact shares

end Session

/-- Whether the block that a reply hands out lies over the byte `i` of the buffer. -/
def Reply.Covers (reply : Reply) (i : Nat) : Prop := ∃ b, reply.block? = some b ∧ b.Covers i

theorem handed_of_block? {answer : Except AllocError Block}
    (handed : (Answer.ofAlloc answer).block? = some b) (i : Nat) (covers : b.Covers i) :
    Arena.Handed answer i := by
  cases answer with
  | ok block =>
    cases handed
    exact covers
  | error refusal => cases handed

/-- A reply without a handle shows nothing. -/
theorem discreet_silent {shown : Nat → Prop} {reply : α → Reply}
    (h : Arena.Discreet shown Arena.Nothing action) (silent : ∀ v, (reply v).block? = none) :
    Arena.Discreet shown Reply.Covers (do return reply (← action)) := by
  refine h.map fun v i ⟨b, handed, _⟩ => ?_
  cases (silent v).symm.trans handed

open Arena in
theorem Access.discreet (work : Access) (allowed : ∀ b ∈ work.block?.toList, b ∈ known) :
    Discreet (Covered known) Reply.Covers work.act := by
  have own {b : Block} (mine : work.block? = some b) : ∀ i, b.Covers i → Covered known i :=
    covered_of_mem (allowed b (Option.mem_toList.mpr mine))
  cases work with
  | bytes block =>
    apply discreet_silent (discreet_inspect fun a a' shares => ?_) fun _ => rfl
    exact shares.bytes (own rfl)
  | fill block byte => exact discreet_silent (discreet_modifyBytes (own rfl) _) fun _ => rfl
  | load cell =>
    apply discreet_silent (discreet_inspect fun a a' shares => ?_) fun _ => rfl
    exact shares.load (own rfl)
  | store cell v => exact discreet_silent (discreet_modifyBytes (own rfl) _) fun _ => rfl
  | element cells j =>
    apply discreet_silent (discreet_inspect fun a a' shares => ?_) fun _ => rfl
    exact shares.element (own rfl) j
  | setElement cells j v => exact discreet_silent (discreet_setElement (own rfl) j v) fun _ => rfl
  | elements cells =>
    apply discreet_silent (discreet_inspect fun a a' shares => ?_) fun _ => rfl
    exact shares.elements (own rfl)
  | make t =>
    exact (discreet_make t).map fun _ i ⟨b, handed, covers⟩ =>
      Or.inr (handed_of_block? handed i covers)
  | makeArray t count =>
    exact (discreet_makeArray t count).map fun _ i ⟨b, handed, covers⟩ =>
      Or.inr (handed_of_block? handed i covers)

namespace Session

open Arena

theorem Twins.openRegion (twins : Twins known s s') :
    Agree Answer.block? known (s.perform .openRegion) (s'.perform .openRegion) := by
  have discreet : Discreet (Covered known) Nothing Arena.openRegion := discreet_openRegion
  have shows := discreet s.arena s'.arena twins.shares
  unfold perform
  generalize Arena.openRegion s.arena = left at shows ⊢
  generalize Arena.openRegion s'.arena = right at shows ⊢
  cases shows with
  | ok checkpoint shares =>
    refine ⟨rfl, congrArg (checkpoint :: ·) twins.guards, shares.weaken fun i covered => ?_⟩
    exact Or.inl covered
  | error fault shares => exact ⟨rfl, twins.guards, shares⟩

theorem Twins.closeRegion (twins : Twins known s s') :
    Agree Answer.block? known (s.perform .closeRegion) (s'.perform .closeRegion) := by
  obtain ⟨a, guards⟩ := s
  obtain ⟨a', guards'⟩ := s'
  obtain rfl : guards' = guards := twins.guards
  cases guards' with
  | nil => exact ⟨rfl, rfl, twins.shares⟩
  | cons checkpoint rest =>
    have left : Twins known ⟨a, rest⟩ ⟨a', rest⟩ := ⟨rfl, twins.shares⟩
    exact left.catching (discreet_closeRegion checkpoint) nofun fun _ => rfl

theorem Twins.perform (twins : Twins known s s') (request : Request Block)
    (allowed : (Command.ask request).Allowed known) :
    Agree Answer.block? known (s.perform request) (s'.perform request) := by
  have own {b : Block} (mine : request.operand? = some b) : ∀ i, b.Covers i → Covered known i :=
    covered_of_mem (allowed.1 b (Option.mem_toList.mpr mine))
  cases request with
  | alloc size align =>
    exact twins.catching (discreet_alloc size align) (fun _ _ => handed_of_block?) fun _ => rfl
  | realloc b size align =>
    apply twins.catching (discreet_realloc (own rfl) size align) _ fun _ => rfl
    exact fun _ _ => handed_of_block?
  | resize b size =>
    have shrinks : size ≤ b.len := Nat.le_of_not_lt allowed.2
    apply twins.catching (discreet_resize?_of_le (own rfl) shrinks) _ fun _ => rfl
    intro resized? r handed i covers
    cases resized? with
    | some resized =>
      cases handed
      exact ⟨_, rfl, covers⟩
    | none => cases handed
  | write b start bytes =>
    exact twins.catching (discreet_modifyBytes (own rfl) _) nofun fun _ => rfl
  | free b align => exact ⟨rfl, twins⟩
  | freeAll => exact twins.catching discreet_freeAll nofun fun _ => rfl
  | openRegion => exact twins.openRegion
  | closeRegion => exact twins.closeRegion

theorem Twins.obey (twins : Twins known s s') (command : Command)
    (allowed : command.Allowed known) :
    Agree Reply.block? known (s.obey command) (s'.obey command) := by
  cases command with
  | ask request =>
    obtain ⟨same, left⟩ := twins.perform request allowed
    exact ⟨congrArg Reply.answer same, left⟩
  | access work =>
    have discreet := work.discreet allowed.1
    exact twins.catching discreet (fun _ b handed i covers => ⟨b, handed, covers⟩) fun _ => rfl

end Session

namespace Tenant

variable {t t' : Tenant} {commands : List Command}

/-- Tenants that know the same blocks, and cannot tell their sessions apart by them. -/
structure Alike (t t' : Tenant) : Prop where
  known : t'.known = t.known
  twins : Session.Twins t.known t.session t'.session

theorem Alike.issue (alike : Alike t t') {command : Command} (allowed : command.Allowed t.known) :
    (t'.issue command).1 = (t.issue command).1 ∧
      Alike (t.issue command).2 (t'.issue command).2 := by
  obtain ⟨same, twins⟩ := alike.twins.obey command allowed
  refine ⟨same, ?_, twins⟩
  show (t'.session.obey command).1.block?.toList ++ t'.known = _
  rw [same, alike.known]
  rfl

theorem Alike.run (alike : Alike t t') (lawful : t.Lawful commands) :
    t'.replies commands = t.replies commands ∧ Alike (t.run commands) (t'.run commands) := by
  induction commands generalizing t t' with
  | nil => exact ⟨rfl, alike⟩
  | cons command rest ih =>
    obtain ⟨same, next⟩ := alike.issue lawful.1
    obtain ⟨replies, left⟩ := ih next lawful.2
    refine ⟨?_, left⟩
    simp only [Tenant.replies, same, replies]

end Tenant

/-- Two arenas that differ in nothing but the bytes outside the blocks that a client knows, those that
are live among them. Whatever the client does with the blocks that it knows and those that it is given,
other than growing one in place, comes to the same over both. -/
theorem released_bytes_never_show {guards : List Checkpoint} {commands : List Command}
    (shares : Arena.Shares (Covered live) a a')
    (lawful : Tenant.Lawful ⟨⟨a, guards⟩, live⟩ commands) :
    let t := Tenant.run ⟨⟨a, guards⟩, live⟩ commands
    let t' := Tenant.run ⟨⟨a', guards⟩, live⟩ commands
    Tenant.replies ⟨⟨a', guards⟩, live⟩ commands = Tenant.replies ⟨⟨a, guards⟩, live⟩ commands ∧
      t'.known = t.known ∧ t'.session.guards = t.session.guards ∧
      Arena.Shares (Covered t.known) t.session.arena t'.session.arena ∧
      ∀ b ∈ t.known, t'.session.arena.bytes b = t.session.arena.bytes b := by
  intro t t'
  have alike : Tenant.Alike ⟨⟨a, guards⟩, live⟩ ⟨⟨a', guards⟩, live⟩ := ⟨rfl, rfl, shares⟩
  obtain ⟨replies, known, ⟨guards, shares⟩⟩ := alike.run lawful
  exact ⟨replies, known, guards, shares, fun b member => shares.bytes (covered_of_mem member)⟩

/-- An arena with one block of eight bytes, over a buffer that is full of a stain. -/
def stained (stain : UInt8) : Arena where
  id := 1
  address := 4096
  data := List.replicate 8 7 ++ List.replicate 56 stain
  offset := 8
  last? := some 0

theorem shares_stained (stain stain' : UInt8) :
    Arena.Shares (Covered [⟨1, 0, 8⟩]) (stained stain) (stained stain') := by
  refine ⟨⟨_, rfl, rfl⟩, ?_⟩
  rintro i ⟨b, member, low, high⟩
  obtain rfl := List.mem_singleton.mp member
  have inside : i < (List.replicate 8 (7 : UInt8)).length := high
  exact (List.getElem?_append_left inside).trans (List.getElem?_append_left inside).symm

/-- Everything is used again: the end of a region, a block that was cut down and grows back, one that
moves, and all of the arena. -/
def reuse : List Command :=
  [.ask (.alloc 16 1), .ask (.write ⟨1, 16, 16⟩ 0 [1, 2, 3]), .ask .openRegion,
    .access (.makeArray (.unsigned .w16) 4),
    .access (.setElement (t := .unsigned .w16) ⟨⟨1, 32, 8⟩, 4⟩ 1 0x0505), .ask .closeRegion,
    .ask (.resize ⟨1, 16, 16⟩ 2), .ask (.realloc ⟨1, 16, 2⟩ 24 1), .access (.bytes ⟨1, 16, 24⟩),
    .ask (.realloc ⟨1, 0, 8⟩ 12 1), .access (.bytes ⟨1, 48, 12⟩), .ask .freeAll,
    .ask (.alloc 40 1), .access (.bytes ⟨1, 0, 40⟩)]

theorem released_bytes_never_show_reused :
    Tenant.Lawful ⟨⟨stained 0xAA, []⟩, [⟨1, 0, 8⟩]⟩ reuse ∧
      Tenant.replies ⟨⟨stained 0x55, []⟩, [⟨1, 0, 8⟩]⟩ reuse =
        Tenant.replies ⟨⟨stained 0xAA, []⟩, [⟨1, 0, 8⟩]⟩ reuse := by
  have lawful : Tenant.Lawful ⟨⟨stained 0xAA, []⟩, [⟨1, 0, 8⟩]⟩ reuse := by decide +kernel
  exact ⟨lawful, (released_bytes_never_show (shares_stained 0xAA 0x55) lawful).1⟩

-- a block that is grown in place shows what lay behind it
example : (Tenant.replies ⟨⟨stained 0x55, []⟩, [⟨1, 0, 8⟩]⟩
    [.ask (.resize ⟨1, 0, 8⟩ 10), .access (.bytes ⟨1, 0, 10⟩)]).getLast? =
      some (.bytes [7, 7, 7, 7, 7, 7, 7, 7, 0x55, 0x55]) := rfl

end FrontEnd.Memory
