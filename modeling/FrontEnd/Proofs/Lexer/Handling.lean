import FrontEnd.Proofs.Lexer.ScratchFrame
import FrontEnd.Proofs.Lexer.Stops

/-!
# Handling a lexer

A caller may move the cursor of a lexer by hand, look ahead, take tokens and draw from the iterator,
in any order. Whatever it does, the cursor and the character that it would go back to stand where
draining the source comes past (`cursor_stays_on_units`).
-/

namespace FrontEnd.Lexer

open Memory (Arena)
open Utf8 (Boundary Visits)

/-! ### What a caller does -/

/-- One use of a lexer. -/
inductive Use where
  | advance
  | advanceMatching (expected : Char)
  | rewind
  | peek (delta : Nat)
  | token
  | next
  deriving DecidableEq, Repr

/-- What a use comes back with. -/
inductive Reply where
  | character (found : Option Char)
  | matched (taken : Bool)
  | moved
  | read (result : Result)
  | drew (result? : Option Result)
  deriving DecidableEq, Repr

/-- Carries a use out. -/
def Use.run : Use → LexerM Reply
  | advance => return .character (← Lexer.advance)
  | advanceMatching expected => return .matched (← Lexer.advanceMatching expected)
  | rewind => do
    Lexer.rewind
    return .moved
  | peek delta => do
    let l ← get
    return .character (← orFault (l.peek delta))
  | token => return .read (← nextToken)
  | next => return .drew (← next?)

/-- A use with its fault caught. -/
def handle (l : Lexer) (use : Use) : Except Fault Reply × Lexer :=
  match use.run l with
  | .ok reply l' => (.ok reply, l')
  | .error fault l' => (.error fault, l')

/-- The lexer after some uses, whatever faults among them. -/
def handled (l : Lexer) (uses : List Use) : Lexer :=
  uses.foldl (fun l use => (l.handle use).2) l

/-- What some uses come back with, one after the other. -/
def replies (l : Lexer) : List Use → List (Except Fault Reply)
  | [] => []
  | use :: uses => (l.handle use).1 :: (l.handle use).2.replies uses

variable {l l' : Lexer} {use : Use} {reply : Reply} {answer : Except Fault Reply}

theorem handle_of_ok (ran : use.run l = .ok reply l') : l.handle use = (.ok reply, l') := by
  unfold handle
  rw [ran]

/-! ### Where the cursor stands -/

/-- The cursor stands between units, and so does the place that it would go back to. -/
structure Aligned (l : Lexer) : Prop where
  previous : Boundary l.source l.previous
  current : Boundary l.source l.current
  ordered : l.previous ≤ l.current

/-- What a use leaves of a lexer that is aligned. -/
structure Handles (l l' : Lexer) (answer : Except Fault Reply) : Prop where
  source : l'.source = l.source
  aligned : l'.Aligned
  answers : l.scratch.Usable → l'.scratch.Usable ∧ ∃ reply, answer = .ok reply

theorem Handles.of_ok (ran : use.run l = .ok reply l') (source : l'.source = l.source)
    (scratch : l'.scratch = l.scratch) (aligned : l'.Aligned) :
    Handles l (l.handle use).2 (l.handle use).1 := by
  rw [handle_of_ok ran]
  exact ⟨source, aligned, fun usable => ⟨by rwa [scratch], reply, rfl⟩⟩

/-! ### The cursor by hand -/

theorem ahead_eq_ok (inside : l.current ≤ l.source.length) :
    Buffer.sliceFrom l.source l.current = .ok l.ahead := if_pos inside

theorem ahead_eq_nil_iff : l.ahead = [] ↔ l.source.length ≤ l.current := List.drop_eq_nil_iff

theorem ahead_ne_nil_iff : l.ahead ≠ [] ↔ l.current < l.source.length := by
  rw [Ne, ahead_eq_nil_iff, Nat.not_le]

/-- The lexer after the character ahead, if there is one. -/
def stepped (l : Lexer) : Lexer :=
  if l.ahead = [] then l
  else { l with previous := l.current, current := l.current + (Utf8.decode l.ahead).len }

theorem stepped_at_end (nothing : l.ahead = []) : l.stepped = l := if_pos nothing

theorem stepped_of_ahead (more : l.ahead ≠ []) :
    l.stepped =
      { l with previous := l.current, current := l.current + (Utf8.decode l.ahead).len } :=
  if_neg more

theorem advance_eq (inside : l.current ≤ l.source.length) :
    advance l = .ok (Utf8.front? l.ahead) l.stepped := by
  unfold advance stepped
  rw [run_get_bind, run_orFault_ok (ahead_eq_ok inside)]
  cases l.ahead with
  | nil => rfl
  | cons lead rest => rfl

theorem handle_advance (inside : l.current ≤ l.source.length) :
    l.handle .advance = (.ok (.character (Utf8.front? l.ahead)), l.stepped) :=
  handle_of_ok (run_bind_ok (advance_eq inside))

theorem peek_eq (inside : l.current ≤ l.source.length) (delta : Nat) :
    l.peek delta = .ok ((Utf8.units l.ahead)[delta]?.map Utf8.Decoded.char) := by
  unfold peek
  rw [Utf8.Cursor.startAt_eq_ok_iff.mpr ⟨inside, rfl⟩]
  rfl

theorem run_peek (inside : l.current ≤ l.source.length) (delta : Nat) :
    (Use.peek delta).run l =
      .ok (.character ((Utf8.units l.ahead)[delta]?.map Utf8.Decoded.char)) l := by
  unfold Use.run
  dsimp only
  rw [run_get_bind, run_orFault_ok (peek_eq inside delta)]
  rfl

theorem handle_peek (inside : l.current ≤ l.source.length) (delta : Nat) :
    l.handle (.peek delta) =
      (.ok (.character ((Utf8.units l.ahead)[delta]?.map Utf8.Decoded.char)), l) :=
  handle_of_ok (run_peek inside delta)

theorem run_advanceMatching (inside : l.current ≤ l.source.length) (expected : Char) :
    advanceMatching expected l =
      if Utf8.front? l.ahead = some expected then .ok true l.stepped else .ok false l := by
  have looks := peek_eq inside 0
  rw [← Utf8.front?_eq_units] at looks
  unfold advanceMatching
  rw [run_get_bind, run_orFault_ok looks]
  by_cases matched : Utf8.front? l.ahead = some expected
  · rw [if_pos matched, if_pos matched, run_bind_ok (advance_eq inside)]
    rfl
  · rw [if_neg matched, if_neg matched]
    rfl

theorem advanceMatching_eq (inside : l.current ≤ l.source.length) (expected : Char) :
    ∃ taken, advanceMatching expected l = .ok taken (if taken then l.stepped else l) := by
  have ran := run_advanceMatching inside expected
  split at ran
  · exact ⟨true, ran⟩
  · exact ⟨false, ran⟩

theorem handle_advanceMatching (inside : l.current ≤ l.source.length) (expected : Char) :
    l.handle (.advanceMatching expected) =
      if Utf8.front? l.ahead = some expected then (.ok (.matched true), l.stepped)
      else (.ok (.matched false), l) := by
  have ran := run_advanceMatching inside expected
  split at ran
  · rename_i matched
    rw [if_pos matched]
    exact handle_of_ok (run_bind_ok ran)
  · rename_i other
    rw [if_neg other]
    exact handle_of_ok (run_bind_ok ran)

theorem Aligned.stepped (h : l.Aligned) : l.stepped.Aligned := by
  unfold Lexer.stepped
  split
  · exact h
  · rename_i more
    exact ⟨h.current, h.current.add (.unit more), Nat.le_add_right _ _⟩

theorem source_stepped (l : Lexer) : l.stepped.source = l.source := by
  unfold stepped
  split <;> rfl

theorem scratch_stepped (l : Lexer) : l.stepped.scratch = l.scratch := by
  unfold stepped
  split <;> rfl

/-! ### Tokens -/

theorem Aligned.call (h : l.Aligned) : l.call.2.source = l.source ∧ l.call.2.Aligned := by
  have stops := scan_boundary l.ahead
  rw [call_eq h.current.le]
  unfold passed
  split
  · exact ⟨rfl, h.previous, h.current, h.ordered⟩
  · refine ⟨rfl, ?_, h.current.add stops, ?_⟩
    · exact h.current.add (stops.of_take (.lastStart _))
    · have within := (Boundary.lastStart (l.ahead.take (scan l.ahead).len)).le
      rw [List.length_take] at within
      dsimp only
      omega

theorem call_handles (h : l.Aligned) :
    l.call.2.source = l.source ∧ l.call.2.Aligned ∧
      (l.scratch.Usable → l.call.2.scratch.Usable ∧ ∃ result, l.call.1 = .ok result) := by
  obtain ⟨source, aligned⟩ := h.call
  refine ⟨source, aligned, fun usable => ?_⟩
  obtain ⟨result, l', called, onward⟩ := call_onward h.current.le usable
  rw [called]
  exact ⟨onward.untouched.usable usable, result, rfl⟩

theorem handle_token (l : Lexer) : l.handle .token = (l.call.1.map .read, l.call.2) := by
  unfold handle call
  cases ran : nextToken l with
  | error fault l' => rw [show Use.token.run l = .error fault l' from run_bind_error ran]; rfl
  | ok result l' => rw [show Use.token.run l = .ok (.read result) l' from run_bind_ok ran]; rfl

theorem handle_next (l : Lexer) :
    l.handle .next =
      match next? l with
      | .ok result? l' => (.ok (.drew result?), l')
      | .error fault l' => (.error fault, l') := by
  unfold handle
  cases ran : next? l with
  | error fault l' => rw [show Use.next.run l = .error fault l' from run_bind_error ran]
  | ok result? l' => rw [show Use.next.run l = .ok (.drew result?) l' from run_bind_ok ran]

theorem next_handles (h : l.Aligned) :
    Handles l (l.handle .next).2 (l.handle .next).1 := by
  have same (l' : Lexer) (source : l'.source = l.source) (previous : l'.previous = l.previous)
      (current : l'.current = l.current) : l'.Aligned := by
    obtain ⟨before, here, ordered⟩ := h
    exact ⟨by rwa [source, previous], by rwa [source, current], by rwa [previous, current]⟩
  have draws := next?_eq l
  rw [handle_next]
  split at draws
  · rw [draws]
    exact ⟨rfl, h, fun usable => ⟨usable, _, rfl⟩⟩
  split at draws
  · split at draws
    · rw [draws]
      exact ⟨rfl, same _ rfl rfl rfl, fun usable => ⟨usable, _, rfl⟩⟩
    · rw [draws]
      exact ⟨rfl, same _ rfl rfl rfl, fun usable => ⟨usable, _, rfl⟩⟩
  · obtain ⟨source, aligned, answers⟩ := call_handles (same l.counted rfl rfl rfl)
    rw [draws]
    cases called : l.counted.call with
    | mk outcome l' =>
      rw [called] at source aligned answers
      cases outcome with
      | error fault =>
        refine ⟨source, aligned, fun usable => ?_⟩
        obtain ⟨-, result, impossible⟩ := answers usable
        cases impossible
      | ok result =>
        exact ⟨source, ⟨aligned.previous, aligned.current, aligned.ordered⟩,
          fun usable => ⟨(answers usable).1, _, rfl⟩⟩

/-! ### Any uses -/

theorem handle_handles (h : l.Aligned) (use : Use) :
    Handles l (l.handle use).2 (l.handle use).1 := by
  have inside := h.current.le
  cases use with
  | advance =>
    exact .of_ok (run_bind_ok (advance_eq inside)) (source_stepped l) (scratch_stepped l) h.stepped
  | advanceMatching expected =>
    obtain ⟨taken, ran⟩ := advanceMatching_eq inside expected
    cases taken with
    | true => exact .of_ok (run_bind_ok ran) (source_stepped l) (scratch_stepped l) h.stepped
    | false => exact .of_ok (run_bind_ok ran) rfl rfl h
  | rewind =>
    have goes_back : Use.rewind.run l = .ok .moved { l with current := l.previous } := rfl
    exact .of_ok goes_back rfl rfl ⟨h.previous, h.previous, Nat.le_refl _⟩
  | peek delta =>
    exact .of_ok (run_peek inside delta) rfl rfl h
  | token =>
    obtain ⟨source, aligned, answers⟩ := call_handles h
    rw [handle_token]
    refine ⟨source, aligned, fun usable => ?_⟩
    obtain ⟨still, result, answer⟩ := answers usable
    exact ⟨still, .read result, by rw [answer]; rfl⟩
  | next => exact next_handles h

theorem handled_aligned (uses : List Use) (h : l.Aligned) :
    (l.handled uses).source = l.source ∧ (l.handled uses).Aligned := by
  induction uses generalizing l with
  | nil => exact ⟨rfl, h⟩
  | cons use uses ih =>
    have handles := handle_handles h use
    obtain ⟨source, aligned⟩ := ih handles.aligned
    exact ⟨source.trans handles.source, aligned⟩

theorem replies_ok (uses : List Use) (h : l.Aligned) (usable : l.scratch.Usable) :
    ∀ answer ∈ l.replies uses, ∃ reply, answer = .ok reply := by
  induction uses generalizing l with
  | nil => simp [replies]
  | cons use uses ih =>
    have handles := handle_handles h use
    obtain ⟨still, answered⟩ := handles.answers usable
    simp only [replies, List.forall_mem_cons]
    exact ⟨answered, ih handles.aligned still⟩

theorem aligned_new (source : List UInt8) (scratch : Arena) (options : Options) :
    Aligned { source, scratch, options } :=
  ⟨.start source, .start source, Nat.le_refl 0⟩

/-- However a lexer is used, its cursor and the place it would go back to are offsets in order that
draining the source comes past. Over a usable scratch arena no use faults. -/
theorem cursor_stays_on_units (source : List UInt8) (scratch : Arena) (options : Options)
    (uses : List Use) :
    let l : Lexer := { source, scratch, options }
    (l.handled uses).previous ≤ (l.handled uses).current ∧
    (l.handled uses).current ≤ source.length ∧
    Visits source (l.handled uses).previous ∧
    Visits source (l.handled uses).current ∧
    (scratch.Usable → ∀ answer ∈ l.replies uses, ∃ reply, answer = .ok reply) := by
  intro l
  have starts : l.Aligned := aligned_new source scratch options
  obtain ⟨same, previous, current, ordered⟩ := handled_aligned uses starts
  rw [same] at previous current
  exact ⟨ordered, current.le, previous.visits, current.visits, replies_ok uses starts⟩

/-- `é 1_0` and the front of a sequence that is cut off, read and taken back over a scratch arena in
use: the second half of the numeral is read on its own, and the cursor goes back between the two
bytes of the cut sequence, which are units of their own. -/
theorem cursor_stays_on_units_malformed :
    let source : List UInt8 := [0xC3, 0xA9, 0x20, 0x31, 0x5F, 0x30, 0xE2, 0x82, 0x22]
    let scratch : Arena :=
      { id := 1, address := 4096, data := List.replicate 32 7, offset := 3, last? := some 0 }
    let uses : List Use :=
      [.token, .rewind, .peek 9, .next, .advance, .token, .rewind, .token, .advanceMatching '"',
        .token, .next, .rewind]
    let l : Lexer := { source, scratch }
    (l.handled uses).current = 7 ∧ (l.handled uses).previous = 7 ∧ Visits source 7 ∧
      ∀ answer ∈ l.replies uses, ∃ reply, answer = .ok reply := by
  intro source scratch uses l
  have usable : scratch.Usable := ⟨by decide, by decide, by decide⟩
  obtain ⟨-, -, -, visits, answers⟩ := cursor_stays_on_units source scratch {} uses
  have stands : (l.handled uses).previous = 7 ∧ (l.handled uses).current = 7 := by decide +kernel
  have visits : Visits source (l.handled uses).current := visits
  rw [stands.2] at visits
  exact ⟨stands.2, stands.1, visits, answers usable⟩

end FrontEnd.Lexer
