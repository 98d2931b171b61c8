import FrontEnd.Proofs.Lexer.Handling
import FrontEnd.Proofs.Utf8.Runs

/-!
# Going back

A lexer keeps one place to go back to, where the character taken last starts; every use that takes
characters sets it, and no other. Going back right after an advance therefore undoes it if it has
found a character, and takes back the character before the end if it has found the end
(`rewind_undoes_advance`).
-/

namespace FrontEnd.Lexer

open Memory (Arena)
open Utf8 (Boundary decode)

variable {l l' : Lexer}

/-! ### The character taken last -/

/-- The place to go back to has a unit, unless the source is empty, and the cursor stands no further
than after that. -/
structure Recalls (l : Lexer) : Prop where
  inside : l.source = [] ∨ l.previous < l.source.length
  recent : l.current ≤ l.previous + (decode (l.source.drop l.previous)).len

theorem recalls_new (source : List UInt8) (scratch : Arena) (options : Options) :
    Recalls { source, scratch, options } := by
  refine ⟨?_, Nat.zero_le _⟩
  rw [← List.length_eq_zero_iff]
  exact Nat.eq_zero_or_pos source.length

namespace Recalls

theorem congr (h : l.Recalls) (source : l'.source = l.source) (previous : l'.previous = l.previous)
    (current : l'.current = l.current) : l'.Recalls := by
  obtain ⟨inside, recent⟩ := h
  exact ⟨by rwa [source, previous], by rwa [source, previous, current]⟩

theorem stepped (h : l.Recalls) : l.stepped.Recalls := by
  unfold Lexer.stepped
  split
  · exact h
  · rename_i more
    exact ⟨Or.inr (ahead_ne_nil_iff.mp more), Nat.le_refl _⟩

/-- What a token leaves to go back to is its last unit, read as it stands in the source. -/
theorem passed (h : l.Recalls) (inside : l.current ≤ l.source.length) : l.passed.Recalls := by
  have cut : Boundary l.ahead (scan l.ahead).len := scan_boundary l.ahead
  have room := cut.le
  have left : l.ahead.length = l.source.length - l.current := List.length_drop
  unfold Lexer.passed
  split
  · exact h
  · rename_i some_len
    generalize (scan l.ahead).len = len at cut room some_len ⊢
    have length : (l.ahead.take len).length = len := by
      rw [List.length_take, Nat.min_eq_left room]
    have some_text : l.ahead.take len ≠ [] := List.ne_nil_of_length_pos (by omega)
    have ends := Utf8.lastStart_unit_ends some_text
    have last := Boundary.lastStart (l.ahead.take len)
    generalize Utf8.lastStart (l.ahead.take len) = start at ends last ⊢
    have pos := Utf8.decode_len_pos ((l.ahead.take len).drop start)
    rw [length] at ends
    have before : start < len := by omega
    rw [cut.decode_take last before] at ends
    have stands : decode (l.source.drop (l.current + start)) = decode (l.ahead.drop start) := by
      rw [ahead, List.drop_drop]
    refine ⟨Or.inr ?_, ?_⟩
    · show l.current + start < l.source.length
      omega
    · show l.current + len ≤ l.current + start + (decode (l.source.drop (l.current + start))).len
      rw [stands]
      omega

theorem call (h : l.Recalls) (inside : l.current ≤ l.source.length) : l.call.2.Recalls := by
  rw [call_eq inside]
  exact (h.passed inside).congr rfl rfl rfl

theorem next (h : l.Recalls) (inside : l.current ≤ l.source.length) :
    (l.handle .next).2.Recalls := by
  have draws := next?_eq l
  rw [handle_next]
  split at draws
  · rw [draws]
    exact h
  split at draws
  · split at draws
    · rw [draws]
      exact h.congr rfl rfl rfl
    · rw [draws]
      exact h.congr rfl rfl rfl
  · have counted : l.counted.Recalls := h.congr rfl rfl rfl
    have calls := counted.call inside
    rw [draws]
    cases called : l.counted.call with
    | mk outcome l' =>
      rw [called] at calls
      cases outcome with
      | error fault => exact calls
      | ok result => exact calls.congr rfl rfl rfl

theorem handle (h : l.Recalls) (aligned : l.Aligned) (use : Use) : (l.handle use).2.Recalls := by
  have inside := aligned.current.le
  cases use with
  | advance =>
    rw [handle_advance inside]
    exact h.stepped
  | advanceMatching expected =>
    rw [handle_advanceMatching inside]
    split
    · exact h.stepped
    · exact h
  | rewind => exact ⟨h.inside, Nat.le_add_right _ _⟩
  | peek delta =>
    rw [handle_peek inside]
    exact h
  | token =>
    rw [handle_token]
    exact h.call inside
  | next => exact h.next inside

theorem handled (h : l.Recalls) (aligned : l.Aligned) (uses : List Use) :
    (l.handled uses).Recalls := by
  induction uses generalizing l with
  | nil => exact h
  | cons use uses ih => exact ih (h.handle aligned use) (handle_handles aligned use).aligned

end Recalls

/-! ### An advance taken back -/

/-- The lexer that goes back right after it has advanced. -/
def takenBack (l : Lexer) : Lexer := ((l.handle .advance).2.handle .rewind).2

/-- Advancing is undone: the cursor is where it was, and advancing comes back with the same. -/
def Undoes (l : Lexer) : Prop :=
  l.takenBack.current = l.current ∧ (l.takenBack.handle .advance).1 = (l.handle .advance).1

instance : Decidable l.Undoes := inferInstanceAs (Decidable (_ ∧ _))

theorem takenBack_eq (inside : l.current ≤ l.source.length) :
    l.takenBack = { l.stepped with current := l.stepped.previous } := by
  rw [takenBack, handle_advance inside]
  rfl

theorem undoes_of_ahead (more : l.ahead ≠ []) : l.Undoes := by
  have inside : l.current ≤ l.source.length := (ahead_ne_nil_iff.mp more).le
  have back : l.takenBack = { l with previous := l.current } := by
    rw [takenBack_eq inside, stepped_of_ahead more]
  refine ⟨by rw [back], ?_⟩
  rw [back, handle_advance inside, handle_advance (l := { l with previous := l.current }) inside]
  rfl

/-- In an empty source there is no other place to go back to. -/
theorem undoes_of_empty (aligned : l.Aligned) (empty : l.source = []) : l.Undoes := by
  have inside := aligned.current.le
  have ordered := aligned.ordered
  rw [empty, List.length_nil] at inside
  have same : l.previous = l.current := by omega
  have nothing : l.ahead = [] := by rw [ahead, empty, List.drop_nil]
  have stays : l.takenBack = l := by
    rw [takenBack_eq aligned.current.le, stepped_at_end nothing, same]
  unfold Undoes
  rw [stays]
  exact ⟨rfl, rfl⟩

/-- At the end there is nothing to take back, and the character before the end is taken back. -/
theorem Recalls.takenBack_at_end (h : l.Recalls) (aligned : l.Aligned) (some_source : l.source ≠ [])
    (done : l.current = l.source.length) :
    l.takenBack.current < l.current ∧
    l.takenBack.current + (decode (l.source.drop l.takenBack.current)).len = l.source.length ∧
    (l.takenBack.handle .advance).1 =
      .ok (.character (some (decode (l.source.drop l.takenBack.current)).char)) := by
  have before := h.inside.resolve_left some_source
  have recent := h.recent
  have ends := aligned.previous.unit_le aligned.current (by omega)
  have nothing : l.ahead = [] := ahead_eq_nil_iff.mpr done.ge
  have back : l.takenBack = { l with current := l.previous } := by
    rw [takenBack_eq done.le, stepped_at_end nothing]
  have more : l.takenBack.ahead ≠ [] := by
    rw [back]
    exact ahead_ne_nil_iff.mpr before
  have again := handle_advance (ahead_ne_nil_iff.mp more).le
  rw [Utf8.front?_of_ne_nil more] at again
  rw [again, back]
  dsimp only
  exact ⟨by omega, by omega, rfl⟩

theorem Recalls.undoes_iff (h : l.Recalls) (aligned : l.Aligned) :
    l.Undoes ↔ l.current < l.source.length ∨ l.source = [] := by
  constructor
  · rintro ⟨returns, -⟩
    by_contra otherwise
    obtain ⟨past, some_source⟩ := not_or.mp otherwise
    have done : l.current = l.source.length := Nat.le_antisymm aligned.current.le (Nat.not_lt.mp past)
    exact absurd returns (Nat.ne_of_lt (h.takenBack_at_end aligned some_source done).1)
  · rintro (before | empty)
    · exact undoes_of_ahead (ahead_ne_nil_iff.mpr before)
    · exact undoes_of_empty aligned empty

/-- However a lexer has been used, going back undoes an advance exactly if that has found a character
or the source is empty. An advance that has found the end of another source is not undone: the cursor
goes back over the last character, and that is taken once more. -/
theorem rewind_undoes_advance (source : List UInt8) (scratch : Arena) (options : Options)
    (uses : List Use) :
    let l : Lexer := ({ source, scratch, options } : Lexer).handled uses
    (l.handle .advance).1 = .ok (.character (Utf8.front? (source.drop l.current))) ∧
    (l.Undoes ↔ l.current < source.length ∨ source = []) ∧
    (source ≠ [] → l.current = source.length →
      l.handle .advance = (.ok (.character none), l) ∧
      l.takenBack.current < l.current ∧
      l.takenBack.current + (decode (source.drop l.takenBack.current)).len = source.length ∧
      (l.takenBack.handle .advance).1 =
        .ok (.character (some (decode (source.drop l.takenBack.current)).char))) := by
  intro l
  have starts : Aligned { source, scratch, options } := aligned_new source scratch options
  have recalls : l.Recalls := (recalls_new source scratch options).handled starts uses
  obtain ⟨same, aligned⟩ : l.source = source ∧ l.Aligned := handled_aligned uses starts
  have advances := handle_advance aligned.current.le
  have undone := recalls.undoes_iff aligned
  have at_end := recalls.takenBack_at_end aligned
  have nothing_left : l.ahead = [] ↔ l.source.length ≤ l.current := ahead_eq_nil_iff
  rw [same] at undone at_end nothing_left
  refine ⟨?_, undone, fun some_source done => ⟨?_, at_end some_source done⟩⟩
  · rw [advances, ahead, same]
  · have nothing : l.ahead = [] := nothing_left.mpr done.ge
    rw [advances, nothing, stepped_at_end nothing]
    rfl

/-- `a`, a blank, `é` and a byte that starts no sequence. Before that byte an advance is undone. After
it the cursor goes back over it, though the advance in between has not moved. -/
theorem rewind_undoes_advance_malformed :
    let source : List UInt8 := [0x61, 0x20, 0xC3, 0xA9, 0xE2]
    let fresh : Lexer := { source, scratch := { id := 1, address := 4096, data := [] } }
    let before := fresh.handled [.token, .next, .peek 9, .token, .rewind, .advance]
    let after := fresh.handled [.token, .next, .peek 9, .token, .advanceMatching '\uFFFD']
    before.current = 4 ∧ before.Undoes ∧
    after.current = 5 ∧ after.handle .advance = (.ok (.character none), after) ∧ ¬after.Undoes ∧
    after.takenBack.current < 5 ∧
    (after.takenBack.handle .advance).1 = .ok (.character (some '\uFFFD')) := by
  intro source fresh before after
  obtain ⟨-, undone, -⟩ := rewind_undoes_advance source fresh.scratch {}
    [.token, .next, .peek 9, .token, .rewind, .advance]
  obtain ⟨-, kept, at_end⟩ := rewind_undoes_advance source fresh.scratch {}
    [.token, .next, .peek 9, .token, .advanceMatching '\uFFFD']
  have four : before.current = 4 := by decide +kernel
  have five : after.current = 5 := by decide +kernel
  have place : after.takenBack.current = 4 := by decide +kernel
  obtain ⟨finds, back, -, again⟩ := at_end (List.cons_ne_nil _ _) five
  refine ⟨four, undone.mpr (Or.inl ?_), five, finds, fun undoes => ?_, five ▸ back, ?_⟩
  · show before.current < 5
    omega
  · rcases kept.mp undoes with short | empty
    · exact absurd (five ▸ short) (by decide)
    · exact absurd empty (List.cons_ne_nil _ _)
  · rw [again, place]
    rfl

/-- The end of `a` is found where `a` ends, and going back from there comes to where it starts. -/
theorem end_is_not_undone :
    let l : Lexer := ({ source := [0x61], scratch := { id := 1, address := 4096, data := [] } } :
      Lexer).handled [.advance]
    l.current = 1 ∧ l.handle .advance = (.ok (.character none), l) ∧ l.takenBack.current = 0 ∧
      (l.takenBack.handle .advance).1 = .ok (.character (some 'a')) ∧ ¬l.Undoes := by
  decide +kernel

end FrontEnd.Lexer
