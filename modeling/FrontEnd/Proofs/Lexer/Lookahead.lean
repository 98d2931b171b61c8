import FrontEnd.Proofs.Lexer.Handling

/-!
# Looking ahead

Looking ahead runs a cursor over a copy of the place where the lexer stands; taking characters moves
the lexer itself. `lookahead_predicts_advancing` says that the two agree on every source, at any
distance, and so that a character is taken on demand exactly if it is the next to be taken.
-/

namespace FrontEnd.Lexer

open Memory (Arena)
open Utf8 (Cursor Decoded decode units)

variable {l : Lexer}

/-! ### Advancing several times -/

theorem ahead_stepped (l : Lexer) : l.stepped.ahead = l.ahead.drop (decode l.ahead).len := by
  unfold stepped
  split
  · rename_i nothing
    rw [nothing, List.drop_nil]
  · rw [ahead, ahead, List.drop_drop]

/-- An advance leaves the units ahead but the first. -/
theorem units_stepped (l : Lexer) : units l.stepped.ahead = (units l.ahead).tail := by
  rw [ahead_stepped]
  by_cases nothing : l.ahead = []
  · rw [nothing, List.drop_nil]
    rfl
  · rw [Utf8.units_eq_cons nothing]
    rfl

theorem units_advanced (aligned : l.Aligned) (count : Nat) :
    units (l.handled (List.replicate count .advance)).ahead = (units l.ahead).drop count := by
  induction count generalizing l with
  | zero => rfl
  | succ count ih =>
    show units ((l.handle .advance).2.handled (List.replicate count .advance)).ahead = _
    rw [handle_advance aligned.current.le, ih aligned.stepped, units_stepped, List.drop_tail]

/-- What an advance finds after `count` others. -/
theorem front?_advanced (aligned : l.Aligned) (count : Nat) :
    Utf8.front? (l.handled (List.replicate count .advance)).ahead =
      (units l.ahead)[count]?.map Decoded.char := by
  rw [Utf8.front?_eq_units, units_advanced aligned, List.getElem?_drop, Nat.add_zero]

/-! ### Prediction -/

theorem peek_predicts (aligned : l.Aligned) (delta : Nat) :
    l.handle (.peek delta) =
      (((l.handled (List.replicate delta .advance)).handle .advance).1, l) := by
  obtain ⟨-, there⟩ := handled_aligned (List.replicate delta .advance) aligned
  rw [handle_peek aligned.current.le, handle_advance there.current.le, front?_advanced aligned]

/-- Nothing is found only at the end. -/
theorem advanced_at_end_iff (aligned : l.Aligned) (count : Nat) :
    (units l.ahead)[count]?.map Decoded.char = none ↔
      (l.handled (List.replicate count .advance)).current = l.source.length := by
  obtain ⟨same, there⟩ := handled_aligned (List.replicate count .advance) aligned
  have inside := there.current.le
  rw [← front?_advanced aligned, Utf8.front?_eq_none_iff, ahead_eq_nil_iff, same]
  rw [same] at inside
  exact ⟨Nat.le_antisymm inside, Eq.ge⟩

/-- However a lexer has been used, what its cursor over the source reads ahead, by stepping, is what
the lexer comes to when it advances as often, and then nothing. So a character asked for is taken,
with the bytes of its unit, exactly if it is the next. -/
theorem lookahead_predicts_advancing (source : List UInt8) (scratch : Arena) (options : Options)
    (uses : List Use) :
    let l : Lexer := ({ source, scratch, options } : Lexer).handled uses
    (∀ delta,
      let there := l.handled (List.replicate delta .advance)
      l.handle (.peek delta) = ((there.handle .advance).1, l) ∧
      ∃ cursor found, Cursor.startAt source l.current = .ok cursor ∧
        found = (cursor.nth? delta).map Decoded.char ∧
        l.peek delta = .ok found ∧ (there.handle .advance).1 = .ok (.character found) ∧
        (found = none ↔ there.current = source.length)) ∧
    ∀ expected,
      ((l.handle .advance).1 = .ok (.character (some expected)) →
        l.handle (.advanceMatching expected) = (.ok (.matched true), (l.handle .advance).2) ∧
        (l.handle .advance).2.current = l.current + (decode (source.drop l.current)).len) ∧
      ((l.handle .advance).1 ≠ .ok (.character (some expected)) →
        l.handle (.advanceMatching expected) = (.ok (.matched false), l)) := by
  intro l
  have starts : Aligned { source, scratch, options } := aligned_new source scratch options
  obtain ⟨same, aligned⟩ : l.source = source ∧ l.Aligned := handled_aligned uses starts
  have inside := aligned.current.le
  refine ⟨fun delta => ?_, fun expected => ?_⟩
  · intro there
    have predicts := peek_predicts aligned delta
    have ends := advanced_at_end_iff aligned delta
    have opens : Cursor.startAt l.source l.current = .ok ⟨l.source, l.current, l.current⟩ :=
      Cursor.startAt_eq_ok_iff.mpr ⟨inside, rfl⟩
    rw [same] at opens ends
    refine ⟨predicts, _, _, opens, rfl, ?_, ?_, ?_⟩
    · rw [peek_eq inside, Cursor.nth?_eq, ← same]
      rfl
    · have reply : (l.handle (.peek delta)).1 = (there.handle .advance).1 := by rw [predicts]
      rw [← reply, handle_peek inside, Cursor.nth?_eq, ← same]
      rfl
    · rw [Cursor.nth?_eq, ← ends, ← same]
      rfl
  · have advances := handle_advance inside
    have matching := handle_advanceMatching inside expected
    rw [advances]
    constructor
    · intro found
      have next : Utf8.front? l.ahead = some expected := Reply.character.inj (Except.ok.inj found)
      have more : l.ahead ≠ [] := by
        intro nothing
        rw [nothing] at next
        cases next
      refine ⟨by rw [matching, if_pos next], ?_⟩
      rw [stepped_of_ahead more, ahead, same]
    · intro other
      rw [matching, if_neg]
      rintro next
      exact other (by rw [next])

/-- `é` and a cut sequence, taken back in part: from the second byte of the cut sequence there are two
characters, and the second of them is taken on demand where the first is not. -/
theorem lookahead_predicts_advancing_malformed :
    let source : List UInt8 := [0xC3, 0xA9, 0xE2, 0x82, 0x31]
    let scratch : Arena := { id := 1, address := 4096, data := [] }
    let l := ({ source, scratch } : Lexer).handled [.token, .next, .rewind, .advance]
    l.current = 3 ∧
    l.handle (.peek 1) = (.ok (.character (some '1')), l) ∧
    l.handle (.peek 2) = (.ok (.character none), l) ∧
    l.handle (.advanceMatching '1') = (.ok (.matched false), l) ∧
    (l.handle (.advanceMatching '\uFFFD')).1 = .ok (.matched true) ∧
    (l.handle (.advanceMatching '\uFFFD')).2.current = 4 := by
  intro source scratch l
  obtain ⟨predicts, demands⟩ :=
    lookahead_predicts_advancing source scratch {} [.token, .next, .rewind, .advance]
  have three : l.current = 3 := by decide +kernel
  have first : (l.handle .advance).1 = .ok (.character (some '\uFFFD')) := by decide +kernel
  have other : (l.handle .advance).1 ≠ .ok (.character (some '1')) := by
    rw [first]
    decide
  have second : ((l.handled (List.replicate 1 .advance)).handle .advance).1 =
      .ok (.character (some '1')) := by decide +kernel
  have third : ((l.handled (List.replicate 2 .advance)).handle .advance).1 =
      .ok (.character none) := by decide +kernel
  obtain ⟨takes, moved⟩ := (demands '\uFFFD').1 first
  refine ⟨three, ?_, ?_, (demands '1').2 other, ?_, ?_⟩
  · exact (predicts 1).1.trans (congrArg (·, l) second)
  · exact (predicts 2).1.trans (congrArg (·, l) third)
  · exact congrArg Prod.fst takes
  · rw [takes, moved, three]
    decide +kernel

end FrontEnd.Lexer
