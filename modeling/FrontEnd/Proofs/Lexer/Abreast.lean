import FrontEnd.Proofs.Lexer.Exhaustion
import FrontEnd.Proofs.Lexer.ScratchFrame

/-!
# One source over two scratch arenas

Drained over two arenas, a source yields as many results, from the same places of it. Only a numeral
with separators can come out differently, where one of the arenas has no room for it
(`scratch_cannot_steer`).
-/

namespace FrontEnd.Lexer

open Buffer (window)
open Memory (Arena)

variable {l l' m m' : Lexer} {a b : Arena} {result result' : Result}
  {results results' : List Result}

/-- Where the `k`th result drawn from an iterator starts. -/
def bound (l : Lexer) (k : Nat) : Nat := (l.drawn k).current

/-- What the `k`th result drawn from an iterator takes of the source. -/
def consumed (l : Lexer) (k : Nat) : List UInt8 :=
  window l.source (l.bound k) (l.bound (k + 1) - l.bound k)

/-- Two results from the same bytes over two arenas. They are the same, unless the bytes are a
numeral with separators and one of the arenas is exhausted. Each is exhausted just if it has no room
for the digits. -/
structure Compares (a b : Arena) (start : Nat) (lexeme : List UInt8) (r r' : Result) : Prop where
  agrees : r = r' ∨ Separated lexeme ∧ (Exhausted start r ∨ Exhausted start r')
  left : ∀ offset, Exhausted offset r ↔ offset = start ∧ Unstageable a lexeme
  right : ∀ offset, Exhausted offset r' ↔ offset = start ∧ Unstageable b lexeme

/-- The same lexers but for their scratch arenas, of which one is like `a` and the other like `b`. -/
structure Abreast (a b : Arena) (l m : Lexer) : Prop where
  inside : l.current ≤ l.source.length
  same : m = { l with scratch := m.scratch }
  left : a.Alike l.scratch
  right : b.Alike m.scratch

theorem unstageable_alike {a' : Arena} {lexeme : List UInt8} (alike : a.Alike a') :
    Unstageable a' lexeme ↔ Unstageable a lexeme := by
  unfold Unstageable
  simp only [alike.hasRoom_iff]

theorem compares_of_settled {start : Nat} {lexeme : List UInt8} {free : Result}
    (never : ∀ offset, ¬Exhausted offset free) (left : Settled a lexeme start free result)
    (right : Settled b lexeme start free result') : Compares a b start lexeme result result' := by
  refine ⟨?_, fun _ => left.exhausted_iff never, fun _ => right.exhausted_iff never⟩
  obtain ⟨⟨digits, converts, separated, -⟩, exhausted⟩ | ⟨-, rfl⟩ := left
  · exact Or.inr ⟨⟨digits, converts, separated⟩, Or.inl exhausted⟩
  · obtain ⟨⟨digits, converts, separated, -⟩, exhausted⟩ | ⟨-, rfl⟩ := right
    · exact Or.inr ⟨⟨digits, converts, separated⟩, Or.inr exhausted⟩
    · exact Or.inl rfl

theorem Abreast.draw (h : Abreast a b l m) (placed : a.Placed) (placed' : b.Placed)
    (ran : next? l = .ok (some result) l') (ran' : next? m = .ok (some result') m') :
    Abreast a b l' m' ∧ l'.source = l.source ∧
      Compares a b l.current (window l.source l.current (l'.current - l.current)) result result' := by
  obtain ⟨inside, same, left, right⟩ := h
  obtain ⟨free, passes, uniform⟩ := exists_uniform inside
  rw [same] at ran'
  obtain ⟨⟨scratch, rfl, alike⟩, settled⟩ := uniform.draws (left.placed placed) ran
  obtain ⟨⟨scratch', rfl, alike'⟩, settled'⟩ := uniform.draws (right.placed placed') ran'
  refine ⟨⟨?_, rfl, left.trans alike, right.trans alike'⟩, uniform.source, ?_⟩
  · dsimp only
    rw [uniform.source]
    exact uniform.inside
  · unfold Settled at settled settled'
    rw [unstageable_alike left] at settled
    rw [unstageable_alike right] at settled'
    exact compares_of_settled uniform.never settled settled'

/-! ### Draining both -/

theorem bound_succ (ran : next? l = .ok (some result) l') (k : Nat) :
    l.bound (k + 1) = l'.bound k :=
  congrArg Lexer.current (drawn_succ ran k)

theorem consumed_succ (ran : next? l = .ok (some result) l') (source : l'.source = l.source)
    (k : Nat) : l.consumed (k + 1) = l'.consumed k := by
  unfold consumed
  rw [bound_succ ran, bound_succ ran, source]

theorem Abreast.current (h : Abreast a b l m) : l.current = m.current := by
  rw [h.same]

theorem Abreast.finished (h : Abreast a b l m) : m.finished = l.finished := by
  rw [h.same]

theorem Abreast.next?_none_iff (h : Abreast a b l m) :
    (∃ l', next? l = .ok none l') ↔ ∃ m', next? m = .ok none m' := by
  constructor
  · rintro ⟨l', ran⟩
    have done := (next?_none ran).1
    rw [← h.finished] at done
    exact ⟨m, next?_finished done⟩
  · rintro ⟨m', ran⟩
    have done := (next?_none ran).1
    rw [h.finished] at done
    exact ⟨l, next?_finished done⟩

theorem Abreast.collect (h : Abreast a b l m) (placed : a.Placed) (placed' : b.Placed) {count : Nat}
    (ran : collect count l = .ok results l') (ran' : collect count m = .ok results' m') :
    results.length = results'.length ∧ l'.current = m'.current ∧
      ∀ k (before : k < results.length) (before' : k < results'.length),
        l.bound k = m.bound k ∧ l.bound (k + 1) = m.bound (k + 1) ∧
          Compares a b (l.bound k) (l.consumed k) results[k] results'[k] := by
  induction count generalizing l m results results' with
  | zero =>
    cases ran
    cases ran'
    exact ⟨rfl, h.current, nofun⟩
  | succ count ih =>
    rw [Lexer.collect] at ran ran'
    obtain ⟨draw, l₁, first, rest⟩ := run_bind_eq_ok ran
    obtain ⟨draw', m₁, first', rest'⟩ := run_bind_eq_ok ran'
    -- neither iterator ends before the other
    cases draw with
    | none =>
      obtain ⟨m₂, ended⟩ := h.next?_none_iff.mp ⟨l₁, first⟩
      cases first'.symm.trans ended
      obtain ⟨-, rfl⟩ := next?_none first
      obtain ⟨-, rfl⟩ := next?_none first'
      cases rest
      cases rest'
      exact ⟨rfl, h.current, nofun⟩
    | some result =>
      cases draw' with
      | none =>
        obtain ⟨l₂, ended⟩ := h.next?_none_iff.mpr ⟨m₁, first'⟩
        cases first.symm.trans ended
      | some result' =>
        obtain ⟨later, l₂, collected, answers⟩ := run_bind_eq_ok rest
        obtain ⟨later', m₂, collected', answers'⟩ := run_bind_eq_ok rest'
        cases answers
        cases answers'
        obtain ⟨abreast, source, compares⟩ := h.draw placed placed' first first'
        obtain ⟨lengths, ends, along⟩ := ih abreast collected collected'
        refine ⟨congrArg (· + 1) lengths, ends, fun k before before' => ?_⟩
        rw [bound_succ first, bound_succ first']
        cases k with
        | zero =>
          refine ⟨h.current, abreast.current, ?_⟩
          unfold consumed
          rw [bound_succ first]
          exact compares
        | succ k =>
          rw [bound_succ first, bound_succ first', consumed_succ first source]
          exact along k (Nat.lt_of_succ_lt_succ before) (Nat.lt_of_succ_lt_succ before')

theorem drain_of_lexIn {source : List UInt8} {options : Options} {stop : Nat} {after : Arena}
    (ran : lexIn source options a = .ok (results, stop) after) :
    ∃ l', drain { source, scratch := a, options } = .ok results l' ∧ stop = l'.current := by
  unfold lexIn at ran
  cases drained : drain { source, scratch := a, options } with
  | error fault l' =>
    rw [drained] at ran
    cases ran
  | ok results' l' =>
    rw [drained] at ran
    cases ran
    exact ⟨l', rfl, rfl⟩

/-- Drained over two arenas, a source yields as many results, which start and end at the same places.
They are the same, but for numerals with separators: such a numeral is an error, at its start, just
over an arena that has no room for its digits. Over an arena that can count one more region, draining
comes to an end. -/
theorem scratch_cannot_steer (source : List UInt8) (options : Options) {a b : Arena}
    (placed : a.Placed) (placed' : b.Placed) :
    let l : Lexer := { source, scratch := a, options }
    let m : Lexer := { source, scratch := b, options }
    (a.regions.toNat + 1 < UInt32.size →
      ∃ results stop after, lexIn source options a = .ok (results, stop) after) ∧
    ∀ {results results' stop stop' after after'},
      lexIn source options a = .ok (results, stop) after →
      lexIn source options b = .ok (results', stop') after' →
      (l.drawn results.length).finished = true ∧ (m.drawn results'.length).finished = true ∧
      results.length = results'.length ∧ stop = stop' ∧
      ∀ k (before : k < results.length) (before' : k < results'.length),
        next? (l.drawn k) = .ok (some results[k]) (l.drawn (k + 1)) ∧
        next? (m.drawn k) = .ok (some results'[k]) (m.drawn (k + 1)) ∧
        l.bound k = m.bound k ∧ l.bound (k + 1) = m.bound (k + 1) ∧
        Compares a b (l.bound k) (l.consumed k) results[k] results'[k] := by
  intro l m
  have inside : l.current ≤ l.source.length := Nat.zero_le _
  refine ⟨fun countable => ?_, fun {results results' stop stop' after after'} ran ran' => ?_⟩
  · obtain ⟨results, l', ran, -⟩ := collect_onward (l := l) (source.length + 2) inside
      (placed.usable countable)
    have ran : drain l = .ok results l' := ran
    exact ⟨results, l'.current, l'.scratch, by unfold lexIn; rw [ran]⟩
  · obtain ⟨l', drained, rfl⟩ := drain_of_lexIn ran
    obtain ⟨m', drained', rfl⟩ := drain_of_lexIn ran'
    have abreast : Abreast a b l m := ⟨inside, rfl, .refl a, .refl b⟩
    obtain ⟨lengths, ends, along⟩ := abreast.collect placed placed' drained drained'
    obtain ⟨last, -, draws, -⟩ := collect_draws drained
    obtain ⟨last', -, draws', -⟩ := collect_draws drained'
    refine ⟨last ▸ drain_finishes drained inside, last' ▸ drain_finishes drained' inside, lengths,
      ends, fun k before before' => ⟨draws k before, draws' k before', along k before before'⟩⟩

/-- `1_00 2_5` over an arena with room and over one of two bytes, which has none for `100`. -/
theorem scratch_cannot_steer_narrow :
    let source : List UInt8 := [0x31, 0x5F, 0x30, 0x30, 0x20, 0x32, 0x5F, 0x35]
    let wide : Arena :=
      { id := 1, address := 4096, data := List.replicate 32 7, offset := 3, last? := some 0 }
    let narrow : Arena := { id := 2, address := 64, data := [9, 9] }
    wide.Placed ∧ narrow.Placed ∧ Unstageable narrow (source.take 4) ∧
    ∃ results results' stop after after',
      lexIn source {} wide = .ok (results, stop) after ∧
      lexIn source {} narrow = .ok (results', stop) after' ∧
      results.length = 4 ∧ results'.length = 4 ∧
      results[0]? = some (.ok
        { kind := .literal .integer
          offset := 0
          lexeme := [0x31, 0x5F, 0x30, 0x30]
          value := .integer 100 }) ∧
      results'[0]? = some (.error ⟨"<No file>", 0, .scratchExhausted (.outOfMemory 3 2)⟩) ∧
      results[2]? = results'[2]? := by
  intro source wide narrow
  have placed : wide.Placed := ⟨by decide, by decide⟩
  have placed' : narrow.Placed := ⟨by decide, by decide⟩
  have digits : Digits 10 (source.take 4) := ⟨by decide, List.all_eq_true.mp rfl⟩
  have full : Unstageable narrow (source.take 4) :=
    ⟨_, ⟨_, _, .decimal digits, rfl, rfl⟩, by decide, by decide⟩
  obtain ⟨drains, together⟩ := scratch_cannot_steer source {} placed placed'
  obtain ⟨drains', -⟩ := scratch_cannot_steer source {} placed' placed
  obtain ⟨results, stop, after, ran⟩ := drains (by decide)
  obtain ⟨results', stop', after', ran'⟩ := drains' (by decide)
  obtain ⟨-, -, lengths, rfl, -⟩ := together ran ran'
  have shown : (match lexIn source {} wide with
      | .ok (results, _) _ => (results.length, results[0]?, results[2]?)
      | .error _ _ => (0, none, none)) =
    (4, some (.ok
        { kind := .literal .integer
          offset := 0
          lexeme := [0x31, 0x5F, 0x30, 0x30]
          value := .integer 100 }),
      some (.ok
        { kind := .literal .integer
          offset := 5
          lexeme := [0x32, 0x5F, 0x35]
          value := .integer 25 })) := by decide +kernel
  have shown' : (match lexIn source {} narrow with
      | .ok (results, _) _ => (results[0]?, results[2]?)
      | .error _ _ => (none, none)) =
    (some (.error ⟨"<No file>", 0, .scratchExhausted (.outOfMemory 3 2)⟩),
      some (.ok
        { kind := .literal .integer
          offset := 5
          lexeme := [0x32, 0x5F, 0x35]
          value := .integer 25 })) := by decide +kernel
  rw [ran] at shown
  rw [ran'] at shown'
  simp only [Prod.mk.injEq] at shown shown'
  obtain ⟨length, first, third⟩ := shown
  obtain ⟨first', third'⟩ := shown'
  exact ⟨placed, placed', full, results, results', stop, after, after', ran, ran', length,
    lengths ▸ length, first, first', third.trans third'.symm⟩

end FrontEnd.Lexer
