import FrontEnd.Proofs.Lexer.Numerals
import FrontEnd.Proofs.Lexer.Scratch

/-!
# Separators do not count

A number is read of the digits that are left when the separators have been dropped, whether they
came out of the scratch arena or straight from the source. `separators_do_not_count` compares a
numeral with the same numeral written without separators.
-/

namespace FrontEnd.Lexer

open Buffer (window)
open Memory (Arena)

variable {l l' m : Lexer} {a : Arena} {bytes text : List UInt8} {shape : Shape} {n : Numeral}
  {r : Reading} {result : Result}

theorem separator_not_mem_strip (digits : List UInt8) : separator ∉ strip digits := by
  simp [strip]

theorem staged_strip (a : Arena) (digits : List UInt8) :
    staged a (strip digits) = (.ok (.ok (strip digits)), a) :=
  staged_plain (separator_not_mem_strip digits) a

/-! ### Verdicts -/

/-- What a result says, wherever it stands: a kind with a value, or a cause. -/
def verdict : Result → Except Cause (TokenKind × TokenValue)
  | .ok token => .ok (token.kind, token.value)
  | .error e => .error e.cause

/-- An integer, a real, or an integer that is too large. -/
def Numeric : Except Cause (TokenKind × TokenValue) → Prop
  | .ok (kind, _) => kind = .literal .integer ∨ kind = .literal .real
  | .error cause => cause.kind = .integerOverflow

theorem verdict_present (fileName : String) (start : Nat) (lexeme : List UInt8) (r : Reading) :
    verdict (present fileName start lexeme r) = r.mapError Prod.snd := by
  cases r <;> rfl

/-- A number is read of the digits without separators. -/
theorem evaluate_of_numeric (read : (n.readIn a text).1 = .ok r)
    (numeric : Numeric (r.mapError Prod.snd)) : r = n.evaluate (strip (text.drop n.mark)) := by
  obtain evaluated | ⟨refusal, rfl⟩ := Numeral.readIn_ok read
  · exact evaluated
  · -- digits that the arena cannot hold are an error of another kind
    cases numeric

theorem Shape.Numberless.not_numeric {len : Nat} (none_read : shape.Numberless)
    (read : (shape.readIn a bytes len).1 = .ok r) : ¬Numeric (r.mapError Prod.snd) := by
  cases shape with
  | based => exact none_read.elim
  | decimal => exact none_read.elim
  | fraction => exact none_read.elim
  | plain kind =>
    cases read
    exact not_or.mpr none_read
  | quoted =>
    cases read
    simp [Numeric, Except.mapError]
  | badDigit =>
    cases read
    simp [Numeric, Except.mapError, Cause.kind]
  | rejected cause =>
    cases read
    exact none_read

theorem Spells.exists_numeral (spells : Spells shape text) : ∃ n, shape.numeral? = some n := by
  cases spells <;> exact ⟨_, rfl⟩

/-- What was read as a number reads the same without separators, over any arena, which stays as it
is. -/
theorem reading_strip (read : (reading a bytes).1 = .ok r)
    (numeric : Numeric (r.mapError Prod.snd)) (b : Arena) :
    let text := strip (bytes.take (scan bytes).len)
    (scan text).len = text.length ∧ reading b text = (.ok r, b) := by
  intro text
  obtain none_read | spells := scan_spelled bytes
  · exact absurd numeric (none_read.not_numeric read)
  · obtain ⟨n, found⟩ := spells.exists_numeral
    have whole : scan text = ⟨_, text.length⟩ := scan_of_spells spells.stripped
    have found' : (scan text).shape.numeral? = some n := by rw [whole, found]
    rw [reading_numeral found] at read
    rw [reading_numeral found', whole, List.take_length]
    refine ⟨rfl, ?_⟩
    rw [evaluate_of_numeric read numeric, Numeral.readIn, ← spells.strip_drop found, staged_strip]
    rfl

/-! ### Calls -/

theorem inside_of_nextToken (ran : nextToken l = .ok result l') : l.current ≤ l.source.length := by
  unfold nextToken at ran
  rw [run_get_bind] at ran
  obtain ⟨ahead, read, -⟩ := run_orFault_eq_ok ran
  unfold Buffer.sliceFrom at read
  split at read
  · assumption
  · cases read

/-- What a call that answers has read, and how far it has gone. -/
theorem nextToken_reads (ran : nextToken l = .ok result l') :
    ∃ r, (reading l.scratch l.ahead).1 = .ok r ∧ verdict result = r.mapError Prod.snd ∧
      l'.current = l.current + (scan l.ahead).len := by
  have called := nextToken_eq_ok_iff.mp ran
  rw [call_eq (inside_of_nextToken ran), Prod.mk.injEq] at called
  obtain ⟨answers, rfl⟩ := called
  obtain ⟨r, read, rfl⟩ := reading_of_answer answers
  exact ⟨r, read, verdict_present .., current_passed l⟩

/-- A call over the numeral that `reading_strip` speaks of takes all of it and leaves the end of the
file. -/
theorem nextToken_whole (fresh : m.current = 0) (whole : (scan m.source).len = m.source.length)
    (read : reading m.scratch m.source = (.ok r, m.scratch)) :
    ∃ result' after, nextToken m = .ok result' after ∧ verdict result' = r.mapError Prod.snd ∧
      after.current = m.source.length ∧ after.scratch = m.scratch ∧
      nextToken after =
        .ok (.ok { kind := .endOfFile, offset := m.source.length, lexeme := [] }) after := by
  have ahead : m.ahead = m.source := by rw [Lexer.ahead, fresh, List.drop_zero]
  have called := call_eq (l := m) (by omega)
  rw [answer, ahead, read] at called
  have source : m.passed.source = m.source := source_passed m
  have done : m.passed.current = m.source.length := by
    rw [current_passed, ahead, whole, fresh, Nat.zero_add]
  have ends : Lexer.call { m.passed with scratch := m.scratch } = _ :=
    call_at_end (done.trans (congrArg List.length source.symm))
  rw [source] at ends
  exact ⟨_, _, nextToken_eq_ok_iff.mpr called, verdict_present .., done, rfl,
    nextToken_eq_ok_iff.mpr ends⟩

/-- A number, or an integer that is too large, comes out the same when its text is lexed once more
without the separators. That takes one call before the end of the file, and leaves the scratch arena
alone. -/
theorem separators_do_not_count (ran : nextToken l = .ok result l')
    (numeric : Numeric (verdict result)) (scratch : Arena) (options : Options) :
    let text := strip (window l.source l.current (l'.current - l.current))
    let alone : Lexer := { source := text, scratch, options }
    separator ∉ text ∧
    ∃ result' after, nextToken alone = .ok result' after ∧ verdict result' = verdict result ∧
      after.current = text.length ∧ after.scratch = scratch ∧
      nextToken after =
        .ok (.ok { kind := .endOfFile, offset := text.length, lexeme := [] }) after := by
  intro text alone
  obtain ⟨r, read, same, current⟩ := nextToken_reads ran
  rw [same] at numeric ⊢
  obtain ⟨whole, again⟩ := reading_strip read numeric scratch
  have shown : text = strip (l.ahead.take (scan l.ahead).len) := by
    show strip (window _ _ _) = _
    rw [current, Nat.add_sub_cancel_left]
    rfl
  rw [← shown] at whole again
  exact ⟨separator_not_mem_strip _, nextToken_whole (m := alone) rfl whole again⟩

/-- `1_0.2_5` in `a=1_0.2_5;`, staged over an arena in use, and `10.25`. -/
theorem separators_do_not_count_fraction :
    let source : List UInt8 := [0x61, 0x3D, 0x31, 0x5F, 0x30, 0x2E, 0x32, 0x5F, 0x35, 0x3B]
    let scratch : Arena :=
      { id := 1, address := 4096, data := List.replicate 32 0xAA, offset := 3, last? := some 0 }
    let l : Lexer := { source, scratch, current := 2 }
    ∃ result l', nextToken l = .ok result l' ∧ l'.current = 9 ∧ l'.scratch ≠ scratch ∧
      verdict result = .ok (.literal .real, .real ⟨0x4024800000000000⟩) ∧
      ∃ result' after,
        nextToken { source := [0x31, 0x30, 0x2E, 0x32, 0x35], scratch } = .ok result' after ∧
        verdict result' = .ok (.literal .real, .real ⟨0x4024800000000000⟩) ∧
        after.current = 5 ∧ after.scratch = scratch := by
  intro source scratch l
  have called : l.call.1 = .ok (.ok
      { kind := .literal .real
        offset := 2
        lexeme := [0x31, 0x5F, 0x30, 0x2E, 0x32, 0x5F, 0x35]
        value := .real ⟨0x4024800000000000⟩ }) := by decide +kernel
  have current : l.call.2.current = 9 := by decide
  have staged : l.call.2.scratch ≠ scratch := by decide
  have ran := nextToken_eq_ok_iff.mpr (Prod.ext called rfl)
  obtain ⟨-, result', after, again, same, taken, kept, -⟩ :=
    separators_do_not_count ran (Or.inr rfl) scratch {}
  have text : strip (window l.source l.current (l.call.2.current - l.current)) =
      [0x31, 0x30, 0x2E, 0x32, 0x35] := by
    rw [current]
    decide
  rw [text] at again taken
  exact ⟨_, _, ran, current, staged, rfl, result', after, again, same, taken, kept⟩

end FrontEnd.Lexer
