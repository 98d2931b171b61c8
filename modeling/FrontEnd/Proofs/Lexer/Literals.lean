import FrontEnd.Proofs.Lexer.Exhaustion
import FrontEnd.Proofs.Number.Nearest
import FrontEnd.Proofs.Number.Value

/-!
# What numerals stand for

With room in the scratch arena (`Roomy`) a numeral is read of its digits without the separators. An
integer is their value, if it fits a signed word (`evaluate_integer`), and a fraction is the nearest
double to the quotient that they stand for (`evaluate_real`).
-/

namespace FrontEnd.Lexer

open Memory (Arena)
open Number (digit? maxSigned64 value worth)

/-- An arena has room for digits without the separators, if there are any. -/
def Roomy (a : Arena) (digits : List UInt8) : Prop :=
  separator ∈ digits → a.Usable ∧ a.HasRoom (strip digits).length

variable {l l' : Lexer} {a : Arena} {bytes digits word whole part lexeme : List UInt8} {base mark : Nat}
  {n : Numeral} {r : Reading} {result : Result}

/-! ### Staging with room -/

theorem staged_roomy (roomy : Roomy a digits) : (staged a digits).1 = .ok (.ok (strip digits)) := by
  by_cases separated : separator ∈ digits
  · obtain ⟨usable, room⟩ := roomy separated
    obtain ⟨a', ran⟩ := Arena.inRegion_stash_answer usable (strip digits)
    rw [if_pos room] at ran
    unfold staged
    rw [if_pos separated, ran]
  · rw [staged_plain separated, strip_eq_self separated]

theorem Numeral.readIn_roomy (roomy : Roomy a (lexeme.drop n.mark)) :
    (n.readIn a lexeme).1 = .ok (n.evaluate (strip (lexeme.drop n.mark))) :=
  Numeral.readIn_eq_ok_iff.mpr ⟨_, staged_roomy roomy, rfl⟩

/-! ### Values -/

theorem Digits.worth_lt (digits : Digits base word) (small : base ≤ 16) :
    ∀ b ∈ strip word, worth b < base := by
  intro b member
  obtain ⟨member, other⟩ := List.mem_filter.mp member
  have placed := digits.inPlace b member
  simp only [Lexer.inPlace, Bool.or_eq_true, beq_iff_eq] at placed
  simp only [bne_iff_ne, ne_eq] at other
  exact (Number.isSome_digit?_iff small).mp (placed.resolve_left other)

theorem evaluate_integer (digits : Digits base word) (small : base ≤ 16) :
    (Numeral.integer base mark).evaluate (strip word) =
      if value base (strip word) ≤ maxSigned64 then
        .ok (.literal .integer, .integer (value base (strip word)))
      else .error (0, .integerOverflow) := by
  have read := Number.signed64?_value small (digits.worth_lt small) digits.stripped.ne_nil
  simp only [Numeral.evaluate, Numeral.integer, read]
  by_cases fits : value base (strip word) ≤ maxSigned64
  · rw [if_pos fits, if_pos fits]
    rfl
  · rw [if_neg fits, if_neg fits]
    rfl

theorem evaluate_real (digits : Digits 10 whole) (places : Digits 10 part) :
    ∃ x : Number.Binary64,
      Number.Binary64.ofText? (strip (whole ++ 0x2E :: part)) = some x ∧
      x.Nearest (value 10 (strip whole ++ strip part)) (10 ^ (strip part).length) ∧
      Numeral.real.evaluate (strip (whole ++ 0x2E :: part)) = .ok (.literal .real, .real x) := by
  have read := Number.ofText?_value (digits.worth_lt (by decide)) digits.stripped.ne_nil
    (places.worth_lt (by decide)) places.stripped.ne_nil
  rw [← strip_fraction] at read
  refine ⟨_, read, Number.Binary64.ofRatio_nearest (Nat.pow_pos (by decide)) _, ?_⟩
  simp only [Numeral.evaluate, Numeral.real, read]
  rfl

/-! ### Calls -/

theorem inside_of_ahead {d : UInt8} {rest : List UInt8} (ahead : l.ahead = d :: rest) :
    l.current ≤ l.source.length := by
  by_contra past
  have nothing : l.ahead = [] := List.drop_of_length_le (by omega)
  rw [nothing] at ahead
  cases ahead

theorem inside_of_front {c : Char} (front : Utf8.front? l.ahead = some c) :
    l.current ≤ l.source.length := by
  obtain ⟨d, rest, ahead⟩ := List.exists_cons_of_length_pos (length_pos_of_front? front)
  exact inside_of_ahead ahead

theorem current_call (inside : l.current ≤ l.source.length) :
    l.call.2.source = l.source ∧ l.call.2.current = l.current + (scan l.ahead).len := by
  obtain ⟨previous, passes⟩ := call_passes inside
  rw [passes]
  exact ⟨rfl, rfl⟩

theorem ahead_call (inside : l.current ≤ l.source.length) :
    l.call.2.ahead = l.ahead.drop (scan l.ahead).len := by
  obtain ⟨source, current⟩ := current_call inside
  rw [Lexer.ahead, source, current, ← List.drop_drop]
  rfl

theorem nextToken_of_reading (inside : l.current ≤ l.source.length)
    (read : (reading l.scratch l.ahead).1 = .ok r) :
    nextToken l = .ok
      (present l.options.fileName l.current (l.ahead.take (scan l.ahead).len) r) l.call.2 := by
  rw [nextToken_eq_ok_iff]
  refine Prod.ext ?_ rfl
  rw [call_eq inside]
  dsimp only
  rw [answer, read]
  rfl

theorem nextToken_plain {kind : TokenKind} {len : Nat} (inside : l.current ≤ l.source.length)
    (found : scan l.ahead = ⟨.plain kind, len⟩) :
    nextToken l = .ok (.ok { kind, offset := l.current, lexeme := l.ahead.take len }) l.call.2 ∧
      l.call.2.current = l.current + len := by
  have read : (reading l.scratch l.ahead).1 = .ok (.ok (kind, .none)) := by
    unfold reading
    rw [found]
    rfl
  have ran := nextToken_of_reading inside read
  have current := (current_call inside).2
  rw [found] at ran current
  exact ⟨ran, current⟩

theorem nextToken_rejected {cause : Cause} {len : Nat} (inside : l.current ≤ l.source.length)
    (found : scan l.ahead = ⟨.rejected cause, len⟩) :
    nextToken l = .ok (.error ⟨l.options.fileName, l.current, cause⟩) l.call.2 ∧
      l.call.2.current = l.current + len := by
  have read : (reading l.scratch l.ahead).1 = .ok (.error (0, cause)) := by
    unfold reading
    rw [found]
    rfl
  have current := (current_call inside).2
  rw [found] at current
  exact ⟨nextToken_of_reading inside read, current⟩

end FrontEnd.Lexer
