import FrontEnd.Proofs.Lexer.Kinds
import FrontEnd.Proofs.Lexer.Limit
import FrontEnd.Proofs.Lexer.Literals

/-!
# One token after the other

A token that a lexer takes is what stands ahead of it, and the next one is what stands ahead after
that (`Took`). Results next to each other in a drain are drawn one after the other
(`Iterates.adjacent`).
-/

namespace FrontEnd.Lexer

variable {l l' l'' : Lexer} {token : Token} {result : Result} {results : List Result}

/-! ### Calls -/

/-- A lexer takes a token, and stands after it then. -/
structure Took (l : Lexer) (token : Token) (l' : Lexer) : Prop where
  inside : l.current ≤ l.source.length
  read : (reading l.scratch l.ahead).1 = .ok (.ok (token.kind, token.value))
  offset : token.offset = l.current
  lexeme : token.lexeme = l.ahead.take (scan l.ahead).len
  ahead : l'.ahead = l.ahead.drop (scan l.ahead).len
  current : l'.current = l.current + token.lexeme.length

theorem took_of_nextToken (ran : nextToken l = .ok (.ok token) l') : Took l token l' := by
  have inside := inside_of_nextToken ran
  have called := nextToken_eq_ok_iff.mp ran
  have ahead := ahead_call inside
  have current := (current_call inside).2
  have answers := congrArg Prod.fst called
  rw [called] at ahead current
  rw [call_eq inside] at answers
  obtain ⟨r, read, shown⟩ := reading_of_answer answers
  cases r with
  | error failure => cases shown
  | ok found =>
    cases shown
    refine ⟨inside, read, rfl, rfl, ahead, ?_⟩
    rw [current]
    simp [scan_len_le]

/-! ### Draws -/

theorem took_of_draw (ran : next? l = .ok (some (.ok token)) l') (more : token.kind ≠ .endOfFile) :
    Took l token l' ∧ l'.finished = false := by
  obtain ⟨going, drawn⟩ := draw_cases ran
  cases drawn with
  | @called _ l₁ called =>
    have ran := nextToken_eq_ok_iff.mpr called
    have took := took_of_nextToken ran
    have finished := (call_keeps (inside_of_nextToken ran)).2.1
    rw [called] at finished
    refine ⟨⟨took.inside, took.read, took.offset, took.lexeme, took.ahead, took.current⟩, ?_⟩
    have going' : l₁.finished = false := finished.trans going
    simp [going', Result.isEndOfFile, Token.isEndOfFile, more]
  | ended => exact absurd rfl more

/-! ### Draws in a row -/

/-- A draw keeps the options, and a lexer that is within its source after it was before. -/
theorem draw_keeps (ran : next? l = .ok (some result) l') :
    l'.options = l.options ∧ (l'.current ≤ l'.source.length → l.current ≤ l.source.length) := by
  obtain ⟨-, drawn⟩ := draw_cases ran
  cases drawn with
  | called called =>
    have inside := inside_of_nextToken (nextToken_eq_ok_iff.mpr called)
    have options := (call_keeps inside).1
    rw [called] at options
    exact ⟨options, fun _ => inside⟩
  | reported => exact ⟨rfl, id⟩
  | ended => exact ⟨rfl, id⟩

theorem Iterates.keeps (h : Iterates l results l') :
    l'.options = l.options ∧ (l'.current ≤ l'.source.length → l.current ≤ l.source.length) := by
  induction h with
  | nil => exact ⟨rfl, id⟩
  | cons draw _ ih =>
    obtain ⟨options, within⟩ := draw_keeps draw
    exact ⟨ih.1.trans options, within ∘ ih.2⟩

/-- A result of a drain is drawn from a lexer with the same options, and what comes after it from
the lexer after it. -/
theorem Iterates.adjacent {before later : List Result}
    (h : Iterates l (before ++ result :: later) l'') :
    ∃ m m', m.options = l.options ∧ (m.current ≤ m.source.length → l.current ≤ l.source.length) ∧
      next? m = .ok (some result) m' ∧ Iterates m' later l'' := by
  obtain ⟨m, first, rest⟩ := h.split
  cases rest with
  | cons draw rest => exact ⟨m, _, first.keeps.1, first.keeps.2, draw, rest⟩

/-! ### Tokens without a value -/

/-- A token of a kind that no value goes with is plain. -/
theorem Took.plain (took : Took l token l') (string : token.kind ≠ .literal .string)
    (integer : token.kind ≠ .literal .integer) (real : token.kind ≠ .literal .real) :
    Plain l.ahead token.kind (scan l.ahead).len := by
  obtain ⟨shape, -⟩ | ⟨-, quoted, -⟩ | ⟨n, found, numeral, -⟩ := token_cases took.read
  · apply plain_cases
    rw [← shape]
  · exact absurd quoted string
  · cases shape : (scan l.ahead).shape <;> rw [shape] at found <;> cases found
    · exact absurd numeral integer
    · exact absurd numeral integer
    · exact absurd numeral real

end FrontEnd.Lexer
