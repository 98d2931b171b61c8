import FrontEnd.Proofs.Lexer.Lexemes
import FrontEnd.Proofs.Lexer.Restart
import FrontEnd.Proofs.Lexer.Tokens

/-!
# Lexemes alone

A token is found by what follows it, too. Yet its lexeme without the rest reads as the same token
(`reading_alone`), so that a lexer over the lexeme alone yields that token and the end of the file
(`lexemes_stand_alone`).
-/

namespace FrontEnd.Lexer

open Memory (Arena)

variable {bytes lexeme : List UInt8} {a : Arena} {kind : TokenKind} {value : TokenValue}

theorem token_pos (read : (reading a bytes).1 = .ok (.ok (kind, value)))
    (more : kind ≠ .endOfFile) : 0 < (scan bytes).len := by
  cases bytes with
  | nil =>
    cases read
    exact absurd rfl more
  | cons lead rest => exact (scan_fits lead rest).pos

theorem scan_alone (read : (reading a bytes).1 = .ok (.ok (kind, value)))
    (more : kind ≠ .endOfFile) : scan (bytes.take (scan bytes).len) = scan bytes := by
  rw [(token_lexeme read more).scan, List.length_take_of_le (scan_len_le bytes)]

/-- What is read as a token reads the same without what follows. -/
theorem reading_alone (read : (reading a bytes).1 = .ok (.ok (kind, value)))
    (more : kind ≠ .endOfFile) : reading a (bytes.take (scan bytes).len) = reading a bytes := by
  have cut := scan_alone read more
  unfold reading
  rw [cut]
  -- the shape is the same; only strings and numerals look at the bytes again
  obtain ⟨shape, -⟩ | ⟨shape, string, -⟩ | ⟨n, found, -⟩ := token_cases read
  · rw [shape]
    rfl
  · have lexeme := token_lexeme read more
    rw [shape] at lexeme ⊢
    have quotes := lexeme.two_le
    rw [List.length_take_of_le (scan_len_le bytes)] at quotes
    simp only [Shape.readIn]
    rw [Buffer.window_take (by omega)]
  · rw [Shape.readIn_numeral found, Shape.readIn_numeral found, List.take_take, Nat.min_self]

/-- A lexer over a lexeme yields the token and the end of the file. -/
theorem lexIn_lexeme (whole : (scan lexeme).len = lexeme.length) (some_byte : 0 < lexeme.length)
    (read : (reading a lexeme).1 = .ok (.ok (kind, value))) (fileName : String) :
    ∃ after, lexIn lexeme (.forFile fileName) a =
      .ok ([.ok { kind, offset := 0, lexeme, value },
        .ok { kind := .endOfFile, offset := lexeme.length, lexeme := [] }], lexeme.length) after := by
  let l : Lexer := { source := lexeme, scratch := a, options := .forFile fileName }
  have inside : l.current ≤ l.source.length := Nat.zero_le _
  have first : l.call.1 = .ok (.ok { kind, offset := 0, lexeme, value }) := by
    rw [call_eq inside]
    show answer fileName 0 a lexeme = _
    rw [answer, read, whole, List.take_length]
    rfl
  have ends : l.call.2.current = lexeme.length := by
    rw [call_eq inside]
    show l.passed.current = _
    rw [current_passed]
    show 0 + (scan lexeme).len = _
    rw [whole, Nat.zero_add]
  have done (k : Nat) : l.cursor (k + 1) = lexeme.length := by
    induction k with
    | zero => exact ends
    | succ k ih => exact (call_past inside ih).2
  have answers (n : Nat) : l.Answers n := by
    intro k _
    cases k with
    | zero => exact ⟨_, first⟩
    | succ k => exact ⟨_, (call_past inside (done k)).1⟩
  have once : l.Lasts 1 := by
    refine ⟨inside, ends, fun k early => ?_⟩
    obtain rfl := Nat.lt_one_iff.mp early
    exact some_byte
  obtain ⟨n, results, after, lasts, ran, same⟩ := lexIn_unlimited answers rfl
  obtain rfl := lasts.unique once
  have yielded : results.map Except.ok = [l.outcome 0, l.outcome 1] := same
  have shown : l.outcome 0 = .ok (.ok { kind, offset := 0, lexeme, value }) := first
  rw [shown, (call_past inside (done 0)).1] at yielded
  obtain rfl : results = [_, _] := List.map_injective_iff.mpr (fun _ _ => Except.ok.inj) yielded
  exact ⟨after, ran⟩

/-- The lexeme of any token that a lexer hands out, lexed alone, yields the token with the same kind
and value and then the end of the file. The scratch arena is the one that the lexer was given, with
whatever bytes are in it by now. -/
theorem lexemes_stand_alone (source : List UInt8) (scratch : Arena) (options : Options)
    (uses : List Use) {token : Token} (handed : HandsOut { source, scratch, options } uses token)
    (more : ¬token.isEndOfFile) {again : Arena} (alike : scratch.Alike again) (fileName : String) :
    ∃ after, lexIn token.lexeme (.forFile fileName) again =
      .ok ([.ok { token with offset := 0 },
        .ok { kind := .endOfFile, offset := token.lexeme.length, lexeme := [] }],
        token.lexeme.length) after := by
  have stands : Stands source scratch token :=
    handed.stands (aligned_new source scratch options)
  cases stands with
  | fileEnd => exact absurd rfl more
  | @read start kind value cut reads =>
    have named : kind ≠ .endOfFile := by
      rintro rfl
      exact more rfl
    have length := List.length_take_of_le (scan_len_le (source.drop start))
    apply lexIn_lexeme
    · rw [scan_alone reads named, length]
    · rw [length]
      exact token_pos reads named
    · rw [(reading_blind alike).1, reading_alone reads named]
      exact reads

/-- Of `1_0..` the numeral is cut off in front of two points, and read again over an arena with other
bytes in it. -/
theorem lexemes_stand_alone_staged :
    let source : List UInt8 := [0x31, 0x5F, 0x30, 0x2E, 0x2E]
    let scratch : Arena :=
      { id := 1, address := 4096, data := List.replicate 32 7, offset := 3, last? := some 0 }
    let again : Arena := { scratch with data := List.replicate 32 9 }
    let token : Token :=
      { kind := .literal .integer, offset := 0, lexeme := [0x31, 0x5F, 0x30], value := .integer 10 }
    HandsOut { source, scratch } [.token] token ∧
      ∃ after, lexIn [0x31, 0x5F, 0x30] (.forFile "") again =
        .ok ([.ok token, .ok { kind := .endOfFile, offset := 3, lexeme := [] }], 3) after := by
  intro source scratch again token
  have handed : HandsOut { source, scratch } [.token] token :=
    ⟨.read (.ok token), by decide +kernel, rfl⟩
  have alike : scratch.Alike again := ⟨_, rfl, rfl⟩
  exact ⟨handed, lexemes_stand_alone source scratch {} [.token] handed (by decide) alike ""⟩

end FrontEnd.Lexer
