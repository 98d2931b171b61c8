import FrontEnd.Proofs.Lexer.Succession

/-!
# Trivia

A comment goes up to the first line feed, byte for byte, and white space as far as there is any. So
no white space follows white space in a drain, and what follows a comment is a line break, the end
of the file, or the report of the limit (`EndsComment`); `trivia_is_maximal` says both.
-/

namespace FrontEnd.Lexer

open Memory (Arena)
open Unicode (isWhitespace)
open Utf8 (Longest RunOf front? span)

/-- What a drain may yield right after a comment. -/
inductive EndsComment (options : Options) (comment : Token) : Result → Prop where
  | fileEnd {token : Token} (ends : token.kind = .endOfFile) :
      EndsComment options comment (.ok token)
  /-- White space whose first byte is a line feed. -/
  | lineBreak {token : Token} (blank : token.kind = .trivia .whitespace)
      (first : token.lexeme.head? = some 0x0A) : EndsComment options comment (.ok token)
  /-- The report of the limit, if that is reached with the comment. -/
  | cut {limit : Nat} (limited : options.tokenLimit? = some limit) :
      EndsComment options comment
        (.error ⟨options.fileName, comment.stop, .tokenLimitExceeded limit⟩)

variable {l l' l'' : Lexer} {token token' comment : Token} {result : Result} {later : List Result}
  {c : Char}

/-! ### Where trivia stops -/

theorem Took.comment_run (took : Took l token l') (comment : token.kind = .trivia .lineComment) :
    (scan l.ahead).len = span (· != '\n') l.ahead := by
  have plain := took.plain (by simp [comment]) (by simp [comment]) (by simp [comment])
  rw [comment] at plain
  generalize (scan l.ahead).len = len at plain
  cases plain with
  | comment => rfl
  | word _ _ word => simp [IsWord, TokenKind.isKeyword] at word
  | symbol symbol => simp [IsSymbol] at symbol

theorem Took.blank_run (took : Took l token l') (blank : token.kind = .trivia .whitespace) :
    (∃ c, front? l.ahead = some c ∧ isWhitespace c = true) ∧
      (scan l.ahead).len = span isWhitespace l.ahead := by
  have plain := took.plain (by simp [blank]) (by simp [blank]) (by simp [blank])
  rw [blank] at plain
  generalize (scan l.ahead).len = len at plain
  cases plain with
  | blank front blank => exact ⟨⟨_, front, blank⟩, rfl⟩
  | word _ _ word => simp [IsWord, TokenKind.isKeyword] at word
  | symbol symbol => simp [IsSymbol] at symbol

theorem Took.not_blank_next (took : Took l token l') (took' : Took l' token' l'')
    (blank : token.kind = .trivia .whitespace) : token'.kind ≠ .trivia .whitespace := by
  intro blank'
  obtain ⟨⟨c, front, white⟩, -⟩ := took'.blank_run blank'
  rw [took.ahead, (took.blank_run blank).2] at front
  rw [Utf8.stops_of_span c front] at white
  cases white

theorem Took.comment_stops (took : Took l token l') (comment : token.kind = .trivia .lineComment) :
    l'.ahead = [] ∨ front? l'.ahead = some '\n' := by
  cases ahead : l'.ahead with
  | nil => exact Or.inl rfl
  | cons lead rest =>
    right
    have front : front? l'.ahead = some (Utf8.decode (lead :: rest)).char := by rw [ahead]; rfl
    rw [took.ahead, took.comment_run comment] at front
    have stops := Utf8.stops_of_span _ front
    simpa [front?] using stops

/-! ### Calls -/

theorem nextToken_comment (slashes : [0x2F, 0x2F] <+: l.ahead) :
    nextToken l =
        .ok (.ok
          { kind := .trivia .lineComment
            offset := l.current
            lexeme := l.ahead.takeWhile (· != 0x0A) }) l.call.2 ∧
      l.call.2.current = l.current + (l.ahead.takeWhile (· != 0x0A)).length := by
  have line : span (· != '\n') l.ahead = (l.ahead.takeWhile (· != 0x0A)).length :=
    Utf8.span_ne_ascii (by decide) l.ahead
  have text := List.prefix_iff_eq_take.mp (List.takeWhile_prefix (l := l.ahead) (· != 0x0A))
  have found := scan_of_slashes slashes
  obtain ⟨lead, rest, ahead⟩ := List.exists_cons_of_ne_nil (slashes.ne_nil (by simp))
  have ran := nextToken_plain (inside_of_ahead ahead) found
  rwa [line, ← text] at ran

theorem nextToken_blank (front : front? l.ahead = some c) (white : isWhitespace c = true) :
    nextToken l =
        .ok (.ok
          { kind := .trivia .whitespace
            offset := l.current
            lexeme := l.ahead.take (span isWhitespace l.ahead) }) l.call.2 ∧
      l.call.2.current = l.current + span isWhitespace l.ahead :=
  nextToken_plain (inside_of_front front) (scan_of_blank front white)

theorem head?_of_line_break (front : front? l.ahead = some '\n') :
    (l.ahead.take (span isWhitespace l.ahead)).head? = some 0x0A := by
  have first : l.ahead.head? = some 0x0A := (Utf8.front?_eq_some_iff (by decide)).mp front
  obtain ⟨rest, ahead⟩ := List.head?_eq_some_iff.mp first
  have white : isWhitespace (Utf8.decode (0x0A :: rest)).char = true := by
    rw [Utf8.char_ascii (by decide)]
    decide
  have pos := span_pos white
  rw [List.head?_take, ahead, if_neg (Nat.ne_of_gt pos)]
  rfl

/-! ### Drains -/

theorem Took.comment_ends (took : Took l comment l') (kind : comment.kind = .trivia .lineComment)
    (draw : next? l' = .ok (some result) l'') : EndsComment l'.options comment result := by
  obtain ⟨-, drawn⟩ := draw_cases draw
  cases drawn with
  | called called =>
    have ran := nextToken_eq_ok_iff.mpr called
    obtain nothing | front := took.comment_stops kind
    · have found : scan l'.counted.ahead = ⟨.plain .endOfFile, 0⟩ := congrArg scan nothing
      have ends := (nextToken_plain (inside_of_nextToken ran) found).1
      rw [ran] at ends
      cases ends
      exact .fileEnd rfl
    · have breaks := (@nextToken_blank l'.counted '\n' front (by decide)).1
      rw [ran] at breaks
      cases breaks
      exact .lineBreak rfl (head?_of_line_break front)
  | reported limited =>
    have stop : l'.current = comment.stop := by rw [took.current, Token.stop, took.offset]
    rw [stop]
    exact .cut limited
  | ended => exact .fileEnd rfl

/-- A drain goes on after a token that is not the end of the file. -/
theorem exists_next {results before : List Result} (drained : drain l = .ok results l'')
    (split : results = before ++ .ok token :: later) (more : token.kind ≠ .endOfFile) :
    ∃ m m' next rest, later = next :: rest ∧ m'.options = l.options ∧ Took m token m' ∧
      ∃ m'', next? m' = .ok (some next) m'' := by
  subst split
  obtain ⟨m, m', options, within, draw, rest⟩ := (iterates_of_collect drained).adjacent
  obtain ⟨took, going⟩ := took_of_draw draw more
  have done := drain_finishes drained (within took.inside)
  have options' := (draw_keeps draw).1
  cases rest with
  | nil =>
    rw [done] at going
    cases going
  | cons next rest => exact ⟨m, m', _, _, rfl, options'.trans options, took, _, next⟩

/-- A comment is what stands ahead up to the first line feed, whatever bytes that may be, and white
space is the longest run of it. In a drain no white space comes right after white space, and right
after a comment come a line break, the end of the file, or the report of the limit. -/
theorem trivia_is_maximal :
    (∀ l : Lexer, [0x2F, 0x2F] <+: l.ahead →
      nextToken l =
          .ok (.ok
            { kind := .trivia .lineComment
              offset := l.current
              lexeme := l.ahead.takeWhile (· != 0x0A) }) l.call.2 ∧
        l.call.2.current = l.current + (l.ahead.takeWhile (· != 0x0A)).length) ∧
    (∀ (l : Lexer) (c : Char), front? l.ahead = some c → isWhitespace c = true →
      ∃ run, Longest (RunOf isWhitespace) run l.ahead ∧
        nextToken l =
          .ok (.ok { kind := .trivia .whitespace, offset := l.current, lexeme := run }) l.call.2 ∧
        l.call.2.current = l.current + run.length) ∧
    ∀ (l l' : Lexer) (results before later : List Result) (token : Token),
      drain l = .ok results l' → results = before ++ .ok token :: later →
      (token.kind = .trivia .whitespace →
        ∀ token' rest, later = .ok token' :: rest → token'.kind ≠ .trivia .whitespace) ∧
      (token.kind = .trivia .lineComment →
        ∃ next rest, later = next :: rest ∧ EndsComment l.options token next) := by
  refine ⟨fun l => nextToken_comment, ?_, ?_⟩
  · intro l c front white
    obtain ⟨ran, current⟩ := nextToken_blank front white
    refine ⟨_, Utf8.longest_run (by decide) l.ahead, ran, ?_⟩
    rw [current, List.length_take_of_le (span_le _ _)]
  · intro l l' results before later token drained split
    constructor
    · rintro blank token' rest rfl blank'
      obtain ⟨m, m', _, _, same, -, took, m'', draw⟩ :=
        exists_next drained split (by simp [blank])
      cases same
      exact took.not_blank_next (took_of_draw draw (by simp [blank'])).1 blank blank'
    · intro comment
      obtain ⟨m, m', next, rest, same, options, took, m'', draw⟩ :=
        exists_next drained split (by simp [comment])
      refine ⟨next, rest, same, ?_⟩
      rw [← options]
      exact took.comment_ends comment draw

/-- A byte that is cut off from its character ends a comment, in front of white space with a blank of
three bytes in it, and a word. -/
theorem trivia_is_maximal_malformed :
    let scratch : Arena := { id := 1, address := 4096, data := [] }
    let source : List UInt8 := [0x2F, 0x2F, 0xC3, 0x0A, 0xE2, 0x80, 0x83, 0x78]
    let l : Lexer := { source, scratch }
    let m : Lexer := { source, scratch, current := 3 }
    let comment : Token :=
      { kind := .trivia .lineComment, offset := 0, lexeme := [0x2F, 0x2F, 0xC3] }
    let blank : Token :=
      { kind := .trivia .whitespace, offset := 3, lexeme := [0x0A, 0xE2, 0x80, 0x83] }
    let word : Token := { kind := .literal .identifier, offset := 7, lexeme := [0x78] }
    let fileEnd : Token := { kind := .endOfFile, offset := 8, lexeme := [] }
    nextToken l = .ok (.ok comment) l.call.2 ∧
      Longest (RunOf isWhitespace) blank.lexeme m.ahead ∧
      nextToken m = .ok (.ok blank) m.call.2 ∧
      (∃ l', drain l = .ok [.ok comment, .ok blank, .ok word, .ok fileEnd] l') ∧
      EndsComment l.options comment (.ok blank) ∧ word.kind ≠ .trivia .whitespace := by
  intro scratch source l m comment blank word fileEnd
  have called : m.call.1 = .ok (.ok
      { kind := .trivia .whitespace, offset := 3, lexeme := [0x0A, 0xE2, 0x80, 0x83] }) := by
    decide +kernel
  have drained : drain.run' l = some [.ok comment, .ok blank, .ok word, .ok fileEnd] := by
    decide +kernel
  obtain ⟨l', drained⟩ := run_of_run' drained
  obtain ⟨comments, blanks, drains⟩ := trivia_is_maximal
  obtain ⟨run, longest, ran, -⟩ := blanks m '\n' (by decide) (by decide)
  have same := congrArg Prod.fst (nextToken_eq_ok_iff.mp ran)
  rw [called] at same
  cases same
  obtain ⟨next, rest, later, ends⟩ := (drains l l' _ [] _ comment drained rfl).2 rfl
  cases later
  have parted := (drains l l' _ [.ok comment] _ blank drained rfl).1 rfl word _ rfl
  exact ⟨(comments l (by decide)).1, longest, ran, ⟨l', drained⟩, ends, parted⟩

/-- The limit may be reached with a comment, and then its report comes right after. -/
theorem comment_before_limit :
    let scratch : Arena := { id := 1, address := 4096, data := [] }
    let l : Lexer :=
      { source := [0x2F, 0x2F, 0x61], scratch, options := Options.withTokenLimit {} 1 }
    let comment : Token :=
      { kind := .trivia .lineComment, offset := 0, lexeme := [0x2F, 0x2F, 0x61] }
    let fileEnd : Token := { kind := .endOfFile, offset := 3, lexeme := [] }
    (∃ l', drain l =
      .ok [.ok comment, .error ⟨"<No file>", 3, .tokenLimitExceeded 1⟩, .ok fileEnd] l') ∧
    ¬∀ (l l' : Lexer) (results before later : List Result) (token : Token),
      drain l = .ok results l' → results = before ++ .ok token :: later →
      token.kind = .trivia .lineComment →
      ∃ next rest, later = .ok next :: rest ∧
        (next.kind = .endOfFile ∨
          next.kind = .trivia .whitespace ∧ next.lexeme.head? = some 0x0A) := by
  intro scratch l comment fileEnd
  have drained : drain.run' l =
      some [.ok comment, .error ⟨"<No file>", 3, .tokenLimitExceeded 1⟩, .ok fileEnd] := by
    decide +kernel
  obtain ⟨l', ran⟩ := run_of_run' drained
  refine ⟨⟨l', ran⟩, ?_⟩
  intro claimed
  obtain ⟨next, rest, same, -⟩ := claimed l l' _ [] _ comment ran rfl rfl
  cases same

end FrontEnd.Lexer
