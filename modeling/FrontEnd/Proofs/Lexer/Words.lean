import FrontEnd.Proofs.Lexer.Succession

/-!
# Words

A word is the longest run of letters, numerals and underscores that it starts, and it is a keyword
if its bytes are the name of one (`words_are_keywords_or_identifiers`). What comes next is no part of
a word (`Took.word_stops`), so it is neither a word nor a number.
-/

namespace FrontEnd.Lexer

open Memory (Arena)
open Utf8 (Longest RunOf front? span)

variable {l l' l'' : Lexer} {token token' : Token} {bytes : List UInt8} {c : Char}

/-! ### Where words start and stop -/

theorem scan_names_word (front : front? bytes = some c) (starts : isWordStart c = true) :
    ∃ kind, scan bytes = ⟨.plain kind, span isWordPart bytes⟩ ∧ IsWord kind ∧
      ∀ k : TokenKind, k.isKeyword = true →
        (kind = k ↔ bytes.take (span isWordPart bytes) = nameBytes k) := by
  have named (k : TokenKind) := @keyword?_eq_some_iff k (bytes.take (span isWordPart bytes))
  rw [scan_of_wordStart front starts]
  unfold scanWord
  dsimp only
  cases found : Keyword.ofBytes? (bytes.take (span isWordPart bytes)) with
  | some word =>
    refine ⟨_, rfl, Or.inr rfl, ?_⟩
    intro k keyword
    simpa [found, keyword] using named k
  | none =>
    refine ⟨_, rfl, Or.inl rfl, ?_⟩
    intro k keyword
    have other : TokenKind.literal .identifier ≠ k := by
      rintro rfl
      cases keyword
    simpa [found, keyword, other] using named k

theorem Took.word_run (took : Took l token l') (word : IsWord token.kind) :
    (∃ c, front? l.ahead = some c ∧ isWordStart c = true) ∧
      (scan l.ahead).len = span isWordPart l.ahead := by
  have plain : Plain l.ahead token.kind (scan l.ahead).len := by
    apply took.plain <;>
    · intro same
      simp [same, IsWord, TokenKind.isKeyword] at word
  generalize token.kind = kind at plain word
  generalize (scan l.ahead).len = len at plain
  cases plain with
  | word front starts => exact ⟨⟨_, front, starts⟩, rfl⟩
  | fileEnd | blank | comment => simp [IsWord, TokenKind.isKeyword] at word
  | symbol symbol =>
    obtain ⟨bracket, rfl⟩ | ⟨operator, rfl⟩ := symbol <;>
      simp [IsWord, TokenKind.isKeyword] at word

/-- What comes after a word is no part of one. -/
theorem Took.word_stops (took : Took l token l') (word : IsWord token.kind)
    (front : front? l'.ahead = some c) : isWordPart c = false := by
  rw [took.ahead, (took.word_run word).2] at front
  exact Utf8.stops_of_span c front

theorem Took.number_digit (took : Took l token l') (number : IsNumber token.kind) :
    ∃ c, front? l.ahead = some c ∧ isWordPart c = true := by
  obtain none_read | spells := scan_spelled l.ahead
  · exact absurd number (none_read.not_numeric took.read)
  · obtain ⟨d, rest, same, digit⟩ := spells.exists_digit
    obtain ⟨low, part⟩ := wordPart_of_inPlace (by simp [inPlace, digit] : inPlace 10 d = true)
    have ascii : (Char.ofUInt8 d).toNat < 0x80 := low
    obtain ⟨more, ahead⟩ := List.take_prefix (scan l.ahead).len l.ahead
    refine ⟨.ofUInt8 d, ?_, part⟩
    rw [same, List.cons_append] at ahead
    rw [Utf8.front?_eq_some_iff ascii, ← ahead, Utf8.toUInt8_ofUInt8, List.head?_cons]

theorem Took.not_word_next (took : Took l token l') (took' : Took l' token' l'')
    (word : IsWord token.kind) : ¬(IsWord token'.kind ∨ IsNumber token'.kind) := by
  intro more
  have starts : ∃ c, front? l'.ahead = some c ∧ isWordPart c = true := by
    obtain word' | number := more
    · obtain ⟨⟨c, front, starts⟩, -⟩ := took'.word_run word'
      exact ⟨c, front, wordPart_of_wordStart starts⟩
    · exact took'.number_digit number
  obtain ⟨c, front, part⟩ := starts
  rw [took.word_stops word front] at part
  cases part

/-! ### Words -/

/-- A word is the longest run that stands ahead, whatever ends it. It is a keyword if it is the name
of one, and an identifier if it is the name of none; the lookup finds these names and no others. No
word and no number comes right after a word, from one call to the next or in a drain. -/
theorem words_are_keywords_or_identifiers :
    (∀ (l : Lexer) (c : Char), front? l.ahead = some c → isWordStart c = true →
      ∃ word kind, Longest (RunOf isWordPart) word l.ahead ∧
        nextToken l = .ok (.ok { kind, offset := l.current, lexeme := word }) l.call.2 ∧
        l.call.2.current = l.current + word.length ∧
        (∀ k : TokenKind, k.isKeyword = true → (kind = k ↔ word = nameBytes k)) ∧
        ((∀ k : TokenKind, k.isKeyword = true → word ≠ nameBytes k) →
          kind = .literal .identifier)) ∧
    (∀ (text : List UInt8) (k : TokenKind),
      (Keyword.ofBytes? text).map .keyword = some k ↔ k.isKeyword = true ∧ text = nameBytes k) ∧
    (∀ (l l' l'' : Lexer) (token token' : Token), nextToken l = .ok (.ok token) l' →
      nextToken l' = .ok (.ok token') l'' → IsWord token.kind →
      ¬(IsWord token'.kind ∨ IsNumber token'.kind)) ∧
    ∀ (l l' : Lexer) (before later : List Result) (token token' : Token),
      drain l = .ok (before ++ .ok token :: .ok token' :: later) l' → IsWord token.kind →
      ¬(IsWord token'.kind ∨ IsNumber token'.kind) := by
  refine ⟨?_, fun text k => keyword?_eq_some_iff, ?_, ?_⟩
  · intro l c front starts
    obtain ⟨kind, found, word, named⟩ := scan_names_word front starts
    have longest := Utf8.longest_run (p := isWordPart) (by decide +kernel) l.ahead
    obtain ⟨ran, current⟩ := nextToken_plain (inside_of_front front) found
    refine ⟨_, kind, longest, ran, ?_, named, ?_⟩
    · rw [current, List.length_take_of_le (span_le _ _)]
    · intro nameless
      refine word.resolve_right fun keyword => ?_
      exact nameless kind keyword ((named kind keyword).mp rfl)
  · intro l l' l'' token token' ran ran'
    exact (took_of_nextToken ran).not_word_next (took_of_nextToken ran')
  · intro l l' before later token token' ran word more
    obtain ⟨m, m', -, -, drawn, rest⟩ := (iterates_of_collect ran).adjacent
    cases rest with
    | cons drawn' _ =>
      refine (took_of_draw drawn ?_).1.not_word_next (took_of_draw drawn' ?_).1 word more
      · intro same
        simp [same, IsWord, TokenKind.isKeyword] at word
      · intro same
        simp [same, IsWord, IsNumber, TokenKind.isKeyword] at more

/-- `let`, which a byte that is cut off from its character ends. -/
theorem words_are_keywords_or_identifiers_cut :
    let scratch : Arena := { id := 1, address := 4096, data := [] }
    let l : Lexer := { source := [0x6C, 0x65, 0x74, 0xC3, 0x31], scratch }
    Longest (RunOf isWordPart) [0x6C, 0x65, 0x74] l.ahead ∧
      nextToken l =
        .ok (.ok { kind := .keyword .letWord, offset := 0, lexeme := [0x6C, 0x65, 0x74] })
          l.call.2 ∧
      [0x6C, 0x65, 0x74] = nameBytes (.keyword .letWord) := by
  intro scratch l
  have called : l.call.1 =
      .ok (.ok { kind := .keyword .letWord, offset := 0, lexeme := [0x6C, 0x65, 0x74] }) := by
    decide +kernel
  obtain ⟨word, kind, longest, ran, -, named, -⟩ :=
    words_are_keywords_or_identifiers.1 l 'l' (by decide) (by decide +kernel)
  have same := congrArg Prod.fst (nextToken_eq_ok_iff.mp ran)
  rw [called] at same
  cases same
  exact ⟨longest, ran, (named (.keyword .letWord) rfl).mp rfl⟩

end FrontEnd.Lexer
