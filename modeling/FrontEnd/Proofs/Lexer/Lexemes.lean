import FrontEnd.Proofs.Lexer.Numerals
import FrontEnd.Proofs.Lexer.Printing
import FrontEnd.Proofs.Lexer.Scratch
import FrontEnd.Proofs.Lexer.Stops
import FrontEnd.Proofs.Utf8.Runs

/-!
# Lexemes

`Lexeme` lists the bytes of the tokens of each shape, without what follows them. What a token takes
of a source is one of them (`scan_lexed`), and each of them is scanned as a whole (`Lexeme.scan`).
-/

namespace FrontEnd.Lexer

open Buffer (window)
open Memory (Arena)
open Unicode (isWhitespace)
open Utf8 (Boundary IsText RunOf decode front? ofChars span)

/-- The bytes of the lexemes of each shape. -/
inductive Lexeme : Shape → List UInt8 → Prop where
  | blank {text : List UInt8} (run : RunOf isWhitespace text) (more : text ≠ []) :
      Lexeme (.plain (.trivia .whitespace)) text
  | comment {line : List UInt8} (unbroken : span (· != '\n') line = line.length) :
      Lexeme (.plain (.trivia .lineComment)) (0x2F :: 0x2F :: line)
  | word {first : Char} {later : List Char} {kind : TokenKind} (starts : isWordStart first = true)
      (goes_on : ∀ c ∈ later, isWordPart c = true)
      (named : kind = match Keyword.ofBytes? (ofChars (first :: later)) with
        | some word => .keyword word
        | none => .literal .identifier) :
      Lexeme (.plain kind) (ofChars (first :: later))
  | single {c : Char} {kind : TokenKind} (single : TokenKind.ofChar? c = some kind) :
      Lexeme (.plain kind) [c.toUInt8]
  | pair {c d : Char} {kind : TokenKind} (pair : TokenKind.ofPair? c d = some kind) :
      Lexeme (.plain kind) [c.toUInt8, d.toUInt8]
  | quoted {body : List UInt8} (closes : closing? body = some body.length) :
      Lexeme .quoted (0x22 :: body)
  | numeral {shape : Shape} {text : List UInt8} (spells : Spells shape text) : Lexeme shape text

/-- A shape that is no token, or the end of the file. -/
def Shape.Tokenless : Shape → Prop
  | .plain kind => kind = .endOfFile
  | .badDigit _ _ | .rejected _ => True
  | .quoted | .based _ | .decimal | .fraction => False

/-- A shape that is no token, or one that takes a lexeme. -/
def Scanned.Lexed (found : Scanned) (bytes : List UInt8) : Prop :=
  found.shape.Tokenless ∨ Lexeme found.shape (bytes.take found.len)

variable {p : Char → Bool} {bytes rest text : List UInt8} {lead : UInt8} {c d : Char}
  {kind : TokenKind} {value : TokenValue} {shape : Shape} {a : Arena} {n : Nat}

/-! ### Runs that are cut off -/

theorem span_unit (more : bytes ≠ []) :
    span p bytes =
      if p (decode bytes).char then
        (decode bytes).len + span p (bytes.drop (decode bytes).len)
      else 0 := by
  obtain ⟨lead, rest, rfl⟩ := List.exists_cons_of_ne_nil more
  split
  · rename_i goes_on
    exact Utf8.span_cons goes_on
  · rename_i stops
    exact Utf8.span_eq_zero (Bool.eq_false_iff.mpr stops)

theorem span_take_span (p : Char → Bool) (bytes : List UInt8) :
    span p (bytes.take (span p bytes)) = span p bytes := by
  induction bytes using Utf8.unitInduction with
  | nil => rfl
  | unit bytes more ih =>
    have cut : Boundary bytes (span p bytes) := .run p bytes
    have whole := span_unit (p := p) more
    split at whole
    · rename_i goes_on
      -- the run ends at a boundary, so its first unit is not the one that is cut
      have pos := Utf8.decode_len_pos bytes
      have same : decode (bytes.take (span p bytes)) = decode bytes :=
        cut.decode_take (.start _) (by omega)
      have some_left : bytes.take (span p bytes) ≠ [] := by
        simp [more]
        omega
      rw [span_unit some_left, same, if_pos goes_on, List.drop_take, whole,
        Nat.add_sub_cancel_left, ih]
    · rw [whole]
      rfl

/-! ### What a token takes is a lexeme -/

theorem front?_take {m : Nat} (cut : Boundary bytes m) (pos : 0 < m) :
    front? (bytes.take m) = front? bytes := by
  cases bytes with
  | nil => rw [List.take_nil]
  | cons lead rest =>
    have same : decode ((lead :: rest).take m) = decode (lead :: rest) :=
      cut.decode_take (.start _) pos
    obtain ⟨m, rfl⟩ := Nat.exists_eq_succ_of_ne_zero (Nat.ne_of_gt pos)
    exact congrArg (some ·.char) same

theorem scanWord_lexed (starts : isWordStart (decode (lead :: rest)).char = true) :
    (scanWord (lead :: rest)).Lexed (lead :: rest) := by
  right
  have front := front?_take (.run isWordPart (lead :: rest)) (span_pos (wordPart_of_wordStart starts))
  obtain ⟨cs, written, parts⟩ := Utf8.runOf_take_span (p := isWordPart) (by decide +kernel)
    (lead :: rest)
  unfold scanWord
  dsimp only
  cases cs with
  | nil =>
    rw [written] at front
    cases front
  | cons first later =>
    have read := Utf8.front?_ofChars_cons first later []
    rw [List.append_nil, ← written, front] at read
    obtain rfl : (decode (lead :: rest)).char = first := Option.some.inj read
    rw [List.forall_mem_cons] at parts
    -- a keyword is looked up by the bytes of the word, however it is written
    cases found : Keyword.ofBytes? ((lead :: rest).take (span isWordPart (lead :: rest))) with
    | some word =>
      rw [written] at found ⊢
      exact .word starts parts.2 (by rw [found])
    | none =>
      rw [written] at found ⊢
      exact .word starts parts.2 (by rw [found])

theorem scanString_lexed (opens : (decode (lead :: rest)).char = '"') :
    (scanString (lead :: rest)).Lexed (lead :: rest) := by
  obtain rfl : lead = 0x22 := Utf8.lead_of_char (by decide) opens
  unfold scanString
  rw [List.drop_succ_cons, List.drop_zero]
  split
  · rename_i len closes
    have length : (rest.take len).length = len :=
      List.length_take_of_le (closingFrom?_bounds closes).2
    right
    rw [List.take_succ_cons]
    exact .quoted ((closing?_take closes).trans (congrArg some length.symm))
  · exact Or.inl trivial

theorem scanSymbol_lexed (lead : UInt8) (rest : List UInt8) :
    (scanSymbol lead (lead :: rest)).Lexed (lead :: rest) := by
  unfold scanSymbol
  dsimp only
  split
  · rename_i kind len longest
    right
    unfold TokenKind.longestSymbol? at longest
    split at longest
    · rename_i both
      cases longest
      obtain ⟨second, follows, pair⟩ := Option.bind_eq_some_iff.mp both
      have low := Utf8.lead_of_char_ascii (ofPair?_ascii pair).1
      rw [Utf8.decode_ascii low, List.drop_succ_cons, List.drop_zero,
        Utf8.front?_eq_some_iff (ofPair?_ascii pair).2] at follows
      obtain ⟨more, rfl⟩ := List.head?_eq_some_iff.mp follows
      have lexeme := Lexeme.pair pair
      rwa [Utf8.char_ascii low, Utf8.toUInt8_ofUInt8] at lexeme
    -- no pair stands here, so the symbol is the one character, if it is one
    · obtain ⟨single, found, same⟩ := Option.map_eq_some_iff.mp longest
      cases same
      have low := Utf8.lead_of_char_ascii (ofChar?_ascii found)
      have lexeme := Lexeme.single found
      rwa [Utf8.char_ascii low, Utf8.toUInt8_ofUInt8] at lexeme
  · exact Or.inl trivial

theorem span_slashes (line : List UInt8) :
    span (· != '\n') (0x2F :: 0x2F :: line) = span (· != '\n') line + 2 := by
  rw [Utf8.span_cons_ascii (by decide) (by decide), Utf8.span_cons_ascii (by decide) (by decide)]

theorem comment_lexeme (slashes : [0x2F, 0x2F] <+: bytes) :
    Lexeme (.plain (.trivia .lineComment)) (bytes.take (span (· != '\n') bytes)) := by
  obtain ⟨line, rfl⟩ := slashes
  show Lexeme _ ((0x2F :: 0x2F :: line).take (span (· != '\n') (0x2F :: 0x2F :: line)))
  rw [span_slashes]
  refine .comment ?_
  rw [span_take_span, List.length_take_of_le (span_le _ _)]

theorem scanNumber_tokenless (none_read : (scanNumber bytes).shape.Numberless) :
    (scanNumber bytes).shape.Tokenless := by
  generalize found : scanNumber bytes = scanned at none_read ⊢
  unfold scanNumber scanBased scanDecimal at found
  dsimp only at found
  repeat' split at found
  all_goals
    subst found
    first
    | exact none_read.elim
    | trivial

theorem scanNumber_lexed (digit : (decode (lead :: rest)).char.isDigit = true) :
    (scanNumber (lead :: rest)).Lexed (lead :: rest) := by
  rw [Utf8.ascii_isDigit.decode_char, isDigit_ofUInt8] at digit
  exact (scanNumber_spelled digit).imp scanNumber_tokenless .numeral

/-- What a token takes of a source is a lexeme of its shape. -/
theorem scan_lexed (bytes : List UInt8) : (scan bytes).Lexed bytes := by
  cases bytes with
  | nil => exact Or.inl rfl
  | cons lead rest =>
    unfold scan
    dsimp only
    split
    · rename_i blank
      have pos := span_pos blank
      refine Or.inr (.blank (Utf8.runOf_take_span (by decide) _) ?_)
      simp
      omega
    split
    · rename_i slashes
      exact Or.inr (comment_lexeme (slashes_iff.mp slashes))
    split
    · rename_i starts
      exact scanWord_lexed starts
    split
    · rename_i digit
      exact scanNumber_lexed digit
    split
    · rename_i opens
      exact scanString_lexed opens
    · exact scanSymbol_lexed lead rest

/-! ### A lexeme is scanned as a whole -/

theorem ofChar?_symbolic (single : TokenKind.ofChar? c = some kind) : Symbolic c := by
  unfold TokenKind.ofChar? at single
  split at single <;> first | decide | cases single

theorem ofPair?_symbolic (pair : TokenKind.ofPair? c d = some kind) :
    Symbolic c ∧ Symbolic d ∧ d ≠ '/' := by
  unfold TokenKind.ofPair? at pair
  split at pair <;> first | decide | cases pair

theorem Lexeme.scan (lexeme : Lexeme shape text) : scan text = ⟨shape, text.length⟩ := by
  cases lexeme with
  | blank run more =>
    obtain ⟨cs, rfl, blank⟩ := run
    cases cs with
    | nil => exact absurd rfl more
    | cons c cs =>
      have front := Utf8.front?_ofChars_cons c cs []
      have whole : span isWhitespace (ofChars (c :: cs) ++ []) = _ := Utf8.span_ofChars blank nofun
      rw [List.append_nil] at front whole
      rw [scan_of_blank front (blank c List.mem_cons_self), whole]
  | @comment line unbroken =>
    have slashes : [0x2F, 0x2F] <+: 0x2F :: 0x2F :: line := List.prefix_append _ _
    rw [scan_of_slashes slashes, span_slashes, unbroken]
    rfl
  | @word first later kind starts goes_on named =>
    have whole : Lexer.scan (ofChars (first :: later) ++ []) = _ :=
      scan_word starts goes_on named nofun
    rwa [List.append_nil] at whole
  | @single c kind single =>
    refine @scan_symbol c [] [] kind (ofChar?_symbolic single) (by simp [front?]) ?_
    simp [TokenKind.longestSymbol?, front?, single]
  | @pair c d kind pair =>
    obtain ⟨symbolic, symbolic', no_slash⟩ := ofPair?_symbolic pair
    have front : front? [d.toUInt8] = some d := (Utf8.front?_eq_some_iff symbolic'.1).mpr rfl
    refine @scan_symbol c [] [d.toUInt8] kind symbolic ?_ ?_
    · simp [front, no_slash]
    · simp [TokenKind.longestSymbol?, front, pair]
  | @quoted body closes =>
    have opens : front? (0x22 :: body) = some '"' := (Utf8.front?_eq_some_iff (by decide)).mpr rfl
    rw [scan_of_quote opens, scanString, List.drop_succ_cons, List.drop_zero, closes]
    rfl
  | numeral spells => exact scan_of_spells spells

theorem Lexeme.two_le (lexeme : Lexeme .quoted text) : 2 ≤ text.length := by
  cases lexeme with
  | quoted closes => exact Nat.succ_le_succ (closingFrom?_bounds closes).1
  | numeral spells => cases spells

/-! ### Tokens -/

/-- A token is plain, a string or a numeral. -/
theorem token_cases (read : (reading a bytes).1 = .ok (.ok (kind, value))) :
    ((scan bytes).shape = .plain kind ∧ value = .none) ∨
    ((scan bytes).shape = .quoted ∧ kind = .literal .string ∧
      value = .text (window bytes 1 ((scan bytes).len - 2))) ∨
    ∃ n, (scan bytes).shape.numeral? = some n ∧ kind = .literal n.kind ∧
      ∀ text, value ≠ .text text := by
  cases found : (scan bytes).shape.numeral? with
  | some n =>
    refine Or.inr (Or.inr ⟨n, rfl, ?_⟩)
    rw [reading_numeral found] at read
    obtain evaluated | ⟨refusal, refused⟩ := Numeral.readIn_ok read
    · unfold Numeral.evaluate at evaluated
      split at evaluated
      · rename_i v number
        simp only [Except.ok.injEq, Prod.mk.injEq] at evaluated
        obtain ⟨rfl, rfl⟩ := evaluated
        refine ⟨rfl, ?_⟩
        rintro text rfl
        cases shape : (scan bytes).shape <;> rw [shape] at found <;> cases found <;>
          simp [Numeral.integer, Numeral.real] at number
      · cases evaluated
    · cases refused
  | none =>
    unfold reading at read
    cases shape : (scan bytes).shape <;> rw [shape] at found read <;> cases found <;> cases read
    · exact Or.inl ⟨rfl, rfl⟩
    · exact Or.inr (Or.inl ⟨rfl, rfl, rfl⟩)

theorem token_lexeme (read : (reading a bytes).1 = .ok (.ok (kind, value)))
    (more : kind ≠ .endOfFile) : Lexeme (scan bytes).shape (bytes.take (scan bytes).len) := by
  obtain tokenless | lexeme := scan_lexed bytes
  · obtain ⟨shape, -⟩ | ⟨shape, -⟩ | ⟨n, found, -⟩ := token_cases read
    · rw [shape] at tokenless
      exact absurd tokenless more
    · rw [shape] at tokenless
      exact tokenless.elim
    · cases shape : (scan bytes).shape <;> rw [shape] at found tokenless <;> cases found <;>
        exact tokenless.elim
  · exact lexeme

end FrontEnd.Lexer
