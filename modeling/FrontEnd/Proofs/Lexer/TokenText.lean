import FrontEnd.Proofs.Lexer.Lexemes
import FrontEnd.Proofs.Lexer.Tokens

/-!
# Tokens as text

Comments and strings may hold bytes that no sequence starts with; every other lexeme is text
(`Lexeme.isText`). A token is cut out at boundaries of its source, so what does not decode in it does
not decode in the source either, and the other way round (`tokens_read_as_text`).
-/

namespace FrontEnd.Lexer

open Buffer (window)
open Memory (Arena)
open Utf8 (Boundary IsText Visits decode isText_ascii)

variable {bytes source text : List UInt8} {a : Arena} {c : Char} {kind : TokenKind}
  {value : TokenValue} {shape : Shape} {token : Token} {start n : Nat}

/-! ### Lexemes -/

theorem Digits.ascii {base : Nat} (digits : Digits base text) : ∀ b ∈ text, b.toNat < 0x80 := by
  intro b member
  exact (wordPart_of_inPlace (digits.inPlace b member)).1

theorem Spells.isText (spells : Spells shape text) : IsText text := by
  apply isText_ascii
  cases spells with
  | @based c base word selects digits =>
    have letter : c.toUInt8.toNat < 0x80 := by
      obtain rfl | rfl | rfl := base?_cases selects <;> decide
    simp only [List.forall_mem_cons]
    exact ⟨by decide, letter, digits.ascii⟩
  | decimal digits => exact digits.ascii
  | fraction digits places =>
    simp only [List.forall_mem_append, List.forall_mem_cons]
    exact ⟨digits.ascii, by decide, places.ascii⟩

/-- Every lexeme is text, whatever the source, but for comments and strings. -/
theorem Lexeme.isText (lexeme : Lexeme shape text) (code : shape ≠ .plain (.trivia .lineComment))
    (unquoted : shape ≠ .quoted) : IsText text := by
  cases lexeme with
  | blank run => exact run.isText
  | comment => exact absurd rfl code
  | word => exact Utf8.isText_ofChars _
  | single single =>
    apply isText_ascii
    simpa using toNat_symbolic (ofChar?_symbolic single)
  | pair pair =>
    obtain ⟨symbolic, symbolic', -⟩ := ofPair?_symbolic pair
    apply isText_ascii
    simpa using ⟨toNat_symbolic symbolic, toNat_symbolic symbolic'⟩
  | quoted => exact absurd rfl unquoted
  | numeral spells => exact spells.isText

/-- What a string holds is text if its lexeme is. -/
theorem Lexeme.isText_quoted (lexeme : Lexeme .quoted text) (whole : IsText text) :
    IsText (window text 1 (text.length - 2)) := by
  cases lexeme with
  | @quoted body closes =>
    have opens : Boundary (0x22 :: body) 1 :=
      .ascii ((Utf8.front?_eq_some_iff (by decide)).mpr rfl) (by decide : '"'.toNat < 0x80)
    have quote : Boundary body (body.length - 1) :=
      .of_lead (closing?_quote closes) (by decide)
    exact (whole.drop opens).take quote
  | numeral spells => cases spells

/-! ### Tokens -/

theorem eq_nil_of_endOfFile (read : (reading a bytes).1 = .ok (.ok (.endOfFile, value))) :
    bytes = [] := by
  obtain ⟨shape, -⟩ | ⟨-, string, -⟩ | ⟨n, -, numeral, -⟩ := token_cases read
  · cases bytes with
    | nil => rfl
    | cons lead rest =>
      have within := (scan_fits lead rest).within
      rw [shape] at within
      exact absurd rfl within
  · cases string
  · cases numeral

theorem token_isText (read : (reading a bytes).1 = .ok (.ok (kind, value)))
    (code : kind ≠ .trivia .lineComment) (unquoted : kind ≠ .literal .string) :
    IsText (bytes.take (scan bytes).len) := by
  by_cases ends : kind = .endOfFile
  · subst ends
    rw [eq_nil_of_endOfFile read]
    exact Utf8.isText_ofChars []
  · unfold reading at read
    apply (token_lexeme read ends).isText
    · intro shape
      rw [shape] at read
      cases read
      exact code rfl
    · intro shape
      rw [shape] at read
      cases read
      exact unquoted rfl

theorem Lexeme.kind_ne (lexeme : Lexeme (.plain kind) text) : kind ≠ .literal .string := by
  cases lexeme with
  | blank | comment => nofun
  | word _ _ named =>
    subst named
    split <;> nofun
  | single single =>
    obtain ⟨delimiter, rfl⟩ | ⟨operator, rfl⟩ := ofChar?_isSymbol single <;> nofun
  | pair pair =>
    obtain ⟨delimiter, rfl⟩ | ⟨operator, rfl⟩ := ofPair?_isSymbol pair <;> nofun
  | numeral spells => cases spells

theorem text_isText (read : (reading a bytes).1 = .ok (.ok (kind, .text text)))
    (whole : IsText (bytes.take (scan bytes).len)) : IsText text := by
  obtain ⟨-, none⟩ | ⟨shape, string, held⟩ | ⟨n, -, -, other⟩ := token_cases read
  · cases none
  · have lexeme := token_lexeme read (by simp [string])
    rw [shape] at lexeme
    have length := List.length_take_of_le (scan_len_le bytes)
    have quotes := lexeme.two_le
    have within := lexeme.isText_quoted whole
    rw [length] at quotes within
    rw [Buffer.window_take (by omega)] at within
    rwa [TokenValue.text.inj held]
  · exact absurd rfl (other text)

theorem exists_text (read : (reading a bytes).1 = .ok (.ok (.literal .string, value))) :
    ∃ text, value = .text text := by
  obtain ⟨shape, -⟩ | ⟨-, -, held⟩ | ⟨n, found, same, -⟩ := token_cases read
  · have lexeme := token_lexeme read nofun
    rw [shape] at lexeme
    exact absurd rfl lexeme.kind_ne
  · exact ⟨_, held⟩
  · cases shape : (scan bytes).shape <;> rw [shape] at found <;> cases found <;> cases same

/-- However a lexer is used, each token that it hands out is cut out of the source, and is no text
only if it is a comment or a string and draining the source comes, within the token, past an offset
where nothing can be decoded. If the source is text, so are all the tokens and what the strings
hold. -/
theorem tokens_read_as_text (source : List UInt8) (scratch : Arena) (options : Options)
    (uses : List Use) {token : Token}
    (handed : HandsOut { source, scratch, options } uses token) :
    token.lexeme = window source token.offset token.lexeme.length ∧
    (token.text? = none ↔ ¬IsText token.lexeme) ∧
    (token.text? = none →
      (token.kind = .trivia .lineComment ∨ token.kind = .literal .string) ∧
      ∃ p, token.offset ≤ p ∧ p < token.stop ∧ Visits source p ∧
        (decode (source.drop p)).valid = false) ∧
    (token.kind ≠ .trivia .lineComment → token.kind ≠ .literal .string → IsText token.lexeme) ∧
    (token.kind = .literal .string → ∃ text, token.value = .text text) ∧
    (IsText source → IsText token.lexeme ∧ ∀ text, token.value = .text text → IsText text) := by
  have none_iff : token.text? = none ↔ ¬IsText token.lexeme := Utf8.text?_eq_none_iff
  have stands : Stands source scratch token := handed.stands (aligned_new source scratch options)
  cases stands with
  | fileEnd =>
    have nothing : IsText [] := Utf8.isText_ofChars []
    refine ⟨rfl, none_iff, fun none => absurd nothing (none_iff.mp none), fun _ _ => nothing, nofun,
      fun _ => ⟨nothing, nofun⟩⟩
  | @read start kind value cut reads =>
    have stop := scan_boundary (source.drop start)
    have length := List.length_take_of_le (scan_len_le (source.drop start))
    have code := token_isText reads
    refine ⟨?_, none_iff, fun none => ⟨?_, ?_⟩, code, ?_, fun whole => ?_⟩
    · rw [length]
      rfl
    · by_contra other
      rw [not_or] at other
      exact none_iff.mp none (code other.1 other.2)
    · obtain ⟨i, there, inside, invalid⟩ := Utf8.exists_malformed (none_iff.mp none)
      have before : i < (scan (source.drop start)).len := by rwa [← length]
      rw [stop.decode_take there before, List.drop_drop] at invalid
      refine ⟨start + i, Nat.le_add_right start i, Nat.add_lt_add_left inside start, ?_, invalid⟩
      exact (cut.add (stop.of_take there)).visits
    · rintro rfl
      exact exists_text reads
    · have text := (whole.drop cut).take stop
      refine ⟨text, ?_⟩
      rintro held rfl
      exact text_isText reads text

/-- A string and a comment with a byte in each that starts no sequence: the comment is no text, and
it is its own byte that does not decode. -/
theorem tokens_read_as_text_malformed :
    let source : List UInt8 := [0x22, 0xC3, 0x22, 0x2F, 0x2F, 0xFF]
    let scratch : Arena := { id := 1, address := 4096, data := [] }
    let token : Token :=
      { kind := .trivia .lineComment, offset := 3, lexeme := [0x2F, 0x2F, 0xFF] }
    HandsOut { source, scratch } [.next, .token] token ∧ token.text? = none ∧
      ∃ p, 3 ≤ p ∧ p < 6 ∧ Visits source p ∧ (decode (source.drop p)).valid = false := by
  intro source scratch token
  have handed : HandsOut { source, scratch } [.next, .token] token :=
    ⟨.read (.ok token), by decide +kernel, rfl⟩
  have none : token.text? = none := by decide
  obtain ⟨-, -, malformed, -⟩ := tokens_read_as_text source scratch {} _ handed
  exact ⟨handed, none, (malformed none).2⟩

end FrontEnd.Lexer
