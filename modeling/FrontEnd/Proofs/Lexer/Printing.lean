import FrontEnd.Proofs.Lexer.Answer
import FrontEnd.Proofs.Lexer.Classes
import FrontEnd.Proofs.Lexer.Quotes
import FrontEnd.Proofs.Number.Decimal

/-!
# Printed tokens

An `Item` is a token that can be printed, a `Gap` the white space that sets two of them apart. Each
is read back as the `Piece` that it is (`Item.reads`, `Gap.reads`).
-/

namespace FrontEnd.Lexer

open Buffer (window)
open Memory (Arena)
open Unicode (isWhitespace)
open Utf8 (decode front? ofChars span)

/-- What is printed for a token, and what it should be read as. -/
structure Piece where
  kind : TokenKind
  value : TokenValue := .none
  text : List UInt8
  deriving DecidableEq, Repr

/-- A lexer finds the piece in front of `rest`, and looks at no arena to read it. -/
structure Piece.Reads (piece : Piece) (rest : List UInt8) : Prop where
  length : (scan (piece.text ++ rest)).len = piece.text.length
  read : ∀ a, reading a (piece.text ++ rest) = (.ok (.ok (piece.kind, piece.value)), a)

/-- A token that can be printed. -/
inductive Item where
  /-- A bracket, an operator or a keyword. -/
  | fixed (kind : TokenKind) (spelled : kind.spelling?.isSome = true)
  | integer (value : Nat) (fits : value ≤ Number.maxSigned64)
  | identifier (first : Char) (later : List Char) (starts : isWordStart first = true)
    (goes_on : ∀ c ∈ later, isWordPart c = true)
    (free : ∀ word : Keyword, word.spelling ≠ first :: later)
  /-- A string without quotes and escapes in it. -/
  | quoted (body : List UInt8) (plain : ∀ b ∈ body, b ≠ 0x22 ∧ b ≠ 0x5C)

/-- White space, and not none of it. -/
structure Gap where
  first : Char
  later : List Char
  blank : ∀ c ∈ first :: later, isWhitespace c = true

/-- The text of an item, and what it is to be read as. -/
def Item.piece : Item → Piece
  | fixed kind _ => { kind, text := ofChars kind.name.toList }
  | integer value _ =>
    { kind := .literal .integer, value := .integer value, text := ofChars value.repr.toList }
  | identifier first later _ _ _ =>
    { kind := .literal .identifier, text := ofChars (first :: later) }
  | quoted body _ =>
    { kind := .literal .string, value := .text body, text := 0x22 :: (body ++ [0x22]) }

/-- The text of a gap. -/
def Gap.piece (gap : Gap) : Piece :=
  { kind := .trivia .whitespace, text := ofChars (gap.first :: gap.later) }

variable {c d : Char} {cs : List Char} {bytes rest text : List UInt8} {kind : TokenKind}
  {spelling : List Char}

/-! ### What a first character stands for -/

theorem scan_of_blank (front : front? bytes = some c) (blank : isWhitespace c = true) :
    scan bytes = ⟨.plain (.trivia .whitespace), span isWhitespace bytes⟩ := by
  cases bytes with
  | nil => cases front
  | cons lead more =>
    obtain rfl := Option.some.inj front
    unfold scan
    exact if_pos blank

theorem scan_of_wordStart (front : front? bytes = some c) (starts : isWordStart c = true) :
    scan bytes = scanWord bytes := by
  cases bytes with
  | nil => cases front
  | cons lead more =>
    obtain rfl := Option.some.inj front
    have dark := not_blank_of_wordPart (wordPart_of_wordStart starts)
    have no_slash : ¬((decode (lead :: more)).char = '/' ∧ front? more = some '/') := by
      rintro ⟨slash, -⟩
      rw [slash] at starts
      exact absurd starts (by decide)
    unfold scan
    simp only [dark, no_slash, starts, if_true, if_false, Bool.false_eq_true]

theorem scan_of_quote (front : front? bytes = some '"') : scan bytes = scanString bytes := by
  cases bytes with
  | nil => cases front
  | cons lead more =>
    have quote := Option.some.inj front
    have dark : isWhitespace '"' = false := by decide
    have no_word : isWordStart '"' = false := by decide
    unfold scan
    simp [quote, dark, no_word]

theorem slashes_iff {lead : UInt8} :
    (decode (lead :: rest)).char = '/' ∧ front? rest = some '/' ↔ [0x2F, 0x2F] <+: lead :: rest := by
  have second : front? rest = some '/' ↔ rest.head? = some 0x2F := Utf8.front?_eq_some_iff (by decide)
  rw [second, List.cons_prefix_cons, List.singleton_prefix_iff_head?_eq_some]
  constructor
  · rintro ⟨slash, again⟩
    exact ⟨(Utf8.lead_of_char (by decide) slash).symm, again⟩
  · rintro ⟨rfl, again⟩
    exact ⟨Utf8.char_ascii (by decide), again⟩

theorem scan_of_slashes (slashes : [0x2F, 0x2F] <+: bytes) :
    scan bytes = ⟨.plain (.trivia .lineComment), span (· != '\n') bytes⟩ := by
  cases bytes with
  | nil => simp at slashes
  | cons lead rest =>
    have twice := slashes_iff.mpr slashes
    have dark : isWhitespace '/' = false := by decide
    unfold scan
    dsimp only
    rw [twice.1, if_neg (by simp [dark]), if_pos ⟨rfl, twice.2⟩]

theorem scan_of_symbol {lead : UInt8} (front : front? (lead :: rest) = some c)
    (dark : isWhitespace c = false) (no_word : isWordStart c = false) (no_digit : c.isDigit = false)
    (no_quote : c ≠ '"') (no_comment : ¬[0x2F, 0x2F] <+: lead :: rest) :
    scan (lead :: rest) = scanSymbol lead (lead :: rest) := by
  obtain rfl := Option.some.inj front
  rw [← slashes_iff] at no_comment
  unfold scan
  simp only [dark, no_comment, no_word, no_digit, no_quote, if_false, Bool.false_eq_true]

/-- An ASCII character that starts none but symbols. -/
def Symbolic (c : Char) : Prop :=
  c.toNat < 0x80 ∧ isWhitespace c = false ∧ isWordStart c = false ∧ c.isDigit = false ∧ c ≠ '"'

instance (c : Char) : Decidable (Symbolic c) := inferInstanceAs (Decidable (_ ∧ _))

theorem toNat_symbolic (symbolic : Symbolic c) : c.toUInt8.toNat < 0x80 := by
  rw [Utf8.toNat_toUInt8 symbolic.1]
  exact symbolic.1

theorem scan_of_symbolic (symbolic : Symbolic c)
    (no_comment : ¬(c = '/' ∧ front? rest = some '/')) :
    scan (c.toUInt8 :: rest) = scanSymbol c.toUInt8 (c.toUInt8 :: rest) := by
  obtain ⟨ascii, dark, no_word, no_digit, no_quote⟩ := symbolic
  have front : front? (c.toUInt8 :: rest) = some c := (Utf8.front?_eq_some_iff ascii).mpr rfl
  apply scan_of_symbol front dark no_word no_digit no_quote
  rwa [← slashes_iff, Option.some.inj front]

/-! ### Symbols and keywords -/

theorem reads_of_scan (found : scan (text ++ rest) = ⟨.plain kind, text.length⟩) :
    Piece.Reads { kind, text } rest := by
  refine ⟨by rw [found], fun a => ?_⟩
  unfold reading
  rw [found]
  rfl

/-- A kind with a text of its own is a keyword, or a symbol of one or two characters. -/
theorem spelling?_cases (spelled : kind.spelling? = some spelling) :
    (∃ word : Keyword, kind = .keyword word ∧ spelling = word.spelling) ∨
    (∃ c, spelling = [c] ∧ Symbolic c ∧ TokenKind.ofChar? c = some kind) ∨
    (∃ c d, spelling = [c, d] ∧ Symbolic c ∧ Symbolic d ∧ d ≠ '/' ∧
      TokenKind.ofPair? c d = some kind) := by
  cases kind with
  | keyword word =>
    cases spelled
    exact Or.inl ⟨word, rfl, rfl⟩
  | delimiter bracket =>
    cases spelled
    refine Or.inr (Or.inl ?_)
    cases bracket <;> exact ⟨_, rfl, by decide, rfl⟩
  | operator symbol =>
    cases spelled
    right
    cases symbol <;>
      first
      | exact Or.inl ⟨_, rfl, by decide, rfl⟩
      | exact Or.inr ⟨_, _, rfl, by decide, by decide, by decide, rfl⟩
  | _ => cases spelled

theorem toList_name (spelled : kind.spelling? = some spelling) : kind.name.toList = spelling := by
  cases kind with
  | delimiter | operator | keyword =>
    cases spelled
    exact String.toList_ofList
  | _ => cases spelled

theorem scan_symbol (symbolic : Symbolic c)
    (no_comment : ¬(c = '/' ∧ front? (text ++ rest) = some '/'))
    (longest : TokenKind.longestSymbol? c (front? (text ++ rest)) = some (kind, text.length + 1)) :
    scan (c.toUInt8 :: text ++ rest) = ⟨.plain kind, text.length + 1⟩ := by
  have low := toNat_symbolic symbolic
  have read : decode (c.toUInt8 :: (text ++ rest)) = ⟨c.toUInt8.toNat, 1, true⟩ :=
    Utf8.decode_ascii low
  have char : (decode (c.toUInt8 :: (text ++ rest))).char = c := by
    rw [Utf8.char_ascii low, Utf8.ofUInt8_toUInt8 symbolic.1]
  rw [List.cons_append, scan_of_symbolic symbolic no_comment]
  unfold scanSymbol
  dsimp only
  rw [char, read, List.drop_succ_cons, List.drop_zero, longest]

theorem reads_symbol (symbolic : Symbolic c)
    (no_comment : ¬(c = '/' ∧ front? (text ++ rest) = some '/'))
    (longest : TokenKind.longestSymbol? c (front? (text ++ rest)) = some (kind, text.length + 1)) :
    Piece.Reads { kind, text := c.toUInt8 :: text } rest :=
  reads_of_scan (scan_symbol symbolic no_comment longest)

theorem reads_single (symbolic : Symbolic c) (single : TokenKind.ofChar? c = some kind)
    (apart : Apart rest) : Piece.Reads { kind, text := [c.toUInt8] } rest := by
  refine reads_symbol symbolic (fun comment => ?_) ?_
  · exact absurd (apart '/' comment.2) (by decide)
  · rw [List.nil_append, TokenKind.longestSymbol?, apart.ofPair?, single]
    rfl

theorem reads_pair (symbolic : Symbolic c) (symbolic' : Symbolic d) (no_slash : d ≠ '/')
    (pair : TokenKind.ofPair? c d = some kind) (rest : List UInt8) :
    Piece.Reads { kind, text := [c.toUInt8, d.toUInt8] } rest := by
  have front : front? (d.toUInt8 :: rest) = some d := (Utf8.front?_eq_some_iff symbolic'.1).mpr rfl
  refine reads_symbol symbolic (fun comment => ?_) ?_
  · exact no_slash (Option.some.inj (front.symm.trans comment.2))
  · rw [List.singleton_append, front, TokenKind.longestSymbol?, Option.bind_some, pair]
    rfl

theorem scan_word {first : Char} {later : List Char} (starts : isWordStart first = true)
    (goes_on : ∀ c ∈ later, isWordPart c = true)
    (named : kind = match Keyword.ofBytes? (ofChars (first :: later)) with
      | some word => .keyword word
      | none => .literal .identifier)
    (stops : ∀ c, front? rest = some c → isWordPart c = false) :
    scan (ofChars (first :: later) ++ rest) =
      ⟨.plain kind, (ofChars (first :: later)).length⟩ := by
  have front := Utf8.front?_ofChars_cons first later rest
  have word : ∀ c ∈ first :: later, isWordPart c = true :=
    List.forall_mem_cons.mpr ⟨wordPart_of_wordStart starts, goes_on⟩
  have whole : span isWordPart (ofChars (first :: later) ++ rest) = _ :=
    Utf8.span_ofChars word stops
  rw [scan_of_wordStart front starts, named]
  unfold scanWord
  dsimp only
  rw [whole, List.take_left]
  cases Keyword.ofBytes? (ofChars (first :: later)) with
  | some word => rfl
  | none => rfl

theorem reads_word {first : Char} {later : List Char} (starts : isWordStart first = true)
    (goes_on : ∀ c ∈ later, isWordPart c = true)
    (named : kind = match Keyword.ofBytes? (ofChars (first :: later)) with
      | some word => .keyword word
      | none => .literal .identifier)
    (apart : Apart rest) : Piece.Reads { kind, text := ofChars (first :: later) } rest :=
  reads_of_scan (scan_word starts goes_on named apart.wordPart)

theorem spelling_of_ofWord? {word : Keyword} (found : Keyword.ofWord? cs = some word) :
    cs = word.spelling := by
  unfold Keyword.ofWord? at found
  split at found <;>
    first
    | cases found
    | split at found
      · cases found
        subst_vars
        rfl
      · cases found

theorem ofBytes?_eq_some_iff {word : Keyword} :
    Keyword.ofBytes? text = some word ↔ text = ofChars word.spelling := by
  constructor
  · intro found
    have ascii : ∀ c ∈ word.spelling, c.toNat < 0x80 := by
      cases word <;> simp [Keyword.spelling]
    rw [Utf8.ofChars_ascii ascii, ← spelling_of_ofWord? found, List.map_map]
    exact ((List.map_congr_left fun b _ => Utf8.toUInt8_ofUInt8 b).trans (List.map_id _)).symm
  · rintro rfl
    cases word <;> decide

theorem ofBytes?_ofChars_eq_some_iff {word : Keyword} :
    Keyword.ofBytes? (ofChars cs) = some word ↔ cs = word.spelling := by
  rw [ofBytes?_eq_some_iff, Utf8.ofChars_inj]

theorem reads_keyword (word : Keyword) (apart : Apart rest) :
    Piece.Reads { kind := .keyword word, text := ofChars word.spelling } rest := by
  have letters : ∃ first later, word.spelling = first :: later ∧ isWordStart first = true ∧
      ∀ c ∈ later, isWordPart c = true := by
    cases word <;> exact ⟨_, _, rfl, by decide, List.all_eq_true.mp rfl⟩
  have found : Keyword.ofBytes? (ofChars word.spelling) = some word :=
    ofBytes?_ofChars_eq_some_iff.mpr rfl
  obtain ⟨first, later, same, starts, goes_on⟩ := letters
  rw [same] at found ⊢
  exact reads_word starts goes_on (by rw [found]) apart

theorem reads_fixed (spelled : kind.spelling? = some spelling) (apart : Apart rest) :
    Piece.Reads { kind, text := ofChars spelling } rest := by
  obtain ⟨word, rfl, rfl⟩ | ⟨c, rfl, symbolic, single⟩ |
    ⟨c, d, rfl, symbolic, symbolic', no_slash, pair⟩ := spelling?_cases spelled
  · exact reads_keyword word apart
  · rw [Utf8.ofChars_ascii (by simpa using symbolic.1)]
    exact reads_single symbolic single apart
  · rw [Utf8.ofChars_ascii (by simpa using ⟨symbolic.1, symbolic'.1⟩)]
    exact reads_pair symbolic symbolic' no_slash pair rest

theorem reads_identifier {first : Char} {later : List Char} (starts : isWordStart first = true)
    (goes_on : ∀ c ∈ later, isWordPart c = true)
    (free : ∀ word : Keyword, word.spelling ≠ first :: later) (apart : Apart rest) :
    Piece.Reads { kind := .literal .identifier, text := ofChars (first :: later) } rest := by
  have no_keyword : Keyword.ofBytes? (ofChars (first :: later)) = none := by
    refine Option.eq_none_iff_forall_ne_some.mpr fun word found => ?_
    exact free word (ofBytes?_ofChars_eq_some_iff.mp found).symm
  exact reads_word starts goes_on (by rw [no_keyword]) apart

/-! ### Literals -/

theorem digits_repr (value : Nat) : Digits 10 (ofChars value.repr.toList) := by
  have each : ∀ c ∈ value.repr.toList, (Number.digit? 10 c.toUInt8).isSome := by
    intro c member
    rw [Number.digit?_of_isDigit (Number.isDigit_of_mem_repr member)]
    rfl
  rw [Number.ofChars_repr]
  obtain ⟨c, cs, same⟩ := List.exists_cons_of_ne_nil (Number.repr_ne_nil value)
  rw [same] at each ⊢
  refine ⟨each c List.mem_cons_self, fun b member => ?_⟩
  obtain ⟨d, later, rfl⟩ := List.mem_map.mp member
  unfold inPlace
  rw [each d (List.mem_cons_of_mem _ later), Bool.or_true]

theorem separator_not_mem_repr (value : Nat) : separator ∉ ofChars value.repr.toList := by
  rw [Number.ofChars_repr]
  intro member
  obtain ⟨c, digit, same⟩ := List.mem_map.mp member
  have read := Number.digit?_of_isDigit (Number.isDigit_of_mem_repr digit)
  rw [same] at read
  cases read

theorem reads_integer {value : Nat} (fits : value ≤ Number.maxSigned64) (apart : Apart rest) :
    Piece.Reads
      { kind := .literal .integer, value := .integer value, text := ofChars value.repr.toList }
      rest := by
  have digits := digits_repr value
  have plain := separator_not_mem_repr value
  have number := Number.signed64?_repr fits
  generalize ofChars value.repr.toList = text at digits plain number ⊢
  have found : scan (text ++ rest) = ⟨.decimal, text.length⟩ := by
    have unmarked := selector?_eq_none digits apart.isAlpha
    have whole := scanDecimal_append digits apart.inPlace
    rw [if_neg fun point => apart.point point.1] at whole
    obtain ⟨d, more, rfl, digit, -⟩ := digits.exists_cons
    rw [List.cons_append, scan_of_digit digit, scanNumber, ← List.cons_append, unmarked]
    exact whole
  refine ⟨by rw [found], fun a => ?_⟩
  unfold reading
  rw [found]
  dsimp only [Shape.readIn, Numeral.readIn, Numeral.integer]
  rw [List.take_left, List.drop_zero, staged, if_neg plain]
  simp [Except.map, Numeral.finish, Numeral.evaluate, number]

theorem reads_quoted {body : List UInt8} (plain : ∀ b ∈ body, b ≠ 0x22 ∧ b ≠ 0x5C)
    (rest : List UInt8) :
    Piece.Reads
      { kind := .literal .string, value := .text body, text := 0x22 :: (body ++ [0x22]) }
      rest := by
  have text : 0x22 :: (body ++ [0x22]) ++ rest = 0x22 :: (body ++ 0x22 :: rest) := by simp
  have front : front? (0x22 :: (body ++ 0x22 :: rest)) = some '"' :=
    (Utf8.front?_eq_some_iff (by decide)).mpr rfl
  have found : scan (0x22 :: (body ++ 0x22 :: rest)) = ⟨.quoted, body.length + 2⟩ := by
    rw [scan_of_quote front]
    unfold scanString
    rw [List.drop_succ_cons, List.drop_zero, closing?_plain plain]
  constructor
  · dsimp only
    rw [text, found]
    simp
  · intro a
    dsimp only
    unfold reading
    rw [text, found]
    have between : window (0x22 :: (body ++ 0x22 :: rest)) 1 (body.length + 2 - 2) = body :=
      List.take_left
    dsimp only [Shape.readIn]
    rw [between]

/-! ### Items and gaps -/

theorem Item.reads (item : Item) (apart : Apart rest) : item.piece.Reads rest := by
  cases item with
  | fixed kind spelled =>
    obtain ⟨spelling, spelled⟩ := Option.isSome_iff_exists.mp spelled
    dsimp only [Item.piece]
    rw [toList_name spelled]
    exact reads_fixed spelled apart
  | integer value fits => exact reads_integer fits apart
  | identifier first later starts goes_on free => exact reads_identifier starts goes_on free apart
  | quoted body plain => exact reads_quoted plain rest

/-- No token starts with white space. -/
theorem Item.front (item : Item) (rest : List UInt8) :
    ∃ c, front? (item.piece.text ++ rest) = some c ∧ isWhitespace c = false := by
  cases item with
  | fixed kind spelled =>
    obtain ⟨spelling, spelled⟩ := Option.isSome_iff_exists.mp spelled
    dsimp only [Item.piece]
    rw [toList_name spelled]
    obtain ⟨word, -, rfl⟩ | ⟨c, rfl, symbolic, -⟩ | ⟨c, d, rfl, symbolic, -⟩ :=
      spelling?_cases spelled
    · obtain ⟨first, later, same, dark⟩ : ∃ first later, word.spelling = first :: later ∧
          isWhitespace first = false := by
        cases word <;> exact ⟨_, _, rfl, by decide⟩
      rw [same]
      exact ⟨first, Utf8.front?_ofChars_cons .., dark⟩
    · exact ⟨c, Utf8.front?_ofChars_cons .., symbolic.2.1⟩
    · exact ⟨c, Utf8.front?_ofChars_cons .., symbolic.2.1⟩
  | integer value fits =>
    obtain ⟨c, cs, same⟩ := List.exists_cons_of_ne_nil (Number.repr_ne_nil value)
    have digit : c.isDigit = true := Number.isDigit_of_mem_repr (by rw [same]; simp)
    dsimp only [Item.piece]
    rw [same]
    exact ⟨c, Utf8.front?_ofChars_cons .., not_blank_of_isDigit digit⟩
  | identifier first later starts goes_on free =>
    exact ⟨first, Utf8.front?_ofChars_cons ..,
      not_blank_of_wordPart (wordPart_of_wordStart starts)⟩
  | quoted body plain =>
    exact ⟨'"', (Utf8.front?_eq_some_iff (by decide)).mpr rfl, by decide⟩

theorem Gap.apart (gap : Gap) (rest : List UInt8) : Apart (gap.piece.text ++ rest) := by
  intro c front
  obtain rfl := Option.some.inj ((Utf8.front?_ofChars_cons ..).symm.trans front)
  exact gap.blank _ List.mem_cons_self

theorem Gap.reads (gap : Gap) (stops : ∀ c, front? rest = some c → isWhitespace c = false) :
    gap.piece.Reads rest := by
  refine reads_of_scan ?_
  have front := Utf8.front?_ofChars_cons gap.first gap.later rest
  rw [scan_of_blank front (gap.blank _ List.mem_cons_self), Utf8.span_ofChars gap.blank stops]

end FrontEnd.Lexer
