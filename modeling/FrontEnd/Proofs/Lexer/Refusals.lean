import FrontEnd.Proofs.Lexer.Naming
import FrontEnd.Proofs.Lexer.Symbols

/-!
# What is refused

A call refuses what stands ahead exactly if it is no character, or one that starts no token
(`StartsToken`). The two are told apart by decoding, not by the character read, so that an encoded
`U+FFFD` is not taken for what stands in for a byte that starts no sequence. The message names the
byte or the character so that it can be read back (`NamesByte`, `NamesChar`).
-/

namespace FrontEnd.Lexer

open Unicode (isAlphabetic isWhitespace quote)
open Utf8 (decode front? sequence)

/-- Some token starts with the character: white space, a word, a number, a string or a symbol. -/
def StartsToken (c : Char) : Prop :=
  isWhitespace c = true ∨ isAlphabetic c = true ∨ c = '_' ∨ c.isDigit = true ∨ c = '"' ∨
    ∃ kind, IsSymbol kind ∧ kind.name.toList.head? = some c

/-- A call reports a bad codepoint where it starts, and takes `len` bytes. -/
structure Refuses (l : Lexer) (cause : Cause) (message : String) (len : Nat) : Prop where
  error : ∃ e, nextToken l = .ok (.error e) l.call.2 ∧
    Reports l.options.fileName l.current .badCodepoint cause e ∧ e.message = message
  passed : l.call.2.current = l.current + len

variable {l : Lexer} {c : Char} {cause : Cause} {bytes rest : List UInt8} {lead : UInt8}

/-! ### Characters that start nothing -/

/-- A character that starts a pair is a symbol on its own. -/
theorem ofPair?_starts {d : Char} {kind : TokenKind} (pair : TokenKind.ofPair? c d = some kind) :
    TokenKind.ofChar? c ≠ none := by
  unfold TokenKind.ofPair? at pair
  split at pair <;> cases pair <;> decide

theorem starts_symbol_iff :
    (∃ kind, IsSymbol kind ∧ kind.name.toList.head? = some c) ↔ TokenKind.ofChar? c ≠ none := by
  constructor
  · rintro ⟨kind, symbol, head⟩
    obtain ⟨c', single, -⟩ | ⟨c', d, pair, -⟩ := symbol.name_cases
    · rw [toList_name (spelling?_ofChar? single)] at head
      obtain rfl := Option.some.inj head
      simp [single]
    · rw [toList_name (spelling?_ofPair? pair)] at head
      obtain rfl := Option.some.inj head
      exact ofPair?_starts pair
  · intro spells
    obtain ⟨kind, single⟩ := Option.ne_none_iff_exists'.mp spells
    refine ⟨kind, ofChar?_isSymbol single, ?_⟩
    rw [toList_name (spelling?_ofChar? single)]
    rfl

theorem longestSymbol?_eq_none_iff {next? : Option Char} :
    TokenKind.longestSymbol? c next? = none ↔ TokenKind.ofChar? c = none := by
  unfold TokenKind.longestSymbol?
  split
  · rename_i kind both
    obtain ⟨d, -, pair⟩ := Option.bind_eq_some_iff.mp both
    simp [ofPair?_starts pair]
  · exact Option.map_eq_none_iff

theorem not_startsToken_iff :
    ¬StartsToken c ↔
      isWhitespace c = false ∧ isWordStart c = false ∧ c.isDigit = false ∧ c ≠ '"' ∧
        TokenKind.ofChar? c = none := by
  unfold StartsToken isWordStart
  rw [starts_symbol_iff]
  simp only [not_or, Bool.not_eq_true, Bool.or_eq_false_iff, beq_eq_false_iff_ne, and_assoc,
    not_not, ne_eq]

theorem scan_of_stray (stray : ¬StartsToken (decode (lead :: rest)).char) :
    scan (lead :: rest) =
      ⟨.rejected (if (decode (lead :: rest)).valid then .unexpectedChar (decode (lead :: rest)).char
        else .invalidByte lead), (decode (lead :: rest)).len⟩ := by
  obtain ⟨dark, no_word, no_digit, no_quote, no_symbol⟩ := not_startsToken_iff.mp stray
  have no_comment : ¬[0x2F, 0x2F] <+: lead :: rest := by
    rw [← slashes_iff]
    rintro ⟨slash, -⟩
    rw [slash] at no_symbol
    cases no_symbol
  rw [scan_of_symbol rfl dark no_word no_digit no_quote no_comment]
  unfold scanSymbol
  dsimp only
  rw [longestSymbol?_eq_none_iff.mpr no_symbol]

theorem stray_of_scan (found : (scan (lead :: rest)).shape = .rejected cause)
    (bad : cause.kind = .badCodepoint) : ¬StartsToken (decode (lead :: rest)).char := by
  rcases scan_rejects_cases found with base | string | ⟨symbol, dark, no_word, no_digit, no_quote⟩
  · cases bad.symm.trans base
  · cases bad.symm.trans string
  · have no_symbol := longestSymbol?_eq_none_iff.mp (scanSymbol_rejects symbol).2
    exact not_startsToken_iff.mpr ⟨dark, no_word, no_digit, no_quote, no_symbol⟩

theorem not_startsToken_replacement : ¬StartsToken '\uFFFD' := by
  rw [not_startsToken_iff]
  decide +kernel

/-! ### What stands ahead -/

/-- Bytes that start with no character, or with one that starts no token. -/
def Stray (bytes : List UInt8) : Prop :=
  (∀ c : Char, ¬sequence c.toNat <+: bytes) ∨
    ∃ c : Char, sequence c.toNat <+: bytes ∧ ¬StartsToken c

theorem decode_of_char (shown : sequence c.toNat <+: bytes) :
    decode bytes = ⟨c.toNat, (sequence c.toNat).length, true⟩ :=
  Utf8.decode_of_sequence (Utf8.isScalar_toNat c) shown

theorem char_of_shown (shown : sequence c.toNat <+: bytes) : (decode bytes).char = c := by
  obtain ⟨rest, rfl⟩ := shown
  exact Utf8.char_sequence_append c rest

theorem prefix_of_valid (valid : (decode bytes).valid = true) :
    sequence (decode bytes).char.toNat <+: bytes := by
  rw [Utf8.sequence_of_valid valid]
  exact List.take_prefix _ _

theorem decode_of_none (undecodable : ∀ c : Char, ¬sequence c.toNat <+: bytes) :
    decode bytes = Utf8.malformed := by
  apply Utf8.malformed_of_invalid
  rw [Bool.eq_false_iff]
  exact fun valid => undecodable _ (prefix_of_valid valid)

theorem stray_iff : Stray bytes ↔ ¬StartsToken (decode bytes).char := by
  constructor
  · rintro (undecodable | ⟨c, shown, stray⟩)
    · rw [decode_of_none undecodable]
      exact not_startsToken_replacement
    · rw [char_of_shown shown]
      exact stray
  · intro stray
    cases valid : (decode bytes).valid with
    | true => exact Or.inr ⟨_, prefix_of_valid valid, stray⟩
    | false =>
      refine Or.inl fun c shown => ?_
      rw [decode_of_char shown] at valid
      cases valid

theorem scan_of_undecodable (undecodable : ∀ c : Char, ¬sequence c.toNat <+: lead :: rest) :
    scan (lead :: rest) = ⟨.rejected (.invalidByte lead), 1⟩ := by
  have scanned := scan_of_stray (stray_iff.mp (Or.inl undecodable))
  rw [decode_of_none undecodable] at scanned
  exact scanned

theorem scan_of_stray_char (shown : sequence c.toNat <+: lead :: rest) (stray : ¬StartsToken c) :
    scan (lead :: rest) = ⟨.rejected (.unexpectedChar c), (sequence c.toNat).length⟩ := by
  have scanned := scan_of_stray (stray_iff.mp (Or.inr ⟨c, shown, stray⟩))
  rw [char_of_shown shown, decode_of_char shown] at scanned
  exact scanned

/-! ### Calls -/

theorem Refuses.of_scan {len : Nat} (inside : l.current ≤ l.source.length)
    (found : scan l.ahead = ⟨.rejected cause, len⟩) (bad : cause.kind = .badCodepoint) :
    l.Refuses cause cause.message len := by
  obtain ⟨ran, current⟩ := nextToken_rejected inside found
  exact ⟨⟨_, ran, ⟨rfl, bad⟩, rfl⟩, current⟩

/-- Whatever else goes wrong with a token, it is not reported as a bad codepoint. -/
theorem stray_of_badCodepoint {e : Error} {l' : Lexer} (ahead : l.ahead = lead :: rest)
    (ran : nextToken l = .ok (.error e) l') (bad : e.kind = .badCodepoint) : Stray l.ahead := by
  have called := congrArg Prod.fst (nextToken_eq_ok_iff.mp ran)
  rw [call_eq (inside_of_ahead ahead)] at called
  obtain ⟨r, read, shown⟩ := reading_of_answer called
  cases r with
  | ok token => cases shown
  | error failure =>
    obtain ⟨index, cause⟩ := failure
    cases shown
    rw [ahead] at read ⊢
    rcases reading_error_cases read with shape | sort | sort | sort
    · exact stray_iff.mpr (stray_of_scan shape bad)
    · cases bad.symm.trans sort
    · cases bad.symm.trans sort
    · cases bad.symm.trans sort

/-- A call reports a bad codepoint exactly where what stands ahead is no character or starts no
token. It takes the one byte that is no character, which it names, or else the character, which it
names; and `U+FFFD` is such a character, not the sign of such a byte. No other byte and no other
character has the same name. -/
theorem refusals_are_exact (l : Lexer) {b : UInt8} (here : l.source[l.current]? = some b) :
    ((∃ e l', nextToken l = .ok (.error e) l' ∧ e.kind = .badCodepoint) ↔ Stray l.ahead) ∧
    ((∀ c : Char, ¬sequence c.toNat <+: l.ahead) →
      l.Refuses (.invalidByte b) ("invalid UTF-8 byte 0x" ++ Cause.hexByte b) 1) ∧
    (∀ c : Char, sequence c.toNat <+: l.ahead → ¬StartsToken c →
      l.Refuses (.unexpectedChar c) ("unexpected character " ++ quote c)
        (sequence c.toNat).length) ∧
    ¬StartsToken '\uFFFD' ∧
    (∀ b', NamesByte (Cause.hexByte b) b' ↔ b' = b) ∧
    ∀ c d, NamesChar (quote c) d ↔ d = c := by
  obtain ⟨before, byte⟩ := List.getElem?_eq_some_iff.mp here
  have inside := Nat.le_of_lt before
  have ahead : l.ahead = b :: l.source.drop (l.current + 1) := by
    rw [Lexer.ahead, List.drop_eq_getElem_cons before, byte]
  have undecodable_refused (undecodable : ∀ c : Char, ¬sequence c.toNat <+: l.ahead) :
      l.Refuses (.invalidByte b) ("invalid UTF-8 byte 0x" ++ Cause.hexByte b) 1 := by
    rw [ahead] at undecodable
    have found := scan_of_undecodable undecodable
    rw [← ahead] at found
    exact .of_scan inside found rfl
  have char_refused (c : Char) (shown : sequence c.toNat <+: l.ahead) (stray : ¬StartsToken c) :
      l.Refuses (.unexpectedChar c) ("unexpected character " ++ quote c)
        (sequence c.toNat).length := by
    rw [ahead] at shown
    have found := scan_of_stray_char shown stray
    rw [← ahead] at found
    exact .of_scan inside found rfl
  refine ⟨⟨?_, ?_⟩, undecodable_refused, char_refused, not_startsToken_replacement,
    fun _ => namesByte_hexByte_iff, fun _ _ => namesChar_quote_iff⟩
  · rintro ⟨e, l', ran, bad⟩
    exact stray_of_badCodepoint ahead ran bad
  · rintro (undecodable | ⟨c, shown, stray⟩)
    · obtain ⟨e, ran, reports, -⟩ := (undecodable_refused undecodable).error
      exact ⟨e, _, ran, reports.kind⟩
    · obtain ⟨e, ran, reports, -⟩ := (char_refused c shown stray).error
      exact ⟨e, _, ran, reports.kind⟩

/-- An encoded `U+FFFD` and a byte that starts no sequence, one after the other. -/
theorem refusals_are_exact_replacement :
    let scratch : Memory.Arena := { id := 1, address := 4096, data := [] }
    let l : Lexer := { source := [0xEF, 0xBF, 0xBD, 0xFF], scratch }
    let m : Lexer := { source := [0xEF, 0xBF, 0xBD, 0xFF], scratch, current := 3 }
    l.Refuses (.unexpectedChar '\uFFFD') "unexpected character '\uFFFD'" 3 ∧
      m.Refuses (.invalidByte 0xFF) "invalid UTF-8 byte 0xFF" 1 ∧
      NamesChar "'\uFFFD'" '\uFFFD' ∧ NamesByte "FF" 0xFF := by
  intro scratch l m
  obtain ⟨-, -, char_refused, other, -, chars⟩ := refusals_are_exact l rfl
  obtain ⟨-, byte_refused, -, -, bytes, -⟩ := refusals_are_exact m rfl
  have undecodable (c : Char) : ¬sequence c.toNat <+: m.ahead := by
    intro shown
    have valid : (decode m.ahead).valid = true := by rw [decode_of_char shown]
    exact absurd valid (by decide)
  have quoted : quote '\uFFFD' = "'\uFFFD'" := by decide +kernel
  have hex : Cause.hexByte 0xFF = "FF" := by decide +kernel
  have refused := char_refused '\uFFFD' ⟨[0xFF], rfl⟩ other
  have refused' := byte_refused undecodable
  have named := (chars '\uFFFD' '\uFFFD').mpr rfl
  have named' := (bytes 0xFF).mpr rfl
  rw [quoted] at refused named
  rw [hex] at refused' named'
  exact ⟨refused, refused', named, named'⟩

end FrontEnd.Lexer
