import FrontEnd.Proofs.Lexer.Separators

/-!
# What a numeral is converted from

`Converts` says which bytes of a numeral its value depends on. By `scan_shape_of_spells` no lexeme
that spells a numeral is taken for anything else.
-/

namespace FrontEnd.Lexer

open Unicode (isWhitespace)
open Utf8 (ascii_isAlpha decode front? span)

/-- The digits that a numeral is converted from: all of a decimal numeral, and what follows the
letter of a numeral with a base. -/
def Converts (lexeme digits : List UInt8) : Prop :=
  ∃ shape n, Spells shape lexeme ∧ shape.numeral? = some n ∧ digits = lexeme.drop n.mark

/-- A numeral that has to be staged. -/
def Separated (lexeme : List UInt8) : Prop := ∃ digits, Converts lexeme digits ∧ separator ∈ digits

variable {bytes lexeme digits digits' : List UInt8} {shape : Shape} {cause : Cause}

theorem Converts.unique (first : Converts lexeme digits) (second : Converts lexeme digits') :
    digits = digits' := by
  obtain ⟨shape, n, spells, found, rfl⟩ := first
  obtain ⟨shape', n', spells', found', rfl⟩ := second
  have same := (scan_of_spells spells).symm.trans (scan_of_spells spells')
  cases same
  cases found.symm.trans found'
  rfl

theorem not_converts_nil : ¬Converts [] digits := by
  rintro ⟨shape, n, spells, -⟩
  obtain ⟨d, rest, empty, -⟩ := spells.exists_digit
  cases empty

theorem Shape.Numberless.numeral?_eq_none (none_read : shape.Numberless) :
    shape.numeral? = none := by
  cases shape with
  | based => exact none_read.elim
  | decimal => exact none_read.elim
  | fraction => exact none_read.elim
  | _ => rfl

theorem scanDecimal_numeral? (bytes : List UInt8) : (scanDecimal bytes).shape.numeral? ≠ none := by
  unfold scanDecimal
  dsimp only
  split <;> nofun

theorem Spells.based_of_letter {c : Char} {word : List UInt8} (letter : c.isAlpha = true)
    (spells : Spells shape (0x30 :: c.toUInt8 :: word)) :
    ∃ base, base? c = some base ∧ shape = .based base ∧ Digits base word := by
  have selected : selector? (0x30 :: c.toUInt8 :: word) = some c :=
    selector?_eq_some_iff.mpr ⟨letter, word, rfl⟩
  generalize same : 0x30 :: c.toUInt8 :: word = text at spells selected
  cases spells with
  | @based c' base word' selects digits =>
    simp only [List.cons.injEq, true_and] at same
    obtain ⟨letters, rfl⟩ := same
    obtain rfl : c = c' := by
      rw [← Utf8.ofUInt8_toUInt8 (ascii_isAlpha c letter), letters,
        Utf8.ofUInt8_toUInt8 (ascii_isAlpha c' (isAlpha_of_base? selects))]
    exact ⟨base, selects, rfl, digits⟩
  | decimal digits =>
    have plain : selector? (text ++ []) = none := selector?_eq_none digits nofun
    rw [List.append_nil, selected] at plain
    cases plain
  | fraction digits places =>
    rw [selector?_eq_none digits] at selected
    · cases selected
    · intro b stop
      obtain rfl := Option.some.inj stop
      decide

theorem scanBased_of_spells {c : Char} {rest : List UInt8} (letter : c.isAlpha = true)
    (spells : Spells shape ((0x30 :: c.toUInt8 :: rest).take
      (scanBased c (0x30 :: c.toUInt8 :: rest)).len)) :
    (scanBased c (0x30 :: c.toUInt8 :: rest)).shape = shape := by
  have two : ∃ len, (scanBased c (0x30 :: c.toUInt8 :: rest)).len = len + 2 := by
    unfold scanBased
    dsimp only
    split
    · exact ⟨_, rfl⟩
    · split
      · exact ⟨0, rfl⟩
      · split <;> exact ⟨_, rfl⟩
  obtain ⟨len, length⟩ := two
  rw [length, List.take_succ_cons, List.take_succ_cons] at spells
  obtain ⟨base, selects, rfl, digits⟩ := spells.based_of_letter letter
  have word : (0x30 :: c.toUInt8 :: rest).drop 2 = rest := rfl
  unfold scanBased at length ⊢
  rw [selects] at length ⊢
  simp only [word] at length ⊢
  by_cases empty : span isWordPart rest = 0
  · rw [if_pos empty] at length
    obtain rfl : len = 0 := by simpa using length.symm
    exact digits.elim
  · rw [if_neg empty] at length ⊢
    cases bad : badDigit? base (rest.take (span isWordPart rest)) with
    | none => rfl
    | some index =>
      rw [bad] at length
      obtain rfl : span isWordPart rest = len := by simpa using length
      rw [(badDigit?_eq_none_iff digits.ne_nil).mpr digits] at bad
      cases bad

/-- What is found is a numeral if the bytes that it takes spell one. -/
theorem scan_shape_of_spells (spells : Spells shape (bytes.take (scan bytes).len)) :
    (scan bytes).shape = shape := by
  obtain ⟨d, rest, front, digit⟩ := spells.exists_digit
  obtain ⟨more, rfl⟩ : ∃ more, bytes = d :: more := by
    cases bytes with
    | nil => cases front
    | cons lead more =>
      obtain ⟨len, length⟩ := Nat.exists_eq_succ_of_ne_zero (Nat.ne_of_gt (scan_fits lead more).pos)
      rw [length, List.take_succ_cons] at front
      obtain rfl := (List.cons.inj front).1
      exact ⟨more, rfl⟩
  rw [scan_of_digit digit] at spells ⊢
  cases selected : selector? (d :: more) with
  | some c =>
    obtain ⟨letter, later, same⟩ := selector?_eq_some_iff.mp selected
    unfold scanNumber at spells ⊢
    rw [selected] at spells ⊢
    dsimp only at spells ⊢
    rw [same] at spells ⊢
    exact scanBased_of_spells letter spells
  | none =>
    unfold scanNumber at spells ⊢
    rw [selected] at spells ⊢
    dsimp only at spells ⊢
    have spelled : (scanDecimal (d :: more)).Spelled (d :: more) := scanDecimal_spelled digit
    obtain none_read | spells' := spelled
    · exact absurd none_read.numeral?_eq_none (scanDecimal_numeral? _)
    · have same := (scan_of_spells spells').symm.trans (scan_of_spells spells)
      exact congrArg Scanned.shape same

theorem scanNumber_rejects (found : (scanNumber bytes).shape = .rejected cause) :
    cause.kind = .invalidBase := by
  unfold scanNumber at found
  split at found
  · unfold scanBased at found
    dsimp only at found
    split at found
    · cases found
      rfl
    split at found
    · cases found
      rfl
    split at found <;> cases found
  · unfold scanDecimal at found
    dsimp only at found
    split at found <;> cases found

theorem scanString_rejects (found : (scanString bytes).shape = .rejected cause) :
    cause.kind = .unterminatedString := by
  unfold scanString at found
  split at found
  · cases found
  · cases found
    rfl

theorem scanSymbol_rejects {lead : UInt8} (found : (scanSymbol lead bytes).shape = .rejected cause) :
    cause.kind = .badCodepoint ∧
      TokenKind.longestSymbol? (decode bytes).char (front? (bytes.drop (decode bytes).len)) = none := by
  unfold scanSymbol at found
  dsimp only at found
  split at found
  · cases found
  · rename_i none_found
    cases found
    refine ⟨?_, none_found⟩
    split <;> rfl

/-- A numeral or a string can be rejected, and a character that starts neither these nor anything
else but a symbol. -/
theorem scan_rejects_cases {lead : UInt8} {rest : List UInt8}
    (found : (scan (lead :: rest)).shape = .rejected cause) :
    cause.kind = .invalidBase ∨ cause.kind = .unterminatedString ∨
    ((scanSymbol lead (lead :: rest)).shape = .rejected cause ∧
      isWhitespace (decode (lead :: rest)).char = false ∧
      isWordStart (decode (lead :: rest)).char = false ∧
      (decode (lead :: rest)).char.isDigit = false ∧ (decode (lead :: rest)).char ≠ '"') := by
  unfold scan at found
  dsimp only at found
  split at found
  · cases found
  rename_i dark
  split at found
  · cases found
  split at found
  · unfold scanWord at found
    dsimp only at found
    split at found <;> cases found
  rename_i no_word
  split at found
  · exact Or.inl (scanNumber_rejects found)
  rename_i no_digit
  split at found
  · exact Or.inr (Or.inl (scanString_rejects found))
  · rename_i no_quote
    exact Or.inr (Or.inr ⟨found, Bool.eq_false_iff.mpr dark, Bool.eq_false_iff.mpr no_word,
      Bool.eq_false_iff.mpr no_digit, no_quote⟩)

/-- The causes that a source is rejected for before anything is read of it. -/
theorem scan_rejects (found : (scan bytes).shape = .rejected cause) :
    cause.kind = .badCodepoint ∨ cause.kind = .invalidBase ∨ cause.kind = .unterminatedString := by
  cases bytes with
  | nil => cases found
  | cons lead rest =>
    rcases scan_rejects_cases found with base | string | ⟨symbol, -⟩
    · exact Or.inr (Or.inl base)
    · exact Or.inr (Or.inr string)
    · exact Or.inl (scanSymbol_rejects symbol).1

end FrontEnd.Lexer
