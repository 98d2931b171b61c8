import FrontEnd.Lexer.Scan

/-!
# What a shape takes up

`scan_fits`: whatever stands at the front of a source takes at least a byte and no more bytes than
there are, and what the lexer will look for in the shape lies inside it.
-/

namespace FrontEnd.Lexer

open Utf8 (decode front? span)

/-- A shape with room in `len` bytes for what is read of it. It is not the end of the file. -/
def Shape.Within (len : Nat) : Shape → Prop
  | .plain kind => kind ≠ .endOfFile
  | .quoted => 2 ≤ len
  | .based _ => 2 ≤ len
  | .badDigit index _ => index < len
  | _ => True

/-- A shape of at least one of the bytes ahead, and no more than all. -/
structure Scanned.Fits (found : Scanned) (bytes : List UInt8) : Prop where
  pos : 0 < found.len
  le : found.len ≤ bytes.length
  within : found.shape.Within found.len

variable {bytes rest : List UInt8} {lead : UInt8} {p q : Char → Bool}

/-! ### Runs -/

theorem spanFrom_le (p : Char → Bool) (skip : Nat) (bytes : List UInt8) :
    Utf8.spanFrom p skip bytes ≤ bytes.length := by
  induction bytes generalizing skip with
  | nil => exact Nat.le_refl 0
  | cons b rest ih =>
    cases skip with
    | succ skip => exact Nat.succ_le_succ (ih skip)
    | zero =>
      unfold Utf8.spanFrom
      dsimp only
      split
      · exact Nat.succ_le_succ (ih _)
      · exact Nat.zero_le _

theorem span_le (p : Char → Bool) (bytes : List UInt8) : span p bytes ≤ bytes.length :=
  spanFrom_le p 0 bytes

theorem span_pos (starts : p (decode (lead :: rest)).char = true) : 0 < span p (lead :: rest) := by
  rw [Utf8.span_cons starts]
  exact Nat.add_pos_left (Utf8.decode_len_pos _) _

theorem length_pos_of_front? {c : Char} (front : front? bytes = some c) : 0 < bytes.length := by
  cases bytes with
  | nil => cases front
  | cons lead rest => exact Nat.succ_pos _

/-! ### Words and numerals -/

theorem wordPart_of_wordStart {c : Char} (starts : isWordStart c = true) : isWordPart c = true := by
  unfold isWordStart at starts
  unfold isWordPart
  simp only [Bool.or_eq_true] at starts ⊢
  rcases starts with letter | underscore
  · exact Or.inl (Or.inl letter)
  · exact Or.inr underscore

theorem scanWord_fits (starts : isWordStart (decode (lead :: rest)).char = true) :
    (scanWord (lead :: rest)).Fits (lead :: rest) := by
  have part := wordPart_of_wordStart starts
  unfold scanWord
  dsimp only
  split
  · exact ⟨span_pos part, span_le _ _, by simp [Shape.Within]⟩
  · exact ⟨span_pos part, span_le _ _, by simp [Shape.Within]⟩

theorem badDigit?_lt {base i : Nat} {digits : List UInt8} (bad : badDigit? base digits = some i) :
    i < digits.length := by
  unfold badDigit? at bad
  split at bad
  · cases bad
    rename_i separated
    cases digits with
    | nil => cases separated
    | cons d digits => exact Nat.succ_pos _
  · exact (List.findIdx?_eq_some_iff_findIdx_eq.mp bad).1

theorem scanBased_fits {selector : Char} (two : 2 ≤ bytes.length) :
    (scanBased selector bytes).Fits bytes := by
  have word_le := span_le isWordPart (bytes.drop 2)
  rw [List.length_drop] at word_le
  unfold scanBased
  dsimp only
  split
  · exact ⟨Nat.succ_pos _, by dsimp only; omega, trivial⟩
  · split
    · exact ⟨Nat.two_pos, two, trivial⟩
    · split
      · rename_i index bad
        have low := badDigit?_lt bad
        rw [List.length_take] at low
        refine ⟨Nat.succ_pos _, by dsimp only; omega, ?_⟩
        show index + 2 < span isWordPart (bytes.drop 2) + 2
        omega
      · exact ⟨Nat.succ_pos _, by dsimp only; omega, Nat.le_add_left 2 _⟩

theorem scanDecimal_fits (digit : (decode (lead :: rest)).char.isDigit = true) :
    (scanDecimal (lead :: rest)).Fits (lead :: rest) := by
  have part : isDigitOrSeparator (decode (lead :: rest)).char = true := by
    unfold isDigitOrSeparator
    rw [digit, Bool.true_or]
  have whole := span_pos part
  have whole_le := span_le isDigitOrSeparator (lead :: rest)
  unfold scanDecimal
  dsimp only
  split
  · rename_i point
    have more_le := span_le isDigitOrSeparator
      (((lead :: rest).drop (span isDigitOrSeparator (lead :: rest))).drop 1)
    have ahead := length_pos_of_front? point.1
    rw [List.length_drop, List.length_drop] at more_le
    rw [List.length_drop] at ahead
    exact ⟨by dsimp only; omega, by dsimp only; omega, trivial⟩
  · exact ⟨whole, whole_le, trivial⟩

theorem scanNumber_fits (digit : (decode (lead :: rest)).char.isDigit = true) :
    (scanNumber (lead :: rest)).Fits (lead :: rest) := by
  unfold scanNumber
  split
  · rename_i selector selected
    unfold selector? at selected
    split at selected
    · obtain ⟨second, -⟩ := Option.filter_eq_some_iff.mp selected
      have ahead := length_pos_of_front? second
      exact scanBased_fits (Nat.succ_le_succ ahead)
    · cases selected
  · exact scanDecimal_fits digit

/-! ### Strings and symbols -/

theorem closingFrom?_bounds {escaped : Bool} {skip n : Nat}
    (closes : closingFrom? escaped skip bytes = some n) : 0 < n ∧ n ≤ bytes.length := by
  induction bytes generalizing escaped skip n with
  | nil =>
    cases skip <;> cases closes
  | cons lead rest ih =>
    -- every branch but the one that finds the quote goes on over `rest`
    have goes_on {escaped : Bool} {skip : Nat}
        (later : (closingFrom? escaped skip rest).map (· + 1) = some n) :
        0 < n ∧ n ≤ rest.length + 1 := by
      obtain ⟨m, found, rfl⟩ := Option.map_eq_some_iff.mp later
      exact ⟨Nat.succ_pos m, Nat.succ_le_succ (ih found).2⟩
    cases skip with
    | succ skip => exact goes_on closes
    | zero =>
      unfold closingFrom? at closes
      dsimp only at closes
      split at closes
      · exact goes_on closes
      · split at closes
        · cases closes
          exact ⟨Nat.one_pos, Nat.succ_le_succ (Nat.zero_le _)⟩
        · exact goes_on closes

theorem scanString_fits : (scanString (lead :: rest)).Fits (lead :: rest) := by
  unfold scanString
  split
  · rename_i len closes
    obtain ⟨pos, le⟩ := closingFrom?_bounds closes
    exact ⟨Nat.succ_pos _, Nat.succ_le_succ le, Nat.succ_le_succ pos⟩
  · exact ⟨Nat.succ_pos _, Nat.le_refl _, trivial⟩

/-- A kind that symbols spell. -/
def IsSymbol (kind : TokenKind) : Prop :=
  (∃ delimiter, kind = .delimiter delimiter) ∨ ∃ operator, kind = .operator operator

theorem ofPair?_isSymbol {first second : Char} {kind : TokenKind}
    (pair : TokenKind.ofPair? first second = some kind) : IsSymbol kind := by
  unfold TokenKind.ofPair? at pair
  split at pair <;> cases pair <;> simp [IsSymbol]

theorem ofChar?_isSymbol {c : Char} {kind : TokenKind}
    (single : TokenKind.ofChar? c = some kind) : IsSymbol kind := by
  unfold TokenKind.ofChar? at single
  split at single <;> cases single <;> simp [IsSymbol]

theorem longestSymbol?_bounds {first : Char} {next? : Option Char} {kind : TokenKind} {len : Nat}
    (longest : TokenKind.longestSymbol? first next? = some (kind, len)) :
    IsSymbol kind ∧ (len = 1 ∨ len = 2 ∧ ∃ second, next? = some second) := by
  unfold TokenKind.longestSymbol? at longest
  split at longest
  · rename_i both
    cases longest
    obtain ⟨second, follows, pair⟩ := Option.bind_eq_some_iff.mp both
    exact ⟨ofPair?_isSymbol pair, Or.inr ⟨rfl, second, follows⟩⟩
  · obtain ⟨single, found, same⟩ := Option.map_eq_some_iff.mp longest
    cases same
    exact ⟨ofChar?_isSymbol found, Or.inl rfl⟩

theorem scanSymbol_fits : (scanSymbol lead (lead :: rest)).Fits (lead :: rest) := by
  have pos := Utf8.decode_len_pos (lead :: rest)
  have inside := Utf8.decode_len_le lead rest
  unfold scanSymbol
  dsimp only
  split
  · rename_i kind len longest
    obtain ⟨symbol, length⟩ := longestSymbol?_bounds longest
    have named : kind ≠ .endOfFile := by
      obtain ⟨delimiter, rfl⟩ | ⟨operator, rfl⟩ := symbol <;> simp
    obtain rfl | ⟨rfl, second, follows⟩ := length
    · exact ⟨Nat.one_pos, Nat.succ_le_succ (Nat.zero_le _), named⟩
    · have ahead := length_pos_of_front? follows
      rw [List.length_drop] at ahead
      exact ⟨Nat.two_pos, by dsimp only; omega, named⟩
  · exact ⟨pos, inside, trivial⟩

/-- What stands at the front of a source fits it. -/
theorem scan_fits (lead : UInt8) (rest : List UInt8) :
    (scan (lead :: rest)).Fits (lead :: rest) := by
  unfold scan
  dsimp only
  split
  · rename_i space
    exact ⟨span_pos space, span_le _ _, by simp [Shape.Within]⟩
  split
  · rename_i slashes
    have no_break : (decode (lead :: rest)).char != '\n' := by
      rw [slashes.1]
      decide
    exact ⟨span_pos (p := fun c => c != '\n') no_break, span_le _ _, by simp [Shape.Within]⟩
  split
  · rename_i starts
    exact scanWord_fits starts
  split
  · rename_i digit
    exact scanNumber_fits digit
  split
  · exact scanString_fits
  · exact scanSymbol_fits

end FrontEnd.Lexer
