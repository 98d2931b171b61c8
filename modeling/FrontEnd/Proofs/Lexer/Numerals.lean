import FrontEnd.Proofs.Lexer.Answer
import FrontEnd.Proofs.Utf8.Ascii

/-!
# How numerals are spelled

`Spells` lists the spellings of numerals, byte by byte. By `scan_of_spells` a spelling is found as a
whole, and by `scan_spelled` nothing else is found that a number is read of.
-/

namespace FrontEnd.Lexer

open Utf8 (Ascii ascii_isAlpha ascii_isDigit decode front? span)
open Number (digit? weight?)
open Unicode (isWhitespace)

/-- A digit of a base, or a separator. -/
def inPlace (base : Nat) (b : UInt8) : Bool := b == separator || (digit? base b).isSome

/-- A digit of a base, and after it digits and separators. -/
def Digits (base : Nat) : List UInt8 → Prop
  | [] => False
  | d :: rest => (digit? base d).isSome ∧ ∀ b ∈ rest, inPlace base b = true

/-- The bytes of the numerals of each shape. -/
inductive Spells : Shape → List UInt8 → Prop where
  | based {c : Char} {base : Nat} {word : List UInt8} (selects : base? c = some base)
      (digits : Digits base word) : Spells (.based base) (0x30 :: c.toUInt8 :: word)
  | decimal {whole : List UInt8} (digits : Digits 10 whole) : Spells .decimal whole
  | fraction {whole part : List UInt8} (digits : Digits 10 whole) (places : Digits 10 part) :
      Spells .fraction (whole ++ 0x2E :: part)

variable {base : Nat} {b d : UInt8} {c : Char} {bytes rest text word whole part : List UInt8}
  {shape : Shape}

/-! ### Bytes -/

theorem forall_byte {P : UInt8 → Prop} (each : ∀ v < 256, P (.ofNat v)) (b : UInt8) : P b := by
  have holds := each b.toNat b.toNat_lt
  rwa [UInt8.ofNat_toNat] at holds

theorem weight?_of_digit? (digit : (digit? base b).isSome) : (weight? b).isSome := by
  obtain ⟨v, found⟩ := Option.isSome_iff_exists.mp digit
  rw [(Option.filter_eq_some_iff.mp found).1]
  rfl

theorem ne_separator_of_digit? (digit : (digit? base b).isSome) : b ≠ separator := by
  rintro rfl
  exact absurd (weight?_of_digit? digit) (by decide)

/-- A byte in place in any base is an ASCII character that words can go on with. -/
theorem wordPart_of_inPlace (fits : inPlace base b = true) :
    b.toNat < 0x80 ∧ isWordPart (.ofUInt8 b) = true := by
  have each : ∀ b : UInt8, b = separator ∨ (weight? b).isSome →
      b.toNat < 0x80 ∧ isWordPart (.ofUInt8 b) = true := forall_byte (by decide +kernel)
  simp only [inPlace, Bool.or_eq_true, beq_iff_eq] at fits
  exact each b (fits.imp_right weight?_of_digit?)

theorem isSome_digit?_ten_iff : (digit? 10 b).isSome ↔ 0x30 ≤ b.toNat ∧ b.toNat ≤ 0x39 := by
  simp only [digit?, weight?]
  -- letters are worth ten and more
  split_ifs <;> simp <;> omega

theorem isDigit_ofUInt8 (b : UInt8) : (Char.ofUInt8 b).isDigit = (digit? 10 b).isSome := by
  rw [Bool.eq_iff_iff, Utf8.isDigit_iff, isSome_digit?_ten_iff, Utf8.toNat_ofUInt8]

theorem isDigitOrSeparator_ofUInt8 (b : UInt8) :
    isDigitOrSeparator (.ofUInt8 b) = inPlace 10 b := by
  have same : (Char.ofUInt8 b == '_') = (b == separator) := by
    rw [Bool.eq_iff_iff, beq_iff_eq, beq_iff_eq, ← Char.toNat_inj, ← UInt8.toNat_inj,
      Utf8.toNat_ofUInt8]
    rfl
  rw [isDigitOrSeparator, inPlace, isDigit_ofUInt8, same, Bool.or_comm]

theorem ascii_isDigitOrSeparator : Ascii isDigitOrSeparator := by
  intro c part
  simp only [isDigitOrSeparator, Bool.or_eq_true, beq_iff_eq] at part
  obtain digit | rfl := part
  · exact ascii_isDigit c digit
  · decide

/-! ### Digits -/

theorem Digits.exists_cons (digits : Digits base word) :
    ∃ d rest, word = d :: rest ∧ (digit? base d).isSome ∧ ∀ b ∈ rest, inPlace base b = true := by
  cases word with
  | nil => exact digits.elim
  | cons d rest => exact ⟨d, rest, rfl, digits⟩

theorem Digits.ne_nil (digits : Digits base word) : word ≠ [] := by
  obtain ⟨d, rest, rfl, -⟩ := digits.exists_cons
  exact List.cons_ne_nil d rest

theorem Digits.inPlace (digits : Digits base word) : ∀ b ∈ word, inPlace base b = true := by
  obtain ⟨d, rest, rfl, first, later⟩ := digits.exists_cons
  intro b member
  obtain rfl | member := List.mem_cons.mp member
  · simp [Lexer.inPlace, first]
  · exact later b member

theorem not_inPlace (base : Nat) (b : UInt8) :
    (!inPlace base b) = (b != separator && (digit? base b).isNone) := by
  simp [inPlace, bne]

theorem badDigit?_eq_none_iff (some_digit : word ≠ []) :
    badDigit? base word = none ↔ Digits base word := by
  obtain ⟨d, rest, rfl⟩ := List.exists_cons_of_ne_nil some_digit
  simp only [badDigit?, List.head?_cons, Option.some.injEq, Digits]
  by_cases separated : d = separator
  · subst separated
    simp only [if_true, reduceCtorEq, false_iff, not_and]
    exact fun digit => absurd rfl (ne_separator_of_digit? digit)
  · have digit : inPlace base d = (digit? base d).isSome := by simp [inPlace, separated]
    simp [separated, ← not_inPlace, digit, List.findIdx?_eq_none_iff]

theorem strip_cons (other : b ≠ separator) : strip (b :: rest) = b :: strip rest := by
  simp [strip, other]

theorem Digits.stripped (digits : Digits base word) : Digits base (strip word) := by
  obtain ⟨d, rest, rfl, first, later⟩ := digits.exists_cons
  rw [strip_cons (ne_separator_of_digit? first)]
  exact ⟨first, fun b member => later b (List.mem_filter.mp member).1⟩

/-! ### Runs of decimal digits -/

/-- A run of digits and separators ends where the bytes do, or in front of another byte. -/
theorem span_run (run : ∀ b ∈ word, inPlace 10 b = true)
    (stops : ∀ b, rest.head? = some b → inPlace 10 b = false) :
    span isDigitOrSeparator (word ++ rest) = word.length := by
  have ends : rest.takeWhile (inPlace 10) = [] := by
    cases rest with
    | nil => rfl
    | cons b rest => simp [stops b rfl]
  simp only [ascii_isDigitOrSeparator.span_eq, isDigitOrSeparator_ofUInt8]
  rw [List.takeWhile_append_of_pos run, ends, List.append_nil]

theorem exists_run (digit : (digit? 10 d).isSome) (bytes : List UInt8) :
    ∃ word rest, d :: bytes = word ++ rest ∧ Digits 10 word ∧
      ∀ b, rest.head? = some b → inPlace 10 b = false := by
  refine ⟨d :: bytes.takeWhile (inPlace 10), bytes.dropWhile (inPlace 10), ?_, ⟨digit, ?_⟩, ?_⟩
  · rw [List.cons_append, List.takeWhile_append_dropWhile]
  · exact List.all_eq_true.mp List.all_takeWhile
  · intro b stop
    have stops := List.head?_dropWhile_not (inPlace 10) bytes
    rwa [stop] at stops

/-! ### Spellings -/

theorem selector?_eq_some_iff :
    selector? bytes = some c ↔ c.isAlpha = true ∧ ∃ rest, bytes = 0x30 :: c.toUInt8 :: rest := by
  have zero : front? bytes = some '0' ↔ bytes.head? = some 0x30 :=
    Utf8.front?_eq_some_iff (by decide)
  unfold selector?
  constructor
  · intro selected
    split at selected
    · rename_i front
      obtain ⟨second, alpha⟩ := Option.filter_eq_some_iff.mp selected
      rw [zero] at front
      rw [Utf8.front?_eq_some_iff (ascii_isAlpha c alpha)] at second
      obtain ⟨rest, rfl⟩ := List.head?_eq_some_iff.mp front
      obtain ⟨rest, rfl⟩ := List.head?_eq_some_iff.mp second
      exact ⟨alpha, rest, rfl⟩
    · cases selected
  · rintro ⟨alpha, rest, rfl⟩
    have second : front? (c.toUInt8 :: rest) = some c :=
      (Utf8.front?_eq_some_iff (ascii_isAlpha c alpha)).mpr rfl
    rw [if_pos (zero.mpr rfl), List.drop_succ_cons, List.drop_zero, second]
    simp [alpha]

theorem base?_cases (selects : base? c = some base) : c = 'x' ∨ c = 'o' ∨ c = 'b' := by
  unfold base? at selects
  split at selects
  · exact Or.inl rfl
  · exact Or.inr (Or.inl rfl)
  · exact Or.inr (Or.inr rfl)
  · cases selects

theorem isAlpha_of_base? (selects : base? c = some base) : c.isAlpha = true := by
  obtain rfl | rfl | rfl := base?_cases selects <;> decide

theorem strip_based (selects : base? c = some base) (word : List UInt8) :
    strip (0x30 :: c.toUInt8 :: word) = 0x30 :: c.toUInt8 :: strip word := by
  have letter : c.toUInt8 ≠ separator := by
    obtain rfl | rfl | rfl := base?_cases selects <;> decide
  rw [strip_cons (by decide), strip_cons letter]

theorem strip_fraction (whole part : List UInt8) :
    strip (whole ++ 0x2E :: part) = strip whole ++ 0x2E :: strip part := by
  rw [← strip_cons (by decide)]
  exact List.filter_append ..

/-- A spelling still is one without its separators. -/
theorem Spells.stripped (spells : Spells shape text) : Spells shape (strip text) := by
  cases spells with
  | based selects digits =>
    rw [strip_based selects]
    exact .based selects digits.stripped
  | decimal digits => exact .decimal digits.stripped
  | fraction digits places =>
    rw [strip_fraction]
    exact .fraction digits.stripped places.stripped

theorem Spells.strip_drop {n : Numeral} (spells : Spells shape text)
    (found : shape.numeral? = some n) : strip (text.drop n.mark) = (strip text).drop n.mark := by
  cases spells with
  | based selects digits =>
    cases found
    rw [strip_based selects]
    rfl
  | decimal =>
    cases found
    rfl
  | fraction =>
    cases found
    rfl

theorem Spells.exists_digit (spells : Spells shape text) :
    ∃ d rest, text = d :: rest ∧ (digit? 10 d).isSome := by
  cases spells with
  | based => exact ⟨_, _, rfl, by decide⟩
  | decimal digits =>
    obtain ⟨d, rest, rfl, digit, -⟩ := digits.exists_cons
    exact ⟨d, rest, rfl, digit⟩
  | fraction digits places =>
    obtain ⟨d, rest, rfl, digit, -⟩ := digits.exists_cons
    exact ⟨d, _, rfl, digit⟩

/-! ### Where a numeral is spelled, it is found -/

theorem scan_of_digit (digit : (digit? 10 d).isSome) : scan (d :: rest) = scanNumber (d :: rest) := by
  have each : ∀ b : UInt8, (digit? 10 b).isSome →
      b.toNat < 0x80 ∧ isWhitespace (.ofUInt8 b) = false ∧ Char.ofUInt8 b ≠ '/' ∧
        isWordStart (.ofUInt8 b) = false := forall_byte (by decide +kernel)
  obtain ⟨low, dark, noSlash, noWord⟩ := each d digit
  simp only [scan, Utf8.char_ascii low, dark, noSlash, noWord, isDigit_ofUInt8, digit]
  simp

/-- What follows a run of digits decides between the decimal shapes. -/
theorem scanDecimal_append (digits : Digits 10 whole)
    (stops : ∀ b, rest.head? = some b → inPlace 10 b = false) :
    scanDecimal (whole ++ rest) =
      if rest.head? = some 0x2E ∧ (rest.drop 1).head?.any (fun b => (digit? 10 b).isSome) then
        ⟨.fraction, whole.length + 1 + span isDigitOrSeparator (rest.drop 1)⟩
      else ⟨.decimal, whole.length⟩ := by
  have point : front? rest = some '.' ↔ rest.head? = some 0x2E :=
    Utf8.front?_eq_some_iff (by decide)
  have places := ascii_isDigit.front?_any (rest.drop 1)
  simp only [isDigit_ofUInt8] at places
  simp only [scanDecimal, span_run digits.inPlace stops, List.drop_left, point, places]

theorem scanDecimal_decimal (digits : Digits 10 whole) :
    scanDecimal whole = ⟨.decimal, whole.length⟩ := by
  have found : scanDecimal (whole ++ []) = _ := scanDecimal_append digits nofun
  simpa using found

/-- A point with a digit after it belongs to the numeral, any other does not. -/
theorem scanDecimal_point (digits : Digits 10 whole) (rest : List UInt8) :
    scanDecimal (whole ++ 0x2E :: rest) =
      if rest.head?.any (fun b => (digit? 10 b).isSome) then
        ⟨.fraction, whole.length + 1 + span isDigitOrSeparator rest⟩
      else ⟨.decimal, whole.length⟩ := by
  have stops (b : UInt8) (stop : (0x2E :: rest).head? = some b) : inPlace 10 b = false := by
    obtain rfl := Option.some.inj stop
    decide
  simp [scanDecimal_append digits stops]

theorem scanDecimal_fraction (digits : Digits 10 whole) (places : Digits 10 part) :
    scanDecimal (whole ++ 0x2E :: part) = ⟨.fraction, (whole ++ 0x2E :: part).length⟩ := by
  have run : span isDigitOrSeparator (part ++ []) = part.length := span_run places.inPlace nofun
  obtain ⟨d, more, rfl, digit, -⟩ := places.exists_cons
  rw [List.append_nil] at run
  rw [scanDecimal_point digits, if_pos (by simpa using digit), run]
  refine congrArg (Scanned.mk .fraction) ?_
  simp only [List.length_append, List.length_cons]
  omega

/-- A letter after a leading zero belongs to no decimal numeral. -/
theorem selector?_eq_none (digits : Digits 10 whole)
    (stops : ∀ b, rest.head? = some b → (Char.ofUInt8 b).isAlpha = false) :
    selector? (whole ++ rest) = none := by
  apply Option.eq_none_iff_forall_ne_some.mpr
  intro c selected
  obtain ⟨alpha, after, same⟩ := selector?_eq_some_iff.mp selected
  have letter : (Char.ofUInt8 c.toUInt8).isAlpha = true := by
    rwa [Utf8.ofUInt8_toUInt8 (ascii_isAlpha c alpha)]
  obtain ⟨d, later, rfl, -, placed⟩ := digits.exists_cons
  cases later with
  | nil =>
    rw [stops c.toUInt8 (by simp_all)] at letter
    cases letter
  | cons s later =>
    obtain rfl : s = c.toUInt8 := by simp_all
    have each : ∀ b : UInt8, inPlace 10 b = true → (Char.ofUInt8 b).isAlpha = false :=
      forall_byte (by decide +kernel)
    rw [each _ (placed _ List.mem_cons_self)] at letter
    cases letter

theorem scan_of_spells (spells : Spells shape text) : scan text = ⟨shape, text.length⟩ := by
  obtain ⟨d, rest, same, digit⟩ := spells.exists_digit
  rw [same, scan_of_digit digit, ← same, scanNumber]
  cases spells with
  | @based c base word selects digits =>
    have selected : selector? (0x30 :: c.toUInt8 :: word) = some c :=
      selector?_eq_some_iff.mpr ⟨isAlpha_of_base? selects, word, rfl⟩
    have length : span isWordPart word = word.length :=
      Utf8.span_eq_length fun b member => wordPart_of_inPlace (digits.inPlace b member)
    have none_bad := (badDigit?_eq_none_iff digits.ne_nil).mpr digits
    simp [selected, scanBased, selects, length, none_bad, digits.ne_nil]
  | decimal digits =>
    have plain : selector? (text ++ []) = none := selector?_eq_none digits nofun
    rw [List.append_nil] at plain
    rw [plain, scanDecimal_decimal digits]
  | fraction digits places =>
    rw [selector?_eq_none digits, scanDecimal_fraction digits places]
    intro b stop
    obtain rfl := Option.some.inj stop
    decide

/-! ### Where a numeral is found, it is spelled -/

/-- A shape that no number is read of. -/
def Shape.Numberless : Shape → Prop
  | .plain kind => kind ≠ .literal .integer ∧ kind ≠ .literal .real
  | .rejected cause => cause.kind ≠ .integerOverflow
  | .quoted | .badDigit _ _ => True
  | .based _ | .decimal | .fraction => False

/-- A shape without a number, or one that its bytes spell. -/
def Scanned.Spelled (found : Scanned) (bytes : List UInt8) : Prop :=
  found.shape.Numberless ∨ Spells found.shape (bytes.take found.len)

theorem scanDecimal_spelled (digit : (digit? 10 d).isSome) :
    (scanDecimal (d :: rest)).Spelled (d :: rest) := by
  right
  obtain ⟨whole, after, same, digits, stops⟩ := exists_run digit rest
  rw [same, scanDecimal_append digits stops]
  split
  · rename_i point
    obtain ⟨front, place⟩ := point
    obtain ⟨later, rfl⟩ := List.head?_eq_some_iff.mp front
    obtain ⟨d, first, digit⟩ := (Option.any_eq_true ..).mp place
    obtain ⟨more, rfl⟩ := List.head?_eq_some_iff.mp first
    obtain ⟨part, after, same, places, stops⟩ := exists_run digit more
    have taken : (whole ++ 0x2E :: (part ++ after)).take (whole.length + 1 + part.length) =
        whole ++ 0x2E :: part := by
      rw [Nat.add_assoc, List.take_length_add_append, Nat.add_comm 1, List.take_succ_cons,
        List.take_left]
    rw [List.drop_succ_cons, List.drop_zero, same, span_run places.inPlace stops, taken]
    exact .fraction digits places
  · simpa using Spells.decimal digits

theorem scanBased_spelled (c : Char) (rest : List UInt8) :
    (scanBased c (0x30 :: c.toUInt8 :: rest)).Spelled (0x30 :: c.toUInt8 :: rest) := by
  unfold scanBased
  dsimp only
  split
  · exact Or.inl (by simp [Shape.Numberless, Cause.kind])
  · rename_i base selects
    split
    · exact Or.inl (by simp [Shape.Numberless, Cause.kind])
    · rename_i some_word
      split
      · exact Or.inl trivial
      · rename_i none_bad
        right
        have some_digit : rest.take (span isWordPart rest) ≠ [] := by
          intro empty
          rcases List.take_eq_nil_iff.mp empty with none_taken | rfl
          · exact some_word none_taken
          · exact some_word rfl
        exact .based selects ((badDigit?_eq_none_iff some_digit).mp none_bad)

theorem scanNumber_spelled (digit : (digit? 10 d).isSome) :
    (scanNumber (d :: rest)).Spelled (d :: rest) := by
  unfold scanNumber
  split
  · rename_i c selected
    obtain ⟨-, later, same⟩ := selector?_eq_some_iff.mp selected
    rw [same]
    exact scanBased_spelled c later
  · exact scanDecimal_spelled digit

/-- Numbers are read of spelled numerals only. -/
theorem scan_spelled (bytes : List UInt8) : (scan bytes).Spelled bytes := by
  cases bytes with
  | nil => exact Or.inl (by simp [scan, Shape.Numberless])
  | cons lead rest =>
    unfold scan
    dsimp only
    split
    · exact Or.inl (by simp [Shape.Numberless])
    split
    · exact Or.inl (by simp [Shape.Numberless])
    split
    · left
      unfold scanWord
      dsimp only
      split <;> simp [Shape.Numberless]
    split
    · rename_i digit
      rw [ascii_isDigit.decode_char, isDigit_ofUInt8] at digit
      exact scanNumber_spelled digit
    split
    · left
      unfold scanString
      split <;> simp [Shape.Numberless, Cause.kind]
    · left
      unfold scanSymbol
      dsimp only
      split
      · rename_i longest
        obtain ⟨delimiter, rfl⟩ | ⟨operator, rfl⟩ := (longestSymbol?_bounds longest).1 <;>
          simp [Shape.Numberless]
      · dsimp only
        split <;> simp [Shape.Numberless, Cause.kind]

end FrontEnd.Lexer
