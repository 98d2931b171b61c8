import FrontEnd.Proofs.Lexer.Literals
import FrontEnd.Proofs.Utf8.Runs

/-!
# Prefixed literals

A zero with a letter after it takes the whole word that follows, and the word is judged byte by byte:
the letter first, then the digits, then their value (`prefixed_literals_are_judged_whole`).
-/

namespace FrontEnd.Lexer

open Memory (Arena)
open Number (digit? maxSigned64 value worth)
open Utf8 (Boundary IsText Longest RunOf decode span)

/-- The letters that select a base. -/
inductive Selects : Char → Nat → Prop where
  | hexadecimal : Selects 'x' 16
  | octal : Selects 'o' 8
  | binary : Selects 'b' 2

/-- The byte at an index of a word is neither a digit of a base nor a separator after the first
byte. -/
def OutOfPlace (base : Nat) (word : List UInt8) (i : Nat) : Prop :=
  ∃ b, word[i]? = some b ∧ ¬worth b < base ∧ ¬(b = separator ∧ 0 < i)

/-- What a zero, a letter and the word in front of `rest` come to at an offset of a file. -/
inductive PrefixedResult (fileName : String) (start : Nat) (c : Char) (rest : List UInt8) :
    List UInt8 → Result → Prop where
  | unknownBase {word : List UInt8} {e : Error} (unknown : ∀ base, ¬Selects c base)
      (reports : Reports fileName start .invalidBase (.unknownBase c) e) :
      PrefixedResult fileName start c rest word (.error e)
  | missingDigits {base : Nat} {e : Error} (selects : Selects c base)
      (reports : Reports fileName start .invalidBase (.missingDigits base) e) :
      PrefixedResult fileName start c rest [] (.error e)
  | invalidDigit {word : List UInt8} {base i : Nat} {e : Error} (selects : Selects c base)
      (bad : OutOfPlace base word i) (first : ∀ j < i, ¬OutOfPlace base word j)
      (cut : Boundary rest i) (valid : (decode (rest.drop i)).valid = true)
      (reports : Reports fileName (start + 2 + i) .invalidDigit
        (.invalidDigit (decode (rest.drop i)).char base) e) :
      PrefixedResult fileName start c rest word (.error e)
  | integer {word : List UInt8} {base : Nat} (selects : Selects c base) (more : word ≠ [])
      (proper : ∀ i, ¬OutOfPlace base word i) (fits : value base (strip word) ≤ maxSigned64) :
      PrefixedResult fileName start c rest word (.ok
        { kind := .literal .integer
          offset := start
          lexeme := 0x30 :: c.toUInt8 :: word
          value := .integer (value base (strip word)) })
  | overflow {word : List UInt8} {base : Nat} {e : Error} (selects : Selects c base)
      (more : word ≠ []) (proper : ∀ i, ¬OutOfPlace base word i)
      (exceeds : maxSigned64 < value base (strip word))
      (reports : Reports fileName start .integerOverflow .integerOverflow e) :
      PrefixedResult fileName start c rest word (.error e)

variable {l : Lexer} {a : Arena} {c : Char} {rest word : List UInt8} {base i : Nat} {b : UInt8}
  {fileName : String} {start : Nat}

/-! ### Letters -/

theorem base?_eq_some_iff : base? c = some base ↔ Selects c base := by
  constructor
  · intro selects
    unfold base? at selects
    split at selects <;> cases selects
    · exact .hexadecimal
    · exact .octal
    · exact .binary
  · rintro ⟨⟩ <;> rfl

theorem Selects.le_sixteen (selects : Selects c base) : base ≤ 16 := by
  cases selects <;> decide

/-! ### Digits out of place -/

theorem not_outOfPlace_iff (small : base ≤ 16) (shown : word[i]? = some b) :
    ¬OutOfPlace base word i ↔ inPlace base b = true ∧ (b = separator → 0 < i) := by
  have digit : worth b < base → b ≠ separator := by
    rintro digit rfl
    have sixteen : worth separator = 16 := by decide
    omega
  simp only [OutOfPlace, shown, Option.some.injEq, inPlace, Bool.or_eq_true, beq_iff_eq,
    Number.isSome_digit?_iff small]
  grind

theorem badDigit?_first (small : base ≤ 16) (bad : badDigit? base word = some i) :
    OutOfPlace base word i ∧ ∀ j < i, ¬OutOfPlace base word j := by
  unfold badDigit? at bad
  split at bad
  · rename_i front
    cases bad
    have shown : word[0]? = some separator := by rwa [← List.head?_eq_getElem?]
    refine ⟨?_, nofun⟩
    by_contra placed
    have behind := ((not_outOfPlace_iff small shown).mp placed).2 rfl
    exact absurd behind (Nat.lt_irrefl 0)
  · rename_i front
    obtain ⟨inside, out, before⟩ := List.findIdx?_eq_some_iff_getElem.mp bad
    rw [← not_inPlace] at out
    simp only [← not_inPlace] at before
    constructor
    · by_contra placed
      rw [not_outOfPlace_iff small (List.getElem?_eq_getElem inside)] at placed
      simp [placed.1] at out
    · intro j earlier
      have shown := List.getElem?_eq_getElem (Nat.lt_trans earlier inside)
      rw [not_outOfPlace_iff small shown]
      refine ⟨by simpa using before j earlier, fun separated => ?_⟩
      by_contra first
      obtain rfl : j = 0 := by omega
      rw [← List.head?_eq_getElem?, separated] at shown
      exact front shown

theorem Digits.proper (digits : Digits base word) (small : base ≤ 16) (i : Nat) :
    ¬OutOfPlace base word i := by
  obtain ⟨d, rest, rfl, first, later⟩ := digits.exists_cons
  rintro ⟨b, shown, bad⟩
  cases i with
  | zero =>
    obtain rfl := Option.some.inj shown
    exact bad.1 ((Number.isSome_digit?_iff small).mp first)
  | succ i =>
    have placed := later b (List.mem_of_getElem? shown)
    simp only [Lexer.inPlace, Bool.or_eq_true, beq_iff_eq, Number.isSome_digit?_iff small] at placed
    rcases placed with separated | digit
    · exact bad.2 ⟨separated, i.succ_pos⟩
    · exact bad.1 digit

/-! ### What the word reads as -/

/-- The characters before the first byte out of place are ASCII, and so it starts a character. -/
theorem boundary_of_first (small : base ≤ 16) (text : IsText word) (bad : OutOfPlace base word i)
    (first : ∀ j < i, ¬OutOfPlace base word j) :
    Boundary word i ∧ (decode (word.drop i)).valid = true := by
  obtain ⟨b, shown, -⟩ := bad
  obtain ⟨inside, -⟩ := List.getElem?_eq_some_iff.mp shown
  have cut : Boundary word i := by
    refine .of_ascii (Nat.le_of_lt inside) fun j before => ?_
    have here := List.getElem?_eq_getElem (Nat.lt_trans before inside)
    have placed := ((not_outOfPlace_iff small here).mp (first j before)).1
    exact ⟨_, here, (wordPart_of_inPlace placed).1⟩
  refine ⟨cut, (text.drop cut).valid ?_⟩
  simpa using inside

theorem scan_prefixed (letter : c.isAlpha = true) (rest : List UInt8) :
    scan (0x30 :: c.toUInt8 :: rest) = scanBased c (0x30 :: c.toUInt8 :: rest) := by
  have selected : selector? (0x30 :: c.toUInt8 :: rest) = some c :=
    selector?_eq_some_iff.mpr ⟨letter, rest, rfl⟩
  rw [scan_of_digit (by decide), scanNumber, selected]

/-- The word is taken as a whole, whatever is wrong with it. -/
theorem len_scanBased (c : Char) (rest : List UInt8) :
    (scanBased c (0x30 :: c.toUInt8 :: rest)).len = span isWordPart rest + 2 := by
  cases selects : base? c with
  | none => simp [scanBased, selects]
  | some base =>
    by_cases empty : span isWordPart rest = 0
    · simp [scanBased, selects, empty]
    · cases bad : badDigit? base (rest.take (span isWordPart rest)) with
      | none => simp [scanBased, selects, empty, bad]
      | some i => simp [scanBased, selects, empty, bad]

/-- With room in the arena the digits of a base are read as their value, if it fits. -/
theorem based_reads (selects : Selects c base) (digits : Digits base word) (roomy : Roomy a word) :
    ∃ r, ((Numeral.integer base 2).readIn a (0x30 :: c.toUInt8 :: word)).1 = .ok r ∧
      PrefixedResult fileName start c rest word
        (present fileName start (0x30 :: c.toUInt8 :: word) r) := by
  have proper := digits.proper selects.le_sixteen
  refine ⟨(Numeral.integer base 2).evaluate (strip word), Numeral.readIn_roomy roomy, ?_⟩
  rw [evaluate_integer digits selects.le_sixteen]
  split
  · rename_i fits
    exact .integer selects digits.ne_nil proper fits
  · rename_i exceeds
    exact .overflow selects digits.ne_nil proper (Nat.lt_of_not_le exceeds) ⟨rfl, rfl⟩

theorem badDigit_judged (selects : Selects c base)
    (bad : badDigit? base (rest.take (span isWordPart rest)) = some i) :
    PrefixedResult fileName start c rest (rest.take (span isWordPart rest))
      (.error ⟨fileName, start + (i + 2), .invalidDigit (decode (rest.drop i)).char base⟩) := by
  have cut : Boundary rest (span isWordPart rest) := .run isWordPart rest
  have run := Utf8.runOf_take_span (p := isWordPart) (by decide +kernel) rest
  obtain ⟨out, first⟩ := badDigit?_first selects.le_sixteen bad
  obtain ⟨starts, valid⟩ := boundary_of_first selects.le_sixteen run.isText out first
  have inside := badDigit?_lt bad
  rw [List.length_take_of_le cut.le] at inside
  rw [cut.decode_take starts inside] at valid
  rw [Nat.add_comm i, ← Nat.add_assoc]
  exact .invalidDigit selects out first (cut.of_take starts) valid ⟨rfl, rfl⟩

/-- With room in the arena a prefixed literal is judged from front to back. -/
theorem prefixed_reads (letter : c.isAlpha = true)
    (roomy : Roomy a (rest.take (span isWordPart rest))) :
    ∃ r, (reading a (0x30 :: c.toUInt8 :: rest)).1 = .ok r ∧
      PrefixedResult fileName start c rest (rest.take (span isWordPart rest))
        (present fileName start (0x30 :: c.toUInt8 :: rest.take (span isWordPart rest)) r) := by
  unfold reading
  rw [scan_prefixed letter, len_scanBased]
  cases selects : base? c with
  | none =>
    have found : (scanBased c (0x30 :: c.toUInt8 :: rest)).shape = .rejected (.unknownBase c) := by
      simp [scanBased, selects]
    rw [found]
    refine ⟨_, rfl, .unknownBase (fun base other => ?_) ⟨rfl, rfl⟩⟩
    rw [base?_eq_some_iff.mpr other] at selects
    cases selects
  | some base =>
    have known := base?_eq_some_iff.mp selects
    by_cases empty : span isWordPart rest = 0
    · have found : (scanBased c (0x30 :: c.toUInt8 :: rest)).shape =
          .rejected (.missingDigits base) := by
        simp [scanBased, selects, empty]
      rw [found, empty]
      exact ⟨_, rfl, .missingDigits known ⟨rfl, rfl⟩⟩
    have more : rest.take (span isWordPart rest) ≠ [] := by
      rw [ne_eq, List.take_eq_nil_iff, not_or]
      refine ⟨empty, ?_⟩
      rintro rfl
      exact empty rfl
    cases bad : badDigit? base (rest.take (span isWordPart rest)) with
    | some i =>
      have found : (scanBased c (0x30 :: c.toUInt8 :: rest)).shape = .badDigit (i + 2) base := by
        simp [scanBased, selects, empty, bad]
      rw [found]
      exact ⟨_, rfl, badDigit_judged known bad⟩
    | none =>
      have found : (scanBased c (0x30 :: c.toUInt8 :: rest)).shape = .based base := by
        simp [scanBased, selects, empty, bad]
      rw [found]
      exact based_reads known ((badDigit?_eq_none_iff more).mp bad) roomy

/-- At a zero with a letter after it the longest word that follows is taken, whatever comes of it.
With room in the scratch arena for its digits the literal is an unknown base, a base without digits,
a digit out of place, or the value of its digits unless that is too large. -/
theorem prefixed_literals_are_judged_whole (l : Lexer) {c : Char} {rest : List UInt8}
    (letter : c.isAlpha = true) (ahead : l.ahead = 0x30 :: c.toUInt8 :: rest) :
    ∃ word, Longest (RunOf isWordPart) word rest ∧
      l.call.2.current = l.current + 2 + word.length ∧
      (Roomy l.scratch word → ∃ result, nextToken l = .ok result l.call.2 ∧
        PrefixedResult l.options.fileName l.current c rest word result) := by
  have inside := inside_of_ahead ahead
  have length := List.length_take_of_le (Boundary.run isWordPart rest).le
  have taken : (scan l.ahead).len = span isWordPart rest + 2 := by
    rw [ahead, scan_prefixed letter, len_scanBased]
  refine ⟨_, Utf8.longest_run (by decide +kernel) rest, ?_, fun roomy => ?_⟩
  · rw [(current_call inside).2, taken, length]
    omega
  · obtain ⟨r, read, judged⟩ := prefixed_reads letter roomy
    refine ⟨_, nextToken_of_reading inside (by rw [ahead]; exact read), ?_⟩
    rw [taken, ahead]
    exact judged

/-- `0xF_é1` over an arena in use: the digit out of place is the letter, not its first byte. -/
theorem prefixed_literals_are_judged_whole_letter :
    let source : List UInt8 := [0x30, 0x78, 0x46, 0x5F, 0xC3, 0xA9, 0x31]
    let scratch : Arena :=
      { id := 1, address := 4096, data := List.replicate 32 0xAA, offset := 3, last? := some 0 }
    let l : Lexer := { source, scratch }
    let word : List UInt8 := [0x46, 0x5F, 0xC3, 0xA9, 0x31]
    let result : Result := .error ⟨"<No file>", 4, .invalidDigit 'é' 16⟩
    Longest (RunOf isWordPart) word word ∧ Roomy scratch word ∧ nextToken l = .ok result l.call.2 ∧
      PrefixedResult "<No file>" 0 'x' word word result := by
  intro source scratch l word result
  have ahead : l.ahead = 0x30 :: 'x'.toUInt8 :: word := rfl
  obtain ⟨found, longest, current, judged⟩ :=
    prefixed_literals_are_judged_whole l (by decide) ahead
  have stops : l.call.2.current = 7 := by decide +kernel
  have length : found.length = 5 := by
    have start : l.current = 0 := rfl
    omega
  have whole : found = word := by
    rw [List.prefix_iff_eq_take.mp longest.starts, length]
    rfl
  subst whole
  have roomy : Roomy scratch word := fun _ => ⟨⟨by decide, by decide, by decide⟩, by decide⟩
  obtain ⟨result', ran, holds⟩ := judged roomy
  have answered : l.call.1 = .ok result := by decide +kernel
  rw [nextToken_eq_ok_iff] at ran
  rw [ran] at answered
  cases answered
  exact ⟨longest, roomy, nextToken_eq_ok_iff.mpr ran, holds⟩

end FrontEnd.Lexer
