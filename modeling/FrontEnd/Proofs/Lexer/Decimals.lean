import FrontEnd.Proofs.Lexer.Literals
import FrontEnd.Proofs.Lexer.Printing
import FrontEnd.Proofs.Lexer.Stops
import FrontEnd.Proofs.Utf8.Runs

/-!
# Decimal literals

A decimal literal is the longest numeral without a letter that the bytes ahead start with
(`scanDecimal_longest`), and stands for the number that it spells
(`decimals_mean_what_they_spell`).
-/

namespace FrontEnd.Lexer

open Memory (Arena)
open Number (digit? maxSigned64 value)
open Utf8 (Longest ascii_isAlpha ascii_isDigit front? span)

/-- Digits and separators after a first digit, and perhaps a point and the same again. -/
def IsDecimal (text : List UInt8) : Prop := Spells .decimal text ∨ Spells .fraction text

/-- What a decimal literal at an offset of a file stands for. -/
inductive DecimalResult (fileName : String) (start : Nat) : List UInt8 → Result → Prop where
  | integer {text : List UInt8} (digits : Digits 10 text)
      (fits : value 10 (strip text) ≤ maxSigned64) :
      DecimalResult fileName start text (.ok
        { kind := .literal .integer
          offset := start
          lexeme := text
          value := .integer (value 10 (strip text)) })
  | overflow {text : List UInt8} {e : Error} (digits : Digits 10 text)
      (exceeds : maxSigned64 < value 10 (strip text))
      (reports : Reports fileName start .integerOverflow .integerOverflow e) :
      DecimalResult fileName start text (.error e)
  | real {whole part : List UInt8} {x : Number.Binary64} (digits : Digits 10 whole)
      (places : Digits 10 part)
      (read : Number.Binary64.ofText? (strip (whole ++ 0x2E :: part)) = some x)
      (nearest : x.Nearest (value 10 (strip whole ++ strip part)) (10 ^ (strip part).length)) :
      DecimalResult fileName start (whole ++ 0x2E :: part) (.ok
        { kind := .literal .real
          offset := start
          lexeme := whole ++ 0x2E :: part
          value := .real x })

variable {l l' : Lexer} {a : Arena} {bytes rest text whole : List UInt8} {result : Result}
  {d : UInt8} {fileName : String} {start : Nat}

/-! ### The longest decimal numeral -/

theorem length_le_span (digits : ∀ b ∈ text, inPlace 10 b = true) (starts : text <+: bytes) :
    text.length ≤ span isDigitOrSeparator bytes := by
  obtain ⟨rest, rfl⟩ := starts
  simp only [ascii_isDigitOrSeparator.span_eq, isDigitOrSeparator_ofUInt8]
  rw [List.takeWhile_append_of_pos digits, List.length_append]
  exact Nat.le_add_right _ _

theorem span_le_scanDecimal (bytes : List UInt8) :
    span isDigitOrSeparator bytes ≤ (scanDecimal bytes).len := by
  unfold scanDecimal
  dsimp only
  split
  · rw [Nat.add_assoc]
    exact Nat.le_add_right _ _
  · exact Nat.le_refl _

theorem length_le_scanDecimal (decimal : IsDecimal text) (starts : text <+: bytes) :
    text.length ≤ (scanDecimal bytes).len := by
  obtain spells | spells := decimal
  · cases spells with
    | decimal digits =>
      exact Nat.le_trans (length_le_span digits.inPlace starts) (span_le_scanDecimal bytes)
  · cases spells with
    | @fraction whole part digits places =>
      obtain ⟨rest, rfl⟩ := starts
      have within := length_le_span places.inPlace (List.prefix_append part rest)
      obtain ⟨d, more, rfl, digit, -⟩ := places.exists_cons
      rw [List.append_assoc, List.cons_append, scanDecimal_point digits, if_pos (by simpa using digit),
        List.length_append, List.length_cons]
      dsimp only
      omega

theorem scanDecimal_shape (bytes : List UInt8) :
    (scanDecimal bytes).shape = .decimal ∨ (scanDecimal bytes).shape = .fraction := by
  unfold scanDecimal
  dsimp only
  split
  · exact Or.inr rfl
  · exact Or.inl rfl

theorem scanDecimal_spells (digit : (digit? 10 d).isSome) (rest : List UInt8) :
    Spells (scanDecimal (d :: rest)).shape
      ((d :: rest).take (scanDecimal (d :: rest)).len) := by
  obtain none_read | spells := @scanDecimal_spelled d rest digit
  · exact absurd none_read.numeral?_eq_none (scanDecimal_numeral? _)
  · exact spells

theorem scanDecimal_longest (digit : (digit? 10 d).isSome) (rest : List UInt8) :
    Longest IsDecimal ((d :: rest).take (scanDecimal (d :: rest)).len) (d :: rest) := by
  refine ⟨?_, List.take_prefix _ _, fun text decimal starts => ?_⟩
  · have spells := scanDecimal_spells digit rest
    rcases scanDecimal_shape (d :: rest) with shape | shape
    · rw [shape] at spells
      exact Or.inl spells
    · rw [shape] at spells
      exact Or.inr spells
  · rw [List.length_take_of_le (scanDecimal_boundary (d :: rest)).le]
    exact length_le_scanDecimal decimal starts

/-! ### What it stands for -/

theorem scan_eq_scanDecimal (digit : (digit? 10 d).isSome)
    (unprefixed : selector? (d :: rest) = none) : scan (d :: rest) = scanDecimal (d :: rest) := by
  rw [scan_of_digit digit, scanNumber, unprefixed]

/-- A decimal literal is read as an integer or, if it has a point, as a real. -/
theorem decimal_cases (digit : (digit? 10 d).isSome) (unprefixed : selector? (d :: rest) = none) :
    let text := (d :: rest).take (scan (d :: rest)).len
    (Digits 10 text ∧ ∀ a, reading a (d :: rest) = (Numeral.integer 10 0).readIn a text) ∨
    ∃ whole part, text = whole ++ 0x2E :: part ∧ Digits 10 whole ∧ Digits 10 part ∧
      ∀ a, reading a (d :: rest) = Numeral.real.readIn a text := by
  intro text
  have found := scan_eq_scanDecimal digit unprefixed
  have spells := scanDecimal_spells digit rest
  rw [← found] at spells
  rcases scanDecimal_shape (d :: rest) with shape | shape
  · left
    rw [← found] at shape
    rw [shape] at spells
    cases spells with
    | decimal digits => exact ⟨digits, reading_numeral (by rw [shape]; rfl)⟩
  · right
    rw [← found] at shape
    rw [shape] at spells
    generalize same : (d :: rest).take (scan (d :: rest)).len = taken at spells
    cases spells with
    | @fraction whole part digits places =>
      exact ⟨whole, part, same, digits, places, reading_numeral (by rw [shape]; rfl)⟩

/-- With room in the arena a decimal literal is read as the number that it spells. -/
theorem decimal_reads (digit : (digit? 10 d).isSome) (unprefixed : selector? (d :: rest) = none)
    (roomy : Roomy a ((d :: rest).take (scan (d :: rest)).len)) :
    ∃ r, (reading a (d :: rest)).1 = .ok r ∧
      DecimalResult fileName start ((d :: rest).take (scan (d :: rest)).len)
        (present fileName start ((d :: rest).take (scan (d :: rest)).len) r) := by
  obtain ⟨digits, reads⟩ | ⟨whole, part, same, digits, places, reads⟩ :=
    decimal_cases digit unprefixed
  · generalize (d :: rest).take _ = text at digits reads roomy ⊢
    have evaluated : (Numeral.integer 10 0).evaluate (strip text) = _ :=
      evaluate_integer digits (by decide)
    refine ⟨_, by rw [reads]; exact Numeral.readIn_roomy roomy, ?_⟩
    show DecimalResult _ _ _ (present _ _ _ ((Numeral.integer 10 0).evaluate (strip text)))
    rw [evaluated]
    split
    · rename_i fits
      exact .integer digits fits
    · rename_i exceeds
      exact .overflow digits (Nat.lt_of_not_le exceeds) ⟨rfl, rfl⟩
  · rw [same] at roomy reads ⊢
    obtain ⟨x, read, nearest, evaluated⟩ := evaluate_real digits places
    refine ⟨_, by rw [reads]; exact Numeral.readIn_roomy roomy, ?_⟩
    show DecimalResult _ _ _ (present _ _ _ (Numeral.real.evaluate (strip (whole ++ 0x2E :: part))))
    rw [evaluated]
    exact .real digits places read nearest

theorem decimal_not_malformed (digit : (digit? 10 d).isSome)
    (unprefixed : selector? (d :: rest) = none) {index : Nat} {cause : Cause}
    (read : (reading a (d :: rest)).1 = .ok (.error (index, cause))) : cause ≠ .malformedReal := by
  rintro rfl
  obtain ⟨digits, reads⟩ | ⟨whole, part, same, digits, places, reads⟩ :=
    decimal_cases digit unprefixed
  · rw [reads] at read
    obtain evaluated | ⟨refusal, refused⟩ := Numeral.readIn_ok read
    · unfold Numeral.evaluate at evaluated
      split at evaluated
      · cases evaluated
      · cases evaluated
    · cases refused
  · rw [reads, same] at read
    obtain evaluated | ⟨refusal, refused⟩ := Numeral.readIn_ok read
    · obtain ⟨x, -, -, real⟩ := evaluate_real digits places
      cases evaluated.trans real
    · cases refused

/-! ### A point that is left -/

theorem scan_point (rest : List UInt8) : scan (0x2E :: rest) = ⟨.plain (.operator .dot), 1⟩ := by
  have alone (next? : Option Char) :
      TokenKind.longestSymbol? '.' next? = some (.operator .dot, 1) := by
    cases next? <;> simp [TokenKind.longestSymbol?, TokenKind.ofPair?, TokenKind.ofChar?]
  refine @scan_symbol '.' rest [] (.operator .dot) (by decide) (fun comment => ?_) (alone _)
  cases comment.1

theorem nextToken_point (ahead : l.ahead = 0x2E :: rest) :
    nextToken l =
      .ok (.ok { kind := .operator .dot, offset := l.current, lexeme := [0x2E] }) l.call.2 := by
  have ran := nextToken_plain (inside_of_ahead ahead) ((congrArg scan ahead).trans (scan_point rest))
  rw [ahead] at ran
  exact ran.1

theorem selector?_unprefixed {d : Char} (digit : d.isDigit = true)
    (unprefixed : d = '0' → ∀ c : Char, c.isAlpha = true → rest.head? ≠ some c.toUInt8) :
    selector? (d.toUInt8 :: rest) = none := by
  apply Option.eq_none_iff_forall_ne_some.mpr
  intro c selected
  obtain ⟨alpha, more, same⟩ := selector?_eq_some_iff.mp selected
  obtain ⟨zero, rfl⟩ := List.cons.inj same
  apply unprefixed _ c alpha rfl
  rw [← Utf8.ofUInt8_toUInt8 (ascii_isDigit d digit), zero]
  rfl

/-- A point that no digit follows ends the numeral. -/
theorem scanDecimal_bare (digits : Digits 10 whole)
    (bare : ∀ c : Char, c.isDigit = true → rest.head? ≠ some c.toUInt8) :
    (whole ++ 0x2E :: rest).take (scanDecimal (whole ++ 0x2E :: rest)).len = whole := by
  have none_follows : ¬rest.head?.any (fun b => (digit? 10 b).isSome) := by
    intro follows
    obtain ⟨b, first, digit⟩ := (Option.any_eq_true ..).mp follows
    rw [← isDigit_ofUInt8] at digit
    exact bare _ digit (by rw [Utf8.toUInt8_ofUInt8, first])
  rw [scanDecimal_point digits, if_neg none_follows, List.take_left]

/-- A decimal literal is the longest there is at the cursor, whatever follows it. With room in the
scratch arena for its digits it stands for the number that they spell, a fraction for the nearest
double, and no arena makes it malformed. A point that no digit follows is left for the next
token. -/
theorem decimals_mean_what_they_spell (l : Lexer) {d : Char} {rest : List UInt8}
    (digit : d.isDigit = true) (ahead : l.ahead = d.toUInt8 :: rest)
    (unprefixed : d = '0' → ∀ c : Char, c.isAlpha = true → rest.head? ≠ some c.toUInt8) :
    ∃ text, Longest IsDecimal text l.ahead ∧
      l.call.2.current = l.current + text.length ∧
      (Roomy l.scratch text → ∃ result, nextToken l = .ok result l.call.2 ∧
        DecimalResult l.options.fileName l.current text result) ∧
      (∀ e, l.call.1 = .ok (.error e) → e.cause ≠ .malformedReal) ∧
      (∀ whole more, l.ahead = whole ++ 0x2E :: more → Digits 10 whole →
        (∀ c : Char, c.isDigit = true → more.head? ≠ some c.toUInt8) → text = whole) ∧
      (∀ more, l.ahead = text ++ 0x2E :: more → ∃ l', nextToken l.call.2 = .ok (.ok
        { kind := .operator .dot, offset := l.current + text.length, lexeme := [0x2E] }) l') := by
  have inside := inside_of_ahead ahead
  have some_digit : (digit? 10 d.toUInt8).isSome := by
    rw [Number.digit?_of_isDigit digit]
    rfl
  have unselected := selector?_unprefixed digit unprefixed
  have found := scan_eq_scanDecimal some_digit unselected
  have longest := scanDecimal_longest some_digit rest
  obtain ⟨-, current⟩ := current_call inside
  have left := ahead_call inside
  have length := List.length_take_of_le (scan_len_le (d.toUInt8 :: rest))
  rw [← found] at longest
  rw [ahead] at current left ⊢
  rw [← length] at current left
  refine ⟨_, longest, current, fun roomy => ?_, fun e erred => ?_, ?_, ?_⟩
  · obtain ⟨r, read, stands⟩ := decimal_reads some_digit unselected roomy
    refine ⟨_, nextToken_of_reading inside (by rwa [ahead]), ?_⟩
    rw [ahead]
    exact stands
  · rw [call_eq inside] at erred
    obtain ⟨r, read, shown⟩ := reading_of_answer erred
    rw [ahead] at read
    match r, shown with
    | .error (index, cause), rfl => exact decimal_not_malformed some_digit unselected read
  · intro whole more same digits bare
    rw [found, same]
    exact scanDecimal_bare digits bare
  · intro more same
    generalize (d.toUInt8 :: rest).take _ = text at current left same
    rw [same, List.drop_left] at left
    rw [← current]
    exact ⟨_, nextToken_point left⟩

/-- `1_0.2_5.` in `=1_0.2_5.`, staged over an arena in use: the second point is left. -/
theorem decimals_mean_what_they_spell_staged :
    let source : List UInt8 := [0x3D, 0x31, 0x5F, 0x30, 0x2E, 0x32, 0x5F, 0x35, 0x2E]
    let scratch : Arena :=
      { id := 1, address := 4096, data := List.replicate 32 0xAA, offset := 3, last? := some 0 }
    let l : Lexer := { source, scratch, current := 1 }
    let text : List UInt8 := [0x31, 0x5F, 0x30, 0x2E, 0x32, 0x5F, 0x35]
    Longest IsDecimal text l.ahead ∧ Roomy scratch text ∧
      (∃ result, nextToken l = .ok result l.call.2 ∧ DecimalResult "<No file>" 1 text result) ∧
      ∃ l', nextToken l.call.2 =
        .ok (.ok { kind := .operator .dot, offset := 8, lexeme := [0x2E] }) l' := by
  intro source scratch l text
  have ahead : l.ahead = '1'.toUInt8 :: [0x5F, 0x30, 0x2E, 0x32, 0x5F, 0x35, 0x2E] := rfl
  obtain ⟨found, longest, current, stands, -, -, point⟩ :=
    decimals_mean_what_they_spell l (by decide) ahead nofun
  have stops : l.call.2.current = 8 := by decide +kernel
  have length : found.length = 7 := by
    have start : l.current = 1 := rfl
    omega
  have whole : found = text := by
    rw [List.prefix_iff_eq_take.mp longest.starts, length]
    rfl
  subst whole
  have roomy : Roomy scratch text := fun _ => ⟨⟨by decide, by decide, by decide⟩, by decide⟩
  exact ⟨longest, roomy, stands roomy, point [] rfl⟩

end FrontEnd.Lexer
