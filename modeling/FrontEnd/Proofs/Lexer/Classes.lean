import FrontEnd.Proofs.Lexer.Numerals
import FrontEnd.Proofs.Utf8.Text

/-!
# Classes of characters

White space belongs to no other class that a lexer asks about. There is little of it, so that is
checked range by range (`forall_whitespace`).
-/

namespace FrontEnd.Lexer

open Unicode (Ranges isAlphabetic isNumeric isWhitespace whitespaceRanges)
open Utf8 (Ascii ascii_isAlpha front?)

variable {c : Char} {p : Char → Bool} {rest : List UInt8}

theorem exists_of_covers {ranges : Ranges} {v : Nat} (covered : ranges.covers v = true) :
    ∃ range ∈ ranges, range.1 ≤ v ∧ v ≤ range.2 := by
  induction ranges with
  | nil => cases covered
  | cons range ranges ih =>
    obtain ⟨low, high⟩ := range
    simp only [Ranges.covers, Bool.and_eq_true, Bool.or_eq_true, decide_eq_true_eq] at covered
    obtain ⟨above, below | later⟩ := covered
    · exact ⟨_, List.mem_cons_self, above, below⟩
    · obtain ⟨range, member, bounds⟩ := ih later
      exact ⟨range, List.mem_cons_of_mem _ member, bounds⟩

theorem forall_whitespace {P : Char → Prop}
    (each : ∀ range ∈ whitespaceRanges, ∀ k < range.2 + 1 - range.1, P (.ofNat (range.1 + k)))
    (blank : isWhitespace c = true) : P c := by
  obtain ⟨range, member, low, high⟩ := exists_of_covers blank
  have holds := each range member (c.toNat - range.1) (by omega)
  rwa [Nat.add_sub_cancel' low, Char.ofNat_toNat] at holds

theorem not_wordPart_of_blank (blank : isWhitespace c = true) : isWordPart c = false :=
  forall_whitespace (P := fun c => isWordPart c = false) (by decide +kernel) blank

theorem not_blank_of_wordPart (part : isWordPart c = true) : isWhitespace c = false :=
  Bool.eq_false_iff.mpr fun blank => absurd part (by simp [not_wordPart_of_blank blank])

theorem wordPart_of_isDigitOrSeparator (part : isDigitOrSeparator c = true) :
    isWordPart c = true := by
  have same := Utf8.ofUInt8_toUInt8 (ascii_isDigitOrSeparator c part)
  rw [← same, isDigitOrSeparator_ofUInt8] at part
  rw [← same]
  exact (wordPart_of_inPlace part).2

theorem not_isDigitOrSeparator_of_blank (blank : isWhitespace c = true) :
    isDigitOrSeparator c = false :=
  Bool.eq_false_iff.mpr fun part =>
    absurd (wordPart_of_isDigitOrSeparator part) (by simp [not_wordPart_of_blank blank])

theorem not_blank_of_isDigit (digit : c.isDigit = true) : isWhitespace c = false :=
  not_blank_of_wordPart (wordPart_of_isDigitOrSeparator (by simp [isDigitOrSeparator, digit]))

/-! ### What white space stops -/

/-- Bytes that end a token before them: none, or bytes that start with white space. -/
def Apart (rest : List UInt8) : Prop := ∀ c, front? rest = some c → isWhitespace c = true

theorem Apart.wordPart (apart : Apart rest) (c : Char) (front : front? rest = some c) :
    isWordPart c = false :=
  not_wordPart_of_blank (apart c front)

/-- The first byte is of no ASCII class that white space is not of. -/
theorem Apart.head (apart : Apart rest) (ascii : Ascii p)
    (other : ∀ c, isWhitespace c = true → p c = false) (b : UInt8) (first : rest.head? = some b) :
    p (.ofUInt8 b) = false := by
  have same := ascii.front?_any rest
  rw [first] at same
  cases front : front? rest with
  | none =>
    rw [front] at same
    exact same.symm
  | some c =>
    rw [front] at same
    exact same.symm.trans (other c (apart c front))

theorem Apart.inPlace (apart : Apart rest) (b : UInt8) (first : rest.head? = some b) :
    inPlace 10 b = false := by
  rw [← isDigitOrSeparator_ofUInt8]
  exact apart.head ascii_isDigitOrSeparator (fun c => not_isDigitOrSeparator_of_blank) b first

theorem Apart.isAlpha (apart : Apart rest) (b : UInt8) (first : rest.head? = some b) :
    (Char.ofUInt8 b).isAlpha = false := by
  refine apart.head ascii_isAlpha (fun c => ?_) b first
  exact forall_whitespace (P := fun c => c.isAlpha = false) (by decide +kernel)

theorem Apart.point (apart : Apart rest) : rest.head? ≠ some 0x2E := by
  intro first
  have blank := apart '.' ((Utf8.front?_eq_some_iff (by decide)).mpr first)
  exact absurd blank (by decide)

theorem ofPair?_cases {c d : Char} {kind : TokenKind} (pair : TokenKind.ofPair? c d = some kind) :
    d = '>' ∨ d = '&' ∨ d = '|' ∨ d = '<' ∨ d = '=' := by
  unfold TokenKind.ofPair? at pair
  split at pair <;> simp at pair ⊢

theorem Apart.ofPair? (apart : Apart rest) (c : Char) :
    (front? rest).bind (TokenKind.ofPair? c) = none := by
  cases front : front? rest with
  | none => rfl
  | some d =>
    have blank := apart d front
    cases pair : TokenKind.ofPair? c d with
    | none => exact pair
    | some kind =>
      rcases ofPair?_cases pair with rfl | rfl | rfl | rfl | rfl <;> exact absurd blank (by decide)

end FrontEnd.Lexer
