import FrontEnd.Proofs.Lexer.Stops
import FrontEnd.Proofs.Utf8.Runs

/-!
# Quotes

A string is scanned unit by unit, and it might as well be scanned byte by byte (`closing?_eq`):
quotes and backslashes are units of their own, and no byte of a longer unit is one of them.
-/

namespace FrontEnd.Lexer

open Utf8 (decode front?)

/-- The index of the quote that closes a string, byte by byte. A backslash that is not skipped skips
the byte after it. -/
def quoteIndex? (skipped : Bool) : List UInt8 → Option Nat
  | [] => none
  | b :: rest =>
    if skipped then (quoteIndex? false rest).map (· + 1)
    else if b = 0x22 then some 0
    else (quoteIndex? (b == 0x5C) rest).map (· + 1)

variable {bytes front body : List UInt8} {skipped : Bool} {i n : Nat}

/-! ### Bytes and units -/

theorem quoteIndex?_append (plain : ∀ b ∈ front, b ≠ 0x22 ∧ b ≠ 0x5C) (rest : List UInt8) :
    quoteIndex? false (front ++ rest) = (quoteIndex? false rest).map (· + front.length) := by
  induction front with
  | nil => simp
  | cons b front ih =>
    obtain ⟨no_quote, no_escape⟩ := plain b List.mem_cons_self
    rw [← beq_eq_false_iff_ne] at no_escape
    have later := ih fun b member => plain b (List.mem_cons_of_mem _ member)
    simp [quoteIndex?, no_quote, no_escape, later, Function.comp_def, Nat.add_assoc]

/-- What the bytes of a unit come to is what the unit comes to. -/
theorem quoteIndex?_unit (escaped : Bool) (more : bytes ≠ []) :
    quoteIndex? escaped bytes =
      if !escaped && (decode bytes).char == '"' then some 0
      else (quoteIndex? (!escaped && (decode bytes).char == '\\')
        (bytes.drop (decode bytes).len)).map (· + (decode bytes).len) := by
  obtain ⟨lead, rest, rfl⟩ := List.exists_cons_of_ne_nil more
  obtain ⟨n, length⟩ := Nat.exists_eq_add_one.mpr (Utf8.decode_len_pos (lead :: rest))
  have inside : n ≤ rest.length := by
    have le := Utf8.decode_len_le_length more
    rw [length, List.length_cons] at le
    omega
  have tail : ∀ b ∈ rest.take n, b ≠ 0x22 ∧ b ≠ 0x5C := by
    intro b member
    have high := @Utf8.not_ascii_of_mem_tail (lead :: rest) b (by rwa [length])
    constructor
    · rintro rfl
      exact absurd high (by decide)
    · rintro rfl
      exact absurd high (by decide)
  have passes := quoteIndex?_append tail (rest.drop n)
  rw [List.take_append_drop, List.length_take_of_le inside] at passes
  cases escaped with
  | true => simp [quoteIndex?, passes, length, Function.comp_def, Nat.add_assoc]
  | false =>
    by_cases quote : (decode (lead :: rest)).char = '"'
    · obtain rfl : lead = 0x22 := Utf8.lead_of_char (by decide) quote
      simp [quoteIndex?, quote]
    have no_quote : lead ≠ 0x22 := by
      rintro rfl
      exact quote (Utf8.char_ascii (by decide))
    by_cases escape : (decode (lead :: rest)).char = '\\'
    · obtain rfl : lead = 0x5C := Utf8.lead_of_char (by decide) escape
      have alone : (decode (0x5C :: rest)).len = 1 := by
        rw [Utf8.decode_ascii (by decide)]
      simp [quoteIndex?, escape, alone]
    · have no_escape : (lead == 0x5C) = false := by
        rw [beq_eq_false_iff_ne]
        rintro rfl
        exact escape (Utf8.char_ascii (by decide))
      have other := beq_eq_false_iff_ne.mpr escape
      simp [quoteIndex?, quote, other, no_quote, no_escape, passes, length, Function.comp_def,
        Nat.add_assoc]

theorem closing?_eq (body : List UInt8) : closing? body = (quoteIndex? false body).map (· + 1) := by
  suffices units : ∀ escaped,
      closingFrom? escaped 0 body = (quoteIndex? escaped body).map (· + 1) from units false
  induction body using Utf8.unitInduction with
  | nil => exact fun _ => rfl
  | unit bytes more ih =>
    intro escaped
    rw [closingFrom?_unit escaped more, quoteIndex?_unit escaped more, ih]
    split
    · rfl
    · simp [Function.comp_def, Nat.add_right_comm]

/-! ### The quote that closes a string -/

theorem getElem?_of_quoteIndex? (closes : quoteIndex? skipped bytes = some i) :
    bytes[i]? = some 0x22 := by
  induction bytes generalizing skipped i with
  | nil => cases closes
  | cons b rest ih =>
    unfold quoteIndex? at closes
    split at closes
    · obtain ⟨j, found, rfl⟩ := Option.map_eq_some_iff.mp closes
      exact ih found
    · split at closes
      · rename_i quote
        cases closes
        exact congrArg some quote
      · obtain ⟨j, found, rfl⟩ := Option.map_eq_some_iff.mp closes
        exact ih found

theorem quoteIndex?_take (closes : quoteIndex? skipped bytes = some i) :
    quoteIndex? skipped (bytes.take (i + 1)) = some i := by
  induction bytes generalizing skipped i with
  | nil => cases closes
  | cons b rest ih =>
    rw [List.take_succ_cons]
    unfold quoteIndex? at closes ⊢
    split at closes
    · rename_i skips
      obtain ⟨j, found, rfl⟩ := Option.map_eq_some_iff.mp closes
      rw [if_pos skips, ih found]
      rfl
    · rename_i reads
      rw [if_neg reads]
      split at closes
      · rename_i quote
        rwa [if_pos quote]
      · rename_i other
        obtain ⟨j, found, rfl⟩ := Option.map_eq_some_iff.mp closes
        rw [if_neg other, ih found]
        rfl

theorem closing?_quote (closes : closing? body = some n) : body[n - 1]? = some 0x22 := by
  rw [closing?_eq] at closes
  obtain ⟨i, found, rfl⟩ := Option.map_eq_some_iff.mp closes
  exact getElem?_of_quoteIndex? found

/-- The quote that closes a string closes it without the rest as well. -/
theorem closing?_take (closes : closing? body = some n) : closing? (body.take n) = some n := by
  rw [closing?_eq] at closes ⊢
  obtain ⟨i, found, rfl⟩ := Option.map_eq_some_iff.mp closes
  rw [quoteIndex?_take found]
  rfl

/-- A quote closes a string that has no quotes and escapes before it. -/
theorem closing?_plain (plain : ∀ b ∈ body, b ≠ 0x22 ∧ b ≠ 0x5C) (rest : List UInt8) :
    closing? (body ++ 0x22 :: rest) = some (body.length + 1) := by
  rw [closing?_eq, quoteIndex?_append plain]
  simp [quoteIndex?]

end FrontEnd.Lexer
