import FrontEnd.Proofs.Lexer.Literals
import FrontEnd.Proofs.Lexer.Printing

/-!
# Strings

What `Quotes` says of the bytes of a string, for a call: `strings_close_byte_by_byte`.
-/

namespace FrontEnd.Lexer

open Buffer (window)
open Memory (Arena)
open Utf8 (front?)

/-! ### Calls -/

theorem scan_string (body : List UInt8) :
    scan (0x22 :: body) =
      match quoteIndex? false body with
      | some i => ⟨.quoted, i + 2⟩
      | none => ⟨.rejected .unterminatedString, body.length + 1⟩ := by
  have opens : front? (0x22 :: body) = some '"' := (Utf8.front?_eq_some_iff (by decide)).mpr rfl
  rw [scan_of_quote opens, scanString, List.drop_succ_cons, List.drop_zero, closing?_eq]
  cases quoteIndex? false body <;> rfl

/-- A string goes up to the first quote that no backslash skips, as the bytes are scanned one by
one, and its value is what lies between the quotes. If there is no such quote, the string is
reported where it starts, and nothing is left of the source. -/
theorem strings_close_byte_by_byte (l : Lexer) (opens : l.source[l.current]? = some 0x22) :
    match quoteIndex? false (l.source.drop (l.current + 1)) with
    | some i =>
      nextToken l =
          .ok (.ok
            { kind := .literal .string
              offset := l.current
              lexeme := window l.source l.current (i + 2)
              value := .text (window l.source (l.current + 1) i) }) l.call.2 ∧
        l.call.2.current = l.current + (i + 2)
    | none =>
      ∃ e, nextToken l = .ok (.error e) l.call.2 ∧
        Reports l.options.fileName l.current .unterminatedString .unterminatedString e ∧
        l.call.2.current = l.source.length := by
  obtain ⟨inside, quote⟩ := List.getElem?_eq_some_iff.mp opens
  have ahead : l.ahead = 0x22 :: l.source.drop (l.current + 1) := by
    rw [Lexer.ahead, List.drop_eq_getElem_cons inside, quote]
  have found := scan_string (l.source.drop (l.current + 1))
  rw [← ahead] at found
  have current := (current_call (Nat.le_of_lt inside)).2
  split
  · rename_i i closes
    rw [closes] at found
    dsimp only at found
    have between : window l.ahead 1 i = window l.source (l.current + 1) i := by
      unfold window Lexer.ahead
      rw [List.drop_drop]
    have read : (reading l.scratch l.ahead).1 =
        .ok (.ok (.literal .string, .text (window l.source (l.current + 1) i))) := by
      unfold reading
      rw [found, ← between]
      rfl
    have ran := nextToken_of_reading (Nat.le_of_lt inside) read
    rw [found] at ran current
    exact ⟨ran, current⟩
  · rename_i unclosed
    rw [unclosed] at found
    dsimp only at found
    obtain ⟨ran, current⟩ := nextToken_rejected (Nat.le_of_lt inside) found
    refine ⟨_, ran, ⟨rfl, rfl⟩, ?_⟩
    rw [current, List.length_drop]
    omega

/-- A string with a skipped `é`, a skipped quote and a byte that is cut off from its character, and
one whose only other quote is skipped. -/
theorem strings_close_byte_by_byte_escaped :
    let scratch : Arena := { id := 1, address := 4096, data := [] }
    let l : Lexer :=
      { source := [0x22, 0x5C, 0xC3, 0xA9, 0x5C, 0x22, 0xC3, 0x22, 0x7A], scratch }
    let m : Lexer := { source := [0x7A, 0x22, 0x5C, 0x22], scratch, current := 1 }
    nextToken l =
        .ok (.ok
          { kind := .literal .string
            offset := 0
            lexeme := [0x22, 0x5C, 0xC3, 0xA9, 0x5C, 0x22, 0xC3, 0x22]
            value := .text [0x5C, 0xC3, 0xA9, 0x5C, 0x22, 0xC3] }) l.call.2 ∧
      l.call.2.current = 8 ∧
      ∃ e, nextToken m = .ok (.error e) m.call.2 ∧
        Reports "<No file>" 1 .unterminatedString .unterminatedString e ∧
        m.call.2.current = 4 := by
  intro scratch l m
  have closes : quoteIndex? false (l.source.drop (l.current + 1)) = some 6 := by decide
  have unclosed : quoteIndex? false (m.source.drop (m.current + 1)) = none := by decide
  have scanned := strings_close_byte_by_byte l rfl
  have refused := strings_close_byte_by_byte m rfl
  rw [closes] at scanned
  rw [unclosed] at refused
  exact ⟨scanned.1, scanned.2, refused⟩

end FrontEnd.Lexer
