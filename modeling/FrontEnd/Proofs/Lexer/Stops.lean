import FrontEnd.Lexer.Scan
import FrontEnd.Proofs.Utf8.Visits

/-!
# Where a shape stops

`scan_boundary`: what stands at the front of a source ends between two units of it, whatever bytes
there are.
-/

namespace FrontEnd.Lexer

open Utf8 (Boundary decode front? span)

variable {bytes rest : List UInt8} {lead : UInt8} {c d : Char} {kind : TokenKind} {len : Nat}

/-! ### Numerals -/

theorem selector?_boundary (selected : selector? bytes = some c) : Boundary bytes 2 := by
  unfold selector? at selected
  split at selected
  · rename_i zero
    obtain ⟨second, letter⟩ := Option.filter_eq_some_iff.mp selected
    have first : Boundary bytes 1 := .ascii zero (by decide)
    exact first.add (.ascii second (Utf8.ascii_isAlpha c letter))
  · cases selected

theorem scanBased_boundary (selector : Char) (two : Boundary bytes 2) :
    Boundary bytes (scanBased selector bytes).len := by
  have word := two.add (.run isWordPart _)
  rw [Nat.add_comm] at word
  unfold scanBased
  dsimp only
  split
  · exact word
  · split
    · exact two
    · split
      · exact word
      · exact word

theorem scanDecimal_boundary (bytes : List UInt8) : Boundary bytes (scanDecimal bytes).len := by
  have whole : Boundary bytes (span isDigitOrSeparator bytes) := .run _ _
  unfold scanDecimal
  dsimp only
  split
  · rename_i point
    have after := whole.add (.ascii point.1 (by decide))
    rw [List.drop_drop]
    exact after.add (.run _ _)
  · exact whole

/-! ### Strings -/

/-- The bytes of a unit already read are only counted. -/
theorem closingFrom?_eq (escaped : Bool) (skip : Nat) (bytes : List UInt8) :
    closingFrom? escaped skip bytes =
      (closingFrom? escaped 0 (bytes.drop skip)).map (· + skip) := by
  induction bytes generalizing skip with
  | nil => cases skip <;> rfl
  | cons b rest ih =>
    cases skip with
    | zero => simp
    | succ skip =>
      rw [closingFrom?, ih, List.drop_succ_cons, Option.map_map]
      rfl

/-- Whether a unit closes the string, and where the string goes on if it does not. -/
theorem closingFrom?_unit (escaped : Bool) (more : bytes ≠ []) :
    closingFrom? escaped 0 bytes =
      if !escaped && (decode bytes).char == '"' then some 1
      else (closingFrom? (!escaped && (decode bytes).char == '\\') 0
        (bytes.drop (decode bytes).len)).map (· + (decode bytes).len) := by
  obtain ⟨lead, rest, rfl⟩ := List.exists_cons_of_ne_nil more
  obtain ⟨n, length⟩ := Nat.exists_eq_succ_of_ne_zero
    (Nat.ne_of_gt (Utf8.decode_len_pos (lead :: rest)))
  rw [closingFrom?]
  simp only [length, Nat.succ_sub_one, closingFrom?_eq _ n, Option.map_map, List.drop_succ_cons]
  cases escaped with
  | true => simp [Function.comp_def, Nat.add_assoc]
  | false => simp [Function.comp_def, Nat.add_assoc]

theorem closingFrom?_boundary {escaped : Bool}
    (closes : closingFrom? escaped 0 bytes = some len) : Boundary bytes len := by
  induction bytes using Utf8.unitInduction generalizing escaped len with
  | nil => cases closes
  | unit bytes more ih =>
    rw [closingFrom?_unit escaped more] at closes
    split at closes
    · rename_i quote
      cases closes
      obtain ⟨lead, rest, rfl⟩ := List.exists_cons_of_ne_nil more
      simp only [Bool.and_eq_true, beq_iff_eq] at quote
      exact .ascii (congrArg some quote.2) (by decide)
    · obtain ⟨m, found, rfl⟩ := Option.map_eq_some_iff.mp closes
      rw [Nat.add_comm]
      exact .step more (ih found)

theorem scanString_boundary (opens : front? bytes = some '"') :
    Boundary bytes (scanString bytes).len := by
  unfold scanString
  split
  · rename_i len closes
    have quote : Boundary bytes 1 := .ascii opens (by decide)
    have all := quote.add (closingFrom?_boundary closes)
    rwa [Nat.add_comm] at all
  · exact .length bytes

/-! ### Symbols -/

theorem ofChar?_ascii (single : TokenKind.ofChar? c = some kind) : c.toNat < 0x80 := by
  unfold TokenKind.ofChar? at single
  split at single <;> first | decide | cases single

theorem ofPair?_ascii (pair : TokenKind.ofPair? c d = some kind) :
    c.toNat < 0x80 ∧ d.toNat < 0x80 := by
  unfold TokenKind.ofPair? at pair
  split at pair <;> first | decide | cases pair

theorem scanSymbol_boundary (lead : UInt8) (rest : List UInt8) :
    Boundary (lead :: rest) (scanSymbol lead (lead :: rest)).len := by
  unfold scanSymbol
  dsimp only
  split
  · rename_i kind len longest
    unfold TokenKind.longestSymbol? at longest
    split at longest
    · rename_i both
      cases longest
      obtain ⟨second, follows, pair⟩ := Option.bind_eq_some_iff.mp both
      obtain ⟨ascii, ascii'⟩ := ofPair?_ascii pair
      rw [Utf8.decode_ascii (Utf8.lead_of_char_ascii ascii)] at follows
      exact (Boundary.ascii rfl ascii).add (.ascii follows ascii')
    · obtain ⟨single, found, same⟩ := Option.map_eq_some_iff.mp longest
      cases same
      exact .ascii rfl (ofChar?_ascii found)
  · exact .unit (List.cons_ne_nil lead rest)

/-! ### Any shape -/

/-- What stands at the front of a source ends at a boundary of it. -/
theorem scan_boundary (bytes : List UInt8) : Boundary bytes (scan bytes).len := by
  cases bytes with
  | nil => exact .start []
  | cons lead rest =>
    unfold scan
    dsimp only
    split
    · exact .run _ _
    split
    · exact .run (· != '\n') _
    split
    · unfold scanWord
      dsimp only
      split <;> exact .run _ _
    split
    · unfold scanNumber
      split
      · rename_i selector selected
        exact scanBased_boundary selector (selector?_boundary selected)
      · exact scanDecimal_boundary _
    split
    · rename_i quote
      exact scanString_boundary (congrArg some quote)
    · exact scanSymbol_boundary lead rest

end FrontEnd.Lexer
