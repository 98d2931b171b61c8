import Mathlib.Logic.ExistsUnique
import FrontEnd.Proofs.Lexer.Succession

/-!
# Symbols

A call takes the longest symbol whose name the bytes ahead start with, whatever comes after it
(`symbols_munch_most`). The lookup behind it knows only the first two characters, which is as long
as names get (`longestSymbol?_munches`).
-/

namespace FrontEnd.Lexer

open Unicode (isWhitespace)
open Utf8 (Longest decode front?)

/-- The name of a symbol. -/
def SymbolName (text : List UInt8) : Prop := ∃ kind, IsSymbol kind ∧ nameBytes kind = text

/-- A symbol with the longest of the names that bytes start with. -/
structure Munches (kind : TokenKind) (bytes : List UInt8) : Prop where
  symbol : IsSymbol kind
  longest : Longest SymbolName (nameBytes kind) bytes

variable {l : Lexer} {c : Char} {kind kind' : TokenKind} {bytes rest text : List UInt8} {len : Nat}

/-! ### Names in front -/

theorem cons_prefix_iff (ascii : c.toNat < 0x80) :
    c.toUInt8 :: text <+: bytes ↔
      front? bytes = some c ∧ text <+: bytes.drop (decode bytes).len := by
  rw [Utf8.front?_eq_some_iff ascii]
  have low : c.toUInt8.toNat < 0x80 := by rwa [Utf8.toNat_toUInt8 ascii]
  cases bytes with
  | nil => simp
  | cons lead rest =>
    rw [List.cons_prefix_cons, List.head?_cons, Option.some.injEq, eq_comm]
    apply and_congr_right
    rintro rfl
    rw [Utf8.decode_ascii low, List.drop_succ_cons, List.drop_zero]

theorem singleton_prefix_iff (ascii : c.toNat < 0x80) :
    [c.toUInt8] <+: bytes ↔ front? bytes = some c := by
  simp [cons_prefix_iff ascii]

theorem pair_prefix_iff {d : Char} (ascii : c.toNat < 0x80) (ascii' : d.toNat < 0x80) :
    [c.toUInt8, d.toUInt8] <+: bytes ↔
      front? bytes = some c ∧ front? (bytes.drop (decode bytes).len) = some d := by
  rw [cons_prefix_iff ascii, singleton_prefix_iff ascii']

theorem Munches.unique (munches : Munches kind bytes) (munches' : Munches kind' bytes) :
    kind = kind' := by
  have le := munches.longest.most _ munches'.longest.holds munches'.longest.starts
  have le' := munches'.longest.most _ munches.longest.holds munches.longest.starts
  apply nameBytes_inj munches.symbol munches'.symbol
  have starts : nameBytes kind <+: nameBytes kind' :=
    List.prefix_of_prefix_length_le munches.longest.starts munches'.longest.starts le'
  exact starts.eq_of_length_le le

/-! ### The lookup -/

/-- A name in front is spelled by the first character there, or by the first two. -/
theorem IsSymbol.spelled (symbol : IsSymbol kind) (front : front? bytes = some c)
    (starts : nameBytes kind <+: bytes) :
    (TokenKind.ofChar? c = some kind ∧ (nameBytes kind).length = 1) ∨
    ((front? (bytes.drop (decode bytes).len)).bind (TokenKind.ofPair? c) = some kind ∧
      (nameBytes kind).length = 2) := by
  obtain ⟨c', single, name⟩ | ⟨c', d, pair, name⟩ := symbol.name_cases
  · rw [name, singleton_prefix_iff (ofChar?_ascii single)] at starts
    obtain rfl := Option.some.inj (front.symm.trans starts)
    exact Or.inl ⟨single, by simp [name]⟩
  · obtain ⟨ascii, ascii'⟩ := ofPair?_ascii pair
    rw [name, pair_prefix_iff ascii ascii'] at starts
    obtain rfl := Option.some.inj (front.symm.trans starts.1)
    exact Or.inr ⟨by simp [starts.2, pair], by simp [name]⟩

/-- The symbol that two characters spell is longer than that of the first alone. -/
theorem longestSymbol?_munches (front : front? bytes = some c)
    (found : TokenKind.longestSymbol? c (front? (bytes.drop (decode bytes).len)) =
      some (kind, len)) : Munches kind bytes ∧ (nameBytes kind).length = len := by
  have symbol := (longestSymbol?_bounds found).1
  unfold TokenKind.longestSymbol? at found
  split at found
  · rename_i both
    cases found
    obtain ⟨d, follows, pair⟩ := Option.bind_eq_some_iff.mp both
    obtain ⟨ascii, ascii'⟩ := ofPair?_ascii pair
    have name := nameBytes_ofPair? pair
    refine ⟨⟨symbol, ⟨kind, symbol, rfl⟩, ?_, ?_⟩, by simp [name]⟩
    · rw [name, pair_prefix_iff ascii ascii']
      exact ⟨front, follows⟩
    · rintro other ⟨kind', symbol', rfl⟩ starts
      obtain ⟨-, length⟩ | ⟨-, length⟩ := symbol'.spelled front starts <;> simp [name, length]
  · rename_i no_pair
    obtain ⟨kind, single, same⟩ := Option.map_eq_some_iff.mp found
    cases same
    have name := nameBytes_ofChar? single
    refine ⟨⟨symbol, ⟨kind, symbol, rfl⟩, ?_, ?_⟩, by simp [name]⟩
    · rwa [name, singleton_prefix_iff (ofChar?_ascii single)]
    · -- two characters in front that spell a symbol would have been found
      rintro other ⟨kind', symbol', rfl⟩ starts
      obtain ⟨-, length⟩ | ⟨pair, -⟩ := symbol'.spelled front starts
      · simp [name, length]
      · cases no_pair.symm.trans pair

theorem longestSymbol?_none (front : front? bytes = some c)
    (none_found : TokenKind.longestSymbol? c (front? (bytes.drop (decode bytes).len)) = none)
    (symbol : IsSymbol kind) : ¬nameBytes kind <+: bytes := by
  intro starts
  unfold TokenKind.longestSymbol? at none_found
  split at none_found
  · cases none_found
  · rename_i no_pair
    obtain ⟨single, -⟩ | ⟨pair, -⟩ := symbol.spelled front starts
    · simp [single] at none_found
    · cases no_pair.symm.trans pair

/-- Where no other token starts stands the symbol that munches, or no symbol. -/
theorem scan_symbol_cases (front : front? bytes = some c) (dark : isWhitespace c = false)
    (no_word : isWordStart c = false) (no_digit : c.isDigit = false) (no_quote : c ≠ '"')
    (no_comment : ¬[0x2F, 0x2F] <+: bytes) :
    (∃ kind, Munches kind bytes ∧ scan bytes = ⟨.plain kind, (nameBytes kind).length⟩) ∨
    (∀ kind, IsSymbol kind → ¬nameBytes kind <+: bytes) ∧
      ∃ cause len, cause.kind = .badCodepoint ∧ scan bytes = ⟨.rejected cause, len⟩ := by
  cases bytes with
  | nil => cases front
  | cons lead rest =>
    have char : (decode (lead :: rest)).char = c := Option.some.inj front
    rw [scan_of_symbol front dark no_word no_digit no_quote no_comment]
    unfold scanSymbol
    dsimp only
    rw [char]
    split
    · rename_i kind len found
      obtain ⟨munches, length⟩ := longestSymbol?_munches front found
      rw [← length]
      exact Or.inl ⟨kind, munches, rfl⟩
    · rename_i none_found
      refine Or.inr ⟨fun kind => longestSymbol?_none front none_found, _, _, ?_, rfl⟩
      split <;> rfl

/-! ### Calls -/

/-- Every symbol starts with a character that starts nothing else. -/
theorem IsSymbol.symbolic (symbol : IsSymbol kind) (starts : nameBytes kind <+: bytes) :
    ∃ c, front? bytes = some c ∧ Symbolic c := by
  obtain ⟨c, single, name⟩ | ⟨c, d, pair, name⟩ := symbol.name_cases
  · have symbolic := ofChar?_symbolic single
    rw [name, singleton_prefix_iff symbolic.1] at starts
    exact ⟨c, starts, symbolic⟩
  · obtain ⟨symbolic, symbolic', -⟩ := ofPair?_symbolic pair
    rw [name, pair_prefix_iff symbolic.1 symbolic'.1] at starts
    exact ⟨c, starts.1, symbolic⟩

theorem Munches.scan (munches : Munches kind bytes) (no_comment : ¬[0x2F, 0x2F] <+: bytes) :
    Lexer.scan bytes = ⟨.plain kind, (nameBytes kind).length⟩ := by
  have starts := munches.longest.starts
  obtain ⟨c, front, -, dark, no_word, no_digit, no_quote⟩ := munches.symbol.symbolic starts
  obtain ⟨kind', munches', found⟩ | ⟨nameless, -⟩ :=
    scan_symbol_cases front dark no_word no_digit no_quote no_comment
  · rw [munches.unique munches', found]
  · exact absurd starts (nameless kind munches.symbol)

theorem Munches.nextToken (munches : Munches kind l.ahead)
    (no_comment : ¬[0x2F, 0x2F] <+: l.ahead) :
    Lexer.nextToken l =
        .ok (.ok { kind, offset := l.current, lexeme := nameBytes kind }) l.call.2 ∧
      l.call.2.current = l.current + (nameBytes kind).length := by
  have starts := munches.longest.starts
  obtain ⟨c, front, -⟩ := munches.symbol.symbolic starts
  have ran := nextToken_plain (inside_of_front front) (munches.scan no_comment)
  rwa [← List.prefix_iff_eq_take.mp starts] at ran

/-- Where no other token starts, a call takes the symbol with the longest name that stands there,
which is just one. Where no name stands, the character is refused. What follows a symbol has no say
in it, as long as it makes the name no longer and the symbol no comment. -/
theorem symbols_munch_most (l : Lexer) {c : Char} (front : front? l.ahead = some c)
    (dark : isWhitespace c = false) (no_word : isWordStart c = false) (no_digit : c.isDigit = false)
    (no_quote : c ≠ '"') (no_comment : ¬[0x2F, 0x2F] <+: l.ahead) :
    ((∃ kind, IsSymbol kind ∧ nameBytes kind <+: l.ahead) → ∃! kind, Munches kind l.ahead) ∧
    (∀ kind, Munches kind l.ahead →
      nextToken l = .ok (.ok { kind, offset := l.current, lexeme := nameBytes kind }) l.call.2 ∧
        l.call.2.current = l.current + (nameBytes kind).length ∧
        ∀ (m : Lexer) (rest : List UInt8), m.ahead = nameBytes kind ++ rest →
          (∀ other, IsSymbol other → nameBytes other <+: m.ahead →
            (nameBytes other).length ≤ (nameBytes kind).length) →
          ¬[0x2F, 0x2F] <+: m.ahead →
          nextToken m =
            .ok (.ok { kind, offset := m.current, lexeme := nameBytes kind }) m.call.2) ∧
    ((∀ kind, IsSymbol kind → ¬nameBytes kind <+: l.ahead) →
      ∃ cause, cause.kind = .badCodepoint ∧
        nextToken l = .ok (.error ⟨l.options.fileName, l.current, cause⟩) l.call.2) := by
  have cases_of_scan := scan_symbol_cases front dark no_word no_digit no_quote no_comment
  refine ⟨?_, ?_, ?_⟩
  · rintro ⟨kind, symbol, starts⟩
    obtain ⟨kind', munches, -⟩ | ⟨nameless, -⟩ := cases_of_scan
    · exact ⟨kind', munches, fun _ munches' => munches'.unique munches⟩
    · exact absurd starts (nameless kind symbol)
  · intro kind munches
    obtain ⟨ran, current⟩ := munches.nextToken no_comment
    refine ⟨ran, current, ?_⟩
    intro m rest follows most no_comment'
    have longest : Longest SymbolName (nameBytes kind) m.ahead := by
      refine ⟨munches.longest.holds, ⟨rest, follows.symm⟩, ?_⟩
      rintro other ⟨kind', symbol', rfl⟩ starts
      exact most kind' symbol' starts
    exact (Munches.nextToken ⟨munches.symbol, longest⟩ no_comment').1
  · intro nameless
    obtain ⟨kind, munches, -⟩ | ⟨-, cause, len, bad, found⟩ := cases_of_scan
    · exact absurd munches.longest.starts (nameless kind munches.symbol)
    · exact ⟨cause, bad, (nextToken_rejected (inside_of_front front) found).1⟩

/-- `->` after a name and in front of a byte that is cut off from its character, and in front of
`=`. -/
theorem symbols_munch_most_arrow :
    let scratch : Memory.Arena := { id := 1, address := 4096, data := [] }
    let l : Lexer := { source := [0x61, 0x2D, 0x3E, 0xC3], scratch, current := 1 }
    let m : Lexer := { source := [0x2D, 0x3E, 0x3D], scratch }
    nextToken l =
        .ok (.ok { kind := .operator .arrowRight, offset := 1, lexeme := [0x2D, 0x3E] }) l.call.2 ∧
      nextToken m =
        .ok (.ok { kind := .operator .arrowRight, offset := 0, lexeme := [0x2D, 0x3E] })
          m.call.2 := by
  intro scratch l m
  have name : nameBytes (.operator .arrowRight) = [0x2D, 0x3E] := by decide
  have front : front? l.ahead = some '-' := by decide
  have munches : Munches (.operator .arrowRight) l.ahead :=
    (longestSymbol?_munches front (by decide : _ = some (_, 2))).1
  have front' : front? m.ahead = some '-' := by decide
  have munches' : Munches (.operator .arrowRight) m.ahead :=
    (longestSymbol?_munches front' (by decide : _ = some (_, 2))).1
  obtain ⟨-, takes, -⟩ := symbols_munch_most l front (by decide) (by decide +kernel) (by decide)
    (by decide) (by decide)
  obtain ⟨ran, -, anywhere⟩ := takes _ munches
  have again := anywhere m [0x3D] (by decide)
    (fun other symbol => munches'.longest.most _ ⟨other, symbol, rfl⟩) (by decide)
  rw [name] at ran again
  exact ⟨ran, again⟩

end FrontEnd.Lexer
