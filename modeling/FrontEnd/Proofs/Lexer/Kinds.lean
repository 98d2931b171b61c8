import FrontEnd.Proofs.Lexer.Lexemes

/-!
# Kinds and their names

Symbols and keywords are written as their names. A symbol has a name of one character or of two
(`IsSymbol.name_cases`), and no other symbol has it (`nameBytes_inj`). What a token without a value
starts with, and how far it goes, can be told from its kind (`plain_cases`).
-/

namespace FrontEnd.Lexer

open Unicode (isWhitespace)
open Utf8 (decode front? ofChars span)

/-- The bytes that a kind is shown as. -/
def nameBytes (kind : TokenKind) : List UInt8 := ofChars kind.name.toList

/-- Identifiers and keywords. -/
def IsWord (kind : TokenKind) : Prop := kind = .literal .identifier ∨ kind.isKeyword = true

/-- Integers and reals. -/
def IsNumber (kind : TokenKind) : Prop := kind = .literal .integer ∨ kind = .literal .real

variable {c d : Char} {kind kind' : TokenKind} {spelling : List Char} {bytes : List UInt8}
  {len : Nat}

/-! ### Names -/

theorem nameBytes_of_spelling (spelled : kind.spelling? = some spelling) :
    nameBytes kind = ofChars spelling := by
  rw [nameBytes, toList_name spelled]

theorem spelling?_ofChar? (single : TokenKind.ofChar? c = some kind) : kind.spelling? = some [c] := by
  unfold TokenKind.ofChar? at single
  split at single <;> cases single <;> rfl

theorem spelling?_ofPair? (pair : TokenKind.ofPair? c d = some kind) :
    kind.spelling? = some [c, d] := by
  unfold TokenKind.ofPair? at pair
  split at pair <;> cases pair <;> rfl

theorem nameBytes_ofChar? (single : TokenKind.ofChar? c = some kind) :
    nameBytes kind = [c.toUInt8] := by
  have ascii := ofChar?_ascii single
  rw [nameBytes_of_spelling (spelling?_ofChar? single), Utf8.ofChars_ascii (by simpa using ascii)]
  rfl

theorem nameBytes_ofPair? (pair : TokenKind.ofPair? c d = some kind) :
    nameBytes kind = [c.toUInt8, d.toUInt8] := by
  have ascii := ofPair?_ascii pair
  rw [nameBytes_of_spelling (spelling?_ofPair? pair), Utf8.ofChars_ascii (by simpa using ascii)]
  rfl

/-- The name of a symbol is a character that spells it, or two. -/
theorem IsSymbol.name_cases (symbol : IsSymbol kind) :
    (∃ c, TokenKind.ofChar? c = some kind ∧ nameBytes kind = [c.toUInt8]) ∨
    ∃ c d, TokenKind.ofPair? c d = some kind ∧ nameBytes kind = [c.toUInt8, d.toUInt8] := by
  obtain ⟨spelling, spelled⟩ : ∃ spelling, kind.spelling? = some spelling := by
    obtain ⟨bracket, rfl⟩ | ⟨operator, rfl⟩ := symbol <;> exact ⟨_, rfl⟩
  obtain ⟨word, rfl, -⟩ | ⟨c, -, -, single⟩ | ⟨c, d, -, -, -, -, pair⟩ := spelling?_cases spelled
  · obtain ⟨bracket, same⟩ | ⟨operator, same⟩ := symbol <;> cases same
  · exact Or.inl ⟨c, single, nameBytes_ofChar? single⟩
  · exact Or.inr ⟨c, d, pair, nameBytes_ofPair? pair⟩

/-- Symbols are told apart by their names. -/
theorem nameBytes_inj (symbol : IsSymbol kind) (symbol' : IsSymbol kind')
    (same : nameBytes kind = nameBytes kind') : kind = kind' := by
  obtain ⟨c, single, name⟩ | ⟨c, d, pair, name⟩ := symbol.name_cases <;>
    obtain ⟨c', single', name'⟩ | ⟨c', d', pair', name'⟩ := symbol'.name_cases <;>
    simp only [name, name', List.cons.injEq, reduceCtorEq, and_true, and_false] at same
  · obtain rfl := Utf8.toUInt8_inj (ofChar?_ascii single) (ofChar?_ascii single') same
    exact Option.some.inj (single.symm.trans single')
  · obtain rfl := Utf8.toUInt8_inj (ofPair?_ascii pair).1 (ofPair?_ascii pair').1 same.1
    obtain rfl := Utf8.toUInt8_inj (ofPair?_ascii pair).2 (ofPair?_ascii pair').2 same.2
    exact Option.some.inj (pair.symm.trans pair')

/-- A keyword is looked up by its name, and nothing else is. -/
theorem keyword?_eq_some_iff {text : List UInt8} :
    (Keyword.ofBytes? text).map TokenKind.keyword = some kind ↔
      kind.isKeyword = true ∧ text = nameBytes kind := by
  have name (word : Keyword) : nameBytes (.keyword word) = ofChars word.spelling :=
    nameBytes_of_spelling rfl
  rw [Option.map_eq_some_iff]
  constructor
  · rintro ⟨word, found, rfl⟩
    rw [name]
    exact ⟨rfl, ofBytes?_eq_some_iff.mp found⟩
  · rintro ⟨keyword, rfl⟩
    cases kind with
    | keyword word => exact ⟨word, ofBytes?_eq_some_iff.mpr (name word), rfl⟩
    | _ => cases keyword

/-! ### Tokens without a value -/

/-- The tokens without a value that stand in front of bytes, with what they start with and how far
they go. -/
inductive Plain (bytes : List UInt8) : TokenKind → Nat → Prop where
  | fileEnd : Plain bytes .endOfFile 0
  | blank {c : Char} (front : front? bytes = some c) (blank : isWhitespace c = true) :
      Plain bytes (.trivia .whitespace) (span isWhitespace bytes)
  | comment : Plain bytes (.trivia .lineComment) (span (· != '\n') bytes)
  | word {c : Char} {kind : TokenKind} (front : front? bytes = some c)
      (starts : isWordStart c = true) (word : IsWord kind) :
      Plain bytes kind (span isWordPart bytes)
  | symbol {kind : TokenKind} {len : Nat} (symbol : IsSymbol kind) : Plain bytes kind len

theorem scanWord_cases (bytes : List UInt8) :
    ∃ kind, IsWord kind ∧ scanWord bytes = ⟨.plain kind, span isWordPart bytes⟩ := by
  unfold scanWord
  dsimp only
  split
  · exact ⟨_, Or.inr rfl, rfl⟩
  · exact ⟨_, Or.inl rfl, rfl⟩

theorem scanNumber_ne_plain (found : scanNumber bytes = ⟨.plain kind, len⟩) : False := by
  unfold scanNumber scanBased scanDecimal at found
  dsimp only at found
  repeat' split at found
  all_goals cases found

theorem plain_cases (found : scan bytes = ⟨.plain kind, len⟩) : Plain bytes kind len := by
  cases bytes with
  | nil =>
    cases found
    exact .fileEnd
  | cons lead rest =>
    unfold scan at found
    dsimp only at found
    split at found
    · rename_i blank
      cases found
      exact .blank rfl blank
    split at found
    · cases found
      exact .comment
    split at found
    · rename_i starts
      obtain ⟨kind', word, whole⟩ := scanWord_cases (lead :: rest)
      cases whole.symm.trans found
      exact .word rfl starts word
    split at found
    · exact (scanNumber_ne_plain found).elim
    split at found
    · unfold scanString at found
      split at found <;> cases found
    · unfold scanSymbol at found
      dsimp only at found
      split at found
      · rename_i longest
        cases found
        exact .symbol (longestSymbol?_bounds longest).1
      · cases found

end FrontEnd.Lexer
