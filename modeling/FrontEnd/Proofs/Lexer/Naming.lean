import FrontEnd.Lexer.Error
import FrontEnd.Proofs.Number.Value
import FrontEnd.Proofs.Utf8.Text

/-!
# Bytes and characters in messages

A message writes a byte as two digits and a character between quotes. Both can be read back: two
digits are those of one byte only (`namesByte_hexByte_iff`), and a quotation is that of one
character only (`namesChar_quote_iff`), for what stands between the quotes tells by its length how
it is meant.
-/

namespace FrontEnd.Lexer

open Number (natural? value worth)
open Unicode (escape quote)
open Utf8 (ofChars)

/-- Two upper-case hexadecimal digits that spell a byte. -/
structure NamesByte (text : String) (b : UInt8) : Prop where
  two : text.toList.length = 2
  digits : ∀ c ∈ text.toList, c ∈ "0123456789ABCDEF".toList
  spells : natural? 16 (ofChars text.toList) = some b.toNat

/-- The letters that may follow a backslash, and what they stand for. -/
def shortEscapes : List (Char × Char) :=
  [('0', '\x00'), ('t', '\t'), ('r', '\r'), ('n', '\n'), ('\'', '\''), ('\\', '\\')]

/-- What stands for a character between quotes. -/
inductive StandsFor (c : Char) : List Char → Prop where
  | itself (plain : ∀ letter, (letter, c) ∉ shortEscapes) : StandsFor c [c]
  | letter {letter : Char} (known : (letter, c) ∈ shortEscapes) : StandsFor c ['\\', letter]
  /-- The number of the character in hexadecimal. -/
  | number {digits : List Char} (spells : natural? 16 (ofChars digits) = some c.toNat) :
      StandsFor c ('\\' :: 'u' :: '\x7b' :: (digits ++ ['\x7d']))

/-- A character, or an escape for it, between single quotes. -/
def NamesChar (text : String) (c : Char) : Prop :=
  ∃ shown, StandsFor c shown ∧ text.toList = '\'' :: (shown ++ ['\''])

variable {b b' : UInt8} {c d : Char} {text : String} {shown : List Char}

/-! ### Digits -/

theorem digitChar_sixteen :
    ∀ v < 16, (Nat.digitChar v).toNat < 0x80 ∧ worth (Nat.digitChar v).toUInt8 = v := by
  decide +kernel

/-- The hexadecimal digits of a number are ASCII, and they are worth the number. -/
theorem toDigits_sixteen (n : Nat) :
    (∀ c ∈ Nat.toDigits 16 n, c.toNat < 0x80 ∧ worth c.toUInt8 < 16) ∧
      value 16 ((Nat.toDigits 16 n).map Char.toUInt8) = n := by
  induction n using Nat.strongRecOn with
  | ind n ih =>
    rcases Nat.lt_or_ge n 16 with digit | more
    · obtain ⟨ascii, same⟩ := digitChar_sixteen n digit
      rw [Nat.toDigits_of_lt_base digit]
      constructor
      · simpa [same] using ⟨ascii, digit⟩
      · simp [Number.value_cons, same]
    · obtain ⟨each, whole⟩ := ih (n / 16) (by omega)
      obtain ⟨ascii, same⟩ := digitChar_sixteen (n % 16) (by omega)
      rw [Nat.toDigits_of_base_le (by decide) more]
      constructor
      · intro c member
        rcases List.mem_append.mp member with earlier | last
        · exact each c earlier
        · obtain rfl := List.mem_singleton.mp last
          exact ⟨ascii, by omega⟩
      · rw [List.map_append, Number.value_append, whole]
        simp [Number.value_cons, same]
        omega

theorem natural?_toDigits (n : Nat) : natural? 16 (ofChars (Nat.toDigits 16 n)) = some n := by
  obtain ⟨each, whole⟩ := toDigits_sixteen n
  have digits : ∀ b ∈ (Nat.toDigits 16 n).map Char.toUInt8, worth b < 16 := by
    intro b member
    obtain ⟨c, shown, rfl⟩ := List.mem_map.mp member
    exact (each c shown).2
  have more : (Nat.toDigits 16 n).map Char.toUInt8 ≠ [] := by
    simp [Nat.toDigits_ne_nil]
  rw [Utf8.ofChars_ascii fun c shown => (each c shown).1, Number.natural?_value (by decide) digits
    more, whole]

/-! ### Bytes -/

theorem namesByte_hexByte (b : UInt8) : NamesByte (Cause.hexByte b) b := by
  have text : (Cause.hexByte b).toList =
      [(Nat.digitChar (b.toNat / 16)).toUpper, (Nat.digitChar (b.toNat % 16)).toUpper] :=
    String.toList_ofList
  have digit : ∀ v < 16, (Nat.digitChar v).toUpper ∈ "0123456789ABCDEF".toList := by
    decide +kernel
  constructor
  · rw [text]
    rfl
  · rw [text]
    intro c member
    simp only [List.mem_cons, List.not_mem_nil, or_false] at member
    rcases member with rfl | rfl
    · exact digit _ (Nat.div_lt_of_lt_mul b.toNat_lt)
    · exact digit _ (Nat.mod_lt _ (by decide))
  · rw [text]
    exact @forall_byte (fun b => natural? 16 (ofChars
      [(Nat.digitChar (b.toNat / 16)).toUpper, (Nat.digitChar (b.toNat % 16)).toUpper]) =
        some b.toNat) (by decide +kernel) b

theorem NamesByte.inj (names : NamesByte text b) (names' : NamesByte text b') : b = b' := by
  have same := names.spells.symm.trans names'.spells
  exact UInt8.toNat_inj.mp (Option.some.inj same)

/-- The digits of a byte are those of no other byte. -/
theorem namesByte_hexByte_iff : NamesByte (Cause.hexByte b) b' ↔ b' = b := by
  constructor
  · intro names
    exact names.inj (namesByte_hexByte b)
  · rintro rfl
    exact namesByte_hexByte b'

/-! ### Characters -/

theorem shortEscapes_letter :
    ∀ p ∈ shortEscapes, ∀ q ∈ shortEscapes, p.1 = q.1 → p.2 = q.2 := by
  decide

theorem StandsFor.inj (stands : StandsFor c shown) (stands' : StandsFor d shown) : c = d := by
  cases stands with
  | itself =>
    generalize same : [c] = text at stands'
    cases stands' with
    | itself => exact (List.cons.inj same).1
    | letter => cases same
    | number => cases same
  | @letter letter known =>
    generalize same : ['\\', letter] = text at stands'
    cases stands' with
    | itself => cases same
    | letter known' =>
      cases same
      exact shortEscapes_letter _ known _ known' rfl
    | number => simp at same
  | @number digits spells =>
    generalize same : '\\' :: 'u' :: '\x7b' :: (digits ++ ['\x7d']) = text at stands'
    cases stands' with
    | itself => cases same
    | letter => simp at same
    | @number digits' spells' =>
      obtain rfl : digits = digits' := by simpa using same
      exact Char.toNat_inj.mp (Option.some.inj (spells.symm.trans spells'))

theorem standsFor_letter {letter : Char} (known : (letter, c) ∈ shortEscapes) :
    StandsFor c (String.ofList ['\\', letter]).toList := by
  rw [String.toList_ofList]
  exact .letter known

theorem escape_standsFor (c : Char) : StandsFor c (escape c).toList := by
  unfold escape
  split_ifs with zero tab returns feed tick slash escaped
  · exact standsFor_letter (by simp [shortEscapes, zero])
  · exact standsFor_letter (by simp [shortEscapes, tab])
  · exact standsFor_letter (by simp [shortEscapes, returns])
  · exact standsFor_letter (by simp [shortEscapes, feed])
  · exact standsFor_letter (by simp [shortEscapes, tick])
  · exact standsFor_letter (by simp [shortEscapes, slash])
  · simpa using StandsFor.number (natural?_toDigits c.toNat)
  · rw [Char.toString_eq_singleton, String.toList_singleton]
    refine .itself fun letter known => ?_
    simp [shortEscapes, zero, tab, returns, feed, tick, slash] at known

theorem namesChar_quote (c : Char) : NamesChar (quote c) c := by
  refine ⟨_, escape_standsFor c, ?_⟩
  unfold quote
  rw [String.toList_append, String.toList_append]
  rfl

theorem NamesChar.inj (names : NamesChar text c) (names' : NamesChar text d) : c = d := by
  obtain ⟨shown, stands, between⟩ := names
  obtain ⟨shown', stands', between'⟩ := names'
  have same := (List.cons.inj (between.symm.trans between')).2
  obtain rfl := List.append_cancel_right same
  exact stands.inj stands'

/-- The quotation of a character is that of no other character. -/
theorem namesChar_quote_iff : NamesChar (quote c) d ↔ d = c := by
  constructor
  · intro names
    exact names.inj (namesChar_quote c)
  · rintro rfl
    exact namesChar_quote d

end FrontEnd.Lexer
