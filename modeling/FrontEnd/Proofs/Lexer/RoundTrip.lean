import FrontEnd.Proofs.Lexer.Iterator
import FrontEnd.Proofs.Lexer.Printing

/-!
# Printed tokens are read back

Tokens that are printed with white space between them come back from the lexer in order, each with
its kind and value, and nothing else does (`lexing_undoes_printing`).
-/

namespace FrontEnd.Lexer

open Memory (Arena)
open Unicode (isWhitespace)
open Utf8 (front?)

/-- The text of pieces, one after the other. -/
def printed (pieces : List Piece) : List UInt8 := pieces.flatMap Piece.text

/-- The tokens of pieces that follow one another from an offset on, and the end of the file. -/
def place (start : Nat) : List Piece → List Token
  | [] => [{ kind := .endOfFile, offset := start, lexeme := [] }]
  | piece :: later =>
    { kind := piece.kind, offset := start, lexeme := piece.text, value := piece.value } ::
      place (start + piece.text.length) later

/-- An item, and items with gaps before them. -/
def pieces (first : Item) (later : List (Gap × Item)) : List Piece :=
  first.piece :: later.flatMap fun (gap, item) => [gap.piece, item.piece]

/-- Each of the pieces is found in front of those after it. -/
inductive Legible : List Piece → Prop where
  | nil : Legible []
  | cons {piece : Piece} {later : List Piece} (some_text : piece.text ≠ [])
      (reads : piece.Reads (printed later)) (legible : Legible later) : Legible (piece :: later)

variable {l : Lexer} {piece : Piece} {later : List Piece} {rest : List UInt8}

theorem printed_cons (piece : Piece) (later : List Piece) :
    printed (piece :: later) = piece.text ++ printed later :=
  List.flatMap_cons

/-! ### Items and gaps are legible -/

theorem Item.text_ne_nil (item : Item) : item.piece.text ≠ [] := by
  obtain ⟨c, front, -⟩ := item.front []
  intro empty
  rw [empty] at front
  cases front

theorem Gap.text_ne_nil (gap : Gap) : gap.piece.text ≠ [] := by
  have front := Utf8.front?_ofChars_cons gap.first gap.later []
  intro empty
  have empty : Utf8.ofChars (gap.first :: gap.later) = [] := empty
  rw [empty] at front
  cases front

theorem legible_pieces (first : Item) (later : List (Gap × Item)) :
    Legible (pieces first later) := by
  induction later generalizing first with
  | nil =>
    have apart : Apart (printed []) := nofun
    exact .cons first.text_ne_nil (first.reads apart) .nil
  | cons next later ih =>
    obtain ⟨gap, item⟩ := next
    have stops : ∀ c, front? (printed (pieces item later)) = some c → isWhitespace c = false := by
      intro c front
      unfold pieces at front
      rw [printed_cons] at front
      obtain ⟨c', front', dark⟩ := item.front (printed (later.flatMap fun (gap, item) =>
        [gap.piece, item.piece]))
      cases front'.symm.trans front
      exact dark
    have gap_legible : Legible (gap.piece :: pieces item later) :=
      .cons gap.text_ne_nil (gap.reads stops) (ih item)
    have apart : Apart (printed (gap.piece :: pieces item later)) := by
      rw [printed_cons]
      exact gap.apart _
    exact .cons first.text_ne_nil (first.reads apart) gap_legible

theorem Legible.length_le {ps : List Piece} (legible : Legible ps) :
    ps.length ≤ (printed ps).length := by
  induction legible with
  | nil => exact Nat.le_refl 0
  | cons some_text _ _ ih =>
    have pos := List.length_pos_iff.mpr some_text
    rw [printed_cons, List.length_append, List.length_cons]
    omega

/-! ### Legible pieces are read -/

/-- A call over a legible piece takes just that piece, and leaves the arena as it is. -/
theorem call_reads (inside : l.current ≤ l.source.length) (ahead : l.ahead = piece.text ++ rest)
    (reads : piece.Reads rest) :
    ∃ previous, l.call =
      (.ok (.ok
        { kind := piece.kind, offset := l.current, lexeme := piece.text, value := piece.value }),
        { l with previous, current := l.current + piece.text.length }) := by
  obtain ⟨previous, passes⟩ := call_passes inside
  rw [ahead, reads.length, reads.read] at passes
  refine ⟨previous, Prod.ext ?_ passes⟩
  rw [call_eq inside]
  unfold answer
  rw [ahead, reads.length, reads.read, List.take_left]
  rfl

theorem collect_printed {ps : List Piece} {count : Nat} (legible : Legible ps)
    (inside : l.current ≤ l.source.length) (ahead : l.ahead = printed ps)
    (unlimited : l.options.tokenLimit? = none) (going : l.finished = false)
    (enough : ps.length < count) :
    ∃ l', collect count l = .ok ((place l.current ps).map Except.ok) l' ∧
      l'.current = l.source.length ∧ l'.scratch = l.scratch := by
  have length : l.ahead.length = l.source.length - l.current := List.length_drop
  induction legible generalizing l count with
  | nil =>
    obtain ⟨count, rfl⟩ := Nat.exists_eq_succ_of_ne_zero (Nat.ne_of_gt enough)
    have done : l.current = l.source.length := by
      rw [ahead, printed, List.flatMap_nil, List.length_nil] at length
      omega
    have ended : l.counted.call = (endOfFile l.source, l.counted) := call_at_end done
    have drawn := next?_unlimited unlimited going (nextToken_eq_ok_iff.mpr ended)
    refine ⟨{ l.counted with finished := true }, ?_, done, rfl⟩
    rw [collect_cons drawn (collect_finished rfl count), place, done]
    rfl
  | @cons piece later some_text reads legible ih =>
    obtain ⟨count, rfl⟩ := Nat.exists_eq_succ_of_ne_zero (Nat.ne_of_gt (Nat.zero_lt_of_lt enough))
    rw [printed_cons] at ahead
    obtain ⟨previous, called⟩ := call_reads (l := l.counted) inside ahead reads
    have pos := List.length_pos_iff.mpr some_text
    rw [ahead, List.length_append] at length
    have before : Result.isEndOfFile _ = false :=
      (isEndOfFile_of_call (l := l.counted) inside called).trans
        (decide_eq_false (show l.current ≠ l.source.length by omega))
    have drawn := next?_unlimited unlimited going (nextToken_eq_ok_iff.mpr called)
    rw [before, if_neg Bool.false_ne_true] at drawn
    have ahead' : Lexer.ahead
        { l.counted with previous, current := l.current + piece.text.length } = printed later := by
      have dropped := congrArg (List.drop piece.text.length) ahead
      rwa [List.drop_left, Lexer.ahead, List.drop_drop] at dropped
    obtain ⟨l', collected, current, scratch⟩ := ih
      (l := { l.counted with previous, current := l.current + piece.text.length })
      (show l.current + piece.text.length ≤ l.source.length by omega) ahead' unlimited going
      (Nat.lt_of_succ_lt_succ enough) List.length_drop
    exact ⟨l', collect_cons drawn collected, current, scratch⟩

/-- Items that are printed with gaps between them are read back as they were printed: each item and
each gap is one token, with its kind and value, and the end of the file comes after them. No arena
has to do with it. -/
theorem lexing_undoes_printing (first : Item) (later : List (Gap × Item)) (fileName : String)
    (scratch : Arena) :
    lexIn (printed (pieces first later)) (.forFile fileName) scratch =
      .ok ((place 0 (pieces first later)).map Except.ok, (printed (pieces first later)).length)
        scratch := by
  have legible := legible_pieces first later
  have enough : (pieces first later).length < (printed (pieces first later)).length + 2 :=
    Nat.lt_add_right 1 (Nat.lt_succ_of_le legible.length_le)
  obtain ⟨l', collected, current, same⟩ := collect_printed
    (l := { source := printed (pieces first later), scratch, options := .forFile fileName })
    legible (Nat.zero_le _) rfl rfl rfl enough
  have drained : drain { source := printed (pieces first later), scratch
                         options := .forFile fileName } = _ := collected
  unfold lexIn
  rw [drained]
  dsimp only
  rw [current, same]

/-- `let x = "a";` with a line break, and with blanks of two and of three bytes. -/
example :
    printed (pieces (.fixed (.keyword .letWord) rfl)
      [(⟨'\n', [], List.all_eq_true.mp rfl⟩,
          .identifier 'x' [] (by decide) nofun fun word => by cases word <;> decide),
       (⟨'\u00A0', [], List.all_eq_true.mp rfl⟩, .fixed (.operator .assign) rfl),
       (⟨'\u2003', [' '], List.all_eq_true.mp rfl⟩, .quoted [0x61] (by simp)),
       (⟨' ', [], List.all_eq_true.mp rfl⟩, .fixed (.operator .semicolon) rfl)]) =
      [0x6C, 0x65, 0x74, 0x0A, 0x78, 0xC2, 0xA0, 0x3D, 0xE2, 0x80, 0x83, 0x20, 0x22, 0x61, 0x22, 0x20,
       0x3B] := by decide

end FrontEnd.Lexer
