import FrontEnd.Proofs.Lexer.Extent
import FrontEnd.Proofs.Lexer.Staging

/-!
# What is read of a shape

`readShape_settles`: a shape that fits its place in a source is read without touching the lexer, and
an error lies in the shape.
-/

namespace FrontEnd.Lexer

/-- A kind that is not the end of the file, or an error in a range. -/
def Located (start stop : Nat) : Reading → Prop
  | .ok (kind, _) => kind ≠ .endOfFile
  | .error (offset, _) => start ≤ offset ∧ offset < stop

variable {l : Lexer} {start stop first last : Nat}

theorem readNumber_settles {kind : Literal} {read? : List UInt8 → Option TokenValue}
    {failure : Cause} (shape : start < stop) (ordered : first ≤ last)
    (inside : last ≤ l.source.length) :
    l.Settles (Located start stop) (readNumber kind read? failure start first last l) := by
  have at_start (cause : Cause) : Located start stop (.error (start, cause)) :=
    ⟨Nat.le_refl start, shape⟩
  unfold readNumber
  rw [run_get_bind, run_orFault_ok (Buffer.slice_eq_window ordered inside)]
  refine (stage_settles _).bind fun staged scratch _ => ?_
  cases staged with
  | error refusal => exact settles_ok (at_start _)
  | ok text =>
    dsimp only
    cases read? text with
    | none => exact settles_ok (at_start failure)
    | some value => exact settles_ok nofun

/-- What there is to read of a shape lies inside it. -/
theorem readShape_settles {found : Scanned} (pos : 0 < found.len)
    (inside : start + found.len ≤ l.source.length) (within : found.shape.Within found.len) :
    l.Settles (Located start (start + found.len))
      (readShape start (start + found.len) found.shape l) := by
  obtain ⟨shape, len⟩ := found
  dsimp only at pos inside within ⊢
  have some_room : start < start + len := Nat.lt_add_of_pos_right pos
  unfold readShape
  cases shape with
  | plain kind => exact settles_ok within
  | quoted =>
    have quotes : 2 ≤ len := within
    have between := @Buffer.slice_eq_window l.source (start + 1) (start + len - 1) (by omega)
      (by omega)
    dsimp only
    rw [run_get_bind, run_orFault_ok between]
    exact settles_ok nofun
  | based base =>
    have prefixed : 2 ≤ len := within
    exact readNumber_settles some_room (by omega) inside
  | decimal => exact readNumber_settles some_room (Nat.le_add_right _ _) inside
  | fraction => exact readNumber_settles some_room (Nat.le_add_right _ _) inside
  | badDigit index base =>
    have low : index < len := within
    have rest : Buffer.sliceFrom l.source (start + index) = .ok (l.source.drop (start + index)) :=
      if_pos (by omega)
    dsimp only
    rw [run_get_bind, run_orFault_ok rest]
    exact settles_ok ⟨Nat.le_add_right _ _, Nat.add_lt_add_left low start⟩
  | rejected cause => exact settles_ok ⟨Nat.le_refl _, some_room⟩

end FrontEnd.Lexer
