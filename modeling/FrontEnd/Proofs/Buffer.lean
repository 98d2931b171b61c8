import FrontEnd.Buffer

/-!
# Windows of a buffer

A window is a range of a buffer that is not checked. `getElem?_splice` and `getElem?_window` say
byte by byte what a splice changes and what a window shows; from them follow what a window shows
after a splice beside it, inside it and over all of it.
-/

namespace FrontEnd.Buffer

/-- The `len` bytes from `start` on, as far as there are any. -/
def window (bytes : List UInt8) (start len : Nat) : List UInt8 := (bytes.drop start).take len

theorem slice_eq_window {bytes : List UInt8} {start stop : Nat} (ordered : start ≤ stop)
    (inside : stop ≤ bytes.length) :
    slice bytes start stop = .ok (window bytes start (stop - start)) := by
  simp only [slice, window, ordered, inside, and_self, if_true]

theorem slice_fits {bytes shown : List UInt8} {start stop : Nat}
    (read : slice bytes start stop = .ok shown) : start + shown.length ≤ bytes.length := by
  unfold slice at read
  split at read <;> cases read
  rw [List.length_take, List.length_drop]
  omega

theorem length_overwrite {bytes new changed : List UInt8} {start : Nat}
    (put : overwrite bytes start new = .ok changed) : changed.length = bytes.length := by
  unfold overwrite at put
  split at put <;> cases put
  exact length_splice ‹_›

theorem getElem?_window (bytes : List UInt8) (start len i : Nat) :
    (window bytes start len)[i]? = if i < len then bytes[start + i]? else none := by
  simp only [window, List.getElem?_take, List.getElem?_drop]

theorem length_window {bytes : List UInt8} {start len : Nat} (inside : start + len ≤ bytes.length) :
    (window bytes start len).length = len := by
  simp only [window, List.length_take, List.length_drop]
  omega

theorem take_window (bytes : List UInt8) (start len n : Nat) :
    (window bytes start len).take n = window bytes start (min n len) := by
  simp only [window, List.take_take]

theorem window_take {bytes : List UInt8} {start len n : Nat} (inside : start + len ≤ n) :
    window (bytes.take n) start len = window bytes start len := by
  rw [window, window, List.drop_take, List.take_take]
  congr 1
  omega

theorem window_window {bytes : List UInt8} {start first len n : Nat} (fits : start + n ≤ len) :
    window (window bytes first len) start n = window bytes (first + start) n := by
  rw [window, window, window, List.drop_take, List.take_take, List.drop_drop]
  congr 1
  omega

theorem take_append_window (bytes : List UInt8) (start len : Nat) :
    bytes.take start ++ window bytes start len = bytes.take (start + len) :=
  List.take_add.symm

theorem getElem?_splice {bytes new : List UInt8} {start : Nat}
    (fits : start + new.length ≤ bytes.length) (i : Nat) :
    (splice bytes start new)[i]? =
      if start ≤ i ∧ i < start + new.length then new[i - start]? else bytes[i]? := by
  have before : (bytes.take start).length = start := by
    rw [List.length_take]
    omega
  unfold splice
  by_cases low : i < start
  · rw [List.append_assoc, List.getElem?_append_left (by omega), List.getElem?_take_of_lt low,
      if_neg (by omega)]
  by_cases mid : i < start + new.length
  · rw [List.getElem?_append_left (by rw [List.length_append]; omega),
      List.getElem?_append_right (by omega), before, if_pos ⟨by omega, mid⟩]
  · rw [List.getElem?_append_right (by rw [List.length_append]; omega), List.length_append, before,
      List.getElem?_drop, if_neg (by omega)]
    congr 1
    omega

/-- Two buffers of one size differ after a splice at most where they did before and it does not
reach. -/
theorem getElem?_splice_congr {bytes bytes' new : List UInt8} {start i : Nat}
    (length : bytes'.length = bytes.length)
    (same : (start ≤ i ∧ i < start + new.length) ∨ bytes'[i]? = bytes[i]?) :
    (splice bytes' start new)[i]? = (splice bytes start new)[i]? := by
  by_cases fits : start + new.length ≤ bytes.length
  · rw [getElem?_splice fits, getElem?_splice (by rw [length]; exact fits)]
    split
    · rfl
    · rename_i outside
      exact same.resolve_left outside
  · have past : bytes.drop (start + new.length) = [] := List.drop_eq_nil_iff.mpr (by omega)
    have past' : bytes'.drop (start + new.length) = [] := List.drop_eq_nil_iff.mpr (by omega)
    have before : (bytes'.take start).length = (bytes.take start).length := by
      rw [List.length_take, List.length_take, length]
    unfold splice
    rw [past, past', List.append_nil, List.append_nil, List.getElem?_append, List.getElem?_append,
      before]
    by_cases low : i < (bytes.take start).length
    · rw [List.length_take] at low
      rw [if_pos (by rw [List.length_take]; exact low), if_pos (by rw [List.length_take]; exact low),
        List.getElem?_take_of_lt (by omega), List.getElem?_take_of_lt (by omega)]
      exact same.resolve_left (by omega)
    · rw [if_neg low, if_neg low]

theorem splice_nil (bytes : List UInt8) (start : Nat) : splice bytes start [] = bytes := by
  simp only [splice, List.append_nil, List.length_nil, Nat.add_zero, List.take_append_drop]

theorem splice_of_window {bytes new : List UInt8} {start : Nat}
    (shown : window bytes start new.length = new) : splice bytes start new = bytes := by
  have front : bytes.take start ++ new = bytes.take (start + new.length) := by
    rw [← take_append_window, shown]
  rw [splice, front, List.take_append_drop]

/-- A splice does not show in a window beside it. -/
theorem window_splice_apart {bytes new : List UInt8} {start first len : Nat}
    (fits : start + new.length ≤ bytes.length)
    (apart : first + len ≤ start ∨ start + new.length ≤ first) :
    window (splice bytes start new) first len = window bytes first len := by
  apply List.ext_getElem?
  intro i
  rw [getElem?_window, getElem?_window]
  by_cases inside : i < len
  · rw [if_pos inside, if_pos inside, getElem?_splice fits, if_neg (by omega)]
  · rw [if_neg inside, if_neg inside]

theorem window_splice_inside {bytes new : List UInt8} {start first len : Nat}
    (inside : first + len ≤ bytes.length) (fits : start + new.length ≤ len) :
    window (splice bytes (first + start) new) first len =
      splice (window bytes first len) start new := by
  have shown := length_window inside
  apply List.ext_getElem?
  intro i
  rw [getElem?_window, getElem?_splice (by omega), getElem?_splice (by omega), getElem?_window]
  by_cases mid : start ≤ i ∧ i < start + new.length
  · rw [if_pos mid, if_pos (by omega), if_pos (by omega)]
    congr 1
    omega
  · have outside : ¬(first + start ≤ first + i ∧ first + i < first + start + new.length) := by omega
    rw [if_neg mid, if_neg outside]

/-- A window put back after a splice of what it shows. -/
theorem splice_window {bytes new : List UInt8} {start first len : Nat}
    (inside : first + len ≤ bytes.length) (fits : start + new.length ≤ len) :
    splice bytes first (splice (window bytes first len) start new) =
      splice bytes (first + start) new := by
  have shown := length_window inside
  have same : (splice (window bytes first len) start new).length = len :=
    (length_splice (by omega)).trans shown
  have fits' : first + start + new.length ≤ bytes.length := by omega
  apply List.ext_getElem?
  intro i
  rw [getElem?_splice fits', getElem?_splice (by omega), same]
  by_cases mid : first ≤ i ∧ i < first + len
  · have kept : (window bytes first len)[i - first]? = bytes[i]? := by
      rw [getElem?_window, if_pos (by omega), show first + (i - first) = i by omega]
    rw [if_pos mid, getElem?_splice (by omega), kept]
    by_cases new_byte : first + start ≤ i ∧ i < first + start + new.length
    · rw [if_pos new_byte, if_pos (by omega)]
      congr 1
      omega
    · rw [if_neg new_byte, if_neg (by omega)]
  · rw [if_neg mid, if_neg (by omega)]

theorem window_splice_self {bytes new : List UInt8} {start : Nat}
    (fits : start + new.length ≤ bytes.length) :
    window (splice bytes start new) start new.length = new := by
  apply List.ext_getElem?
  intro i
  rw [getElem?_window, getElem?_splice fits]
  by_cases inside : i < new.length
  · rw [if_pos inside, if_pos (by omega), Nat.add_sub_cancel_left]
  · rw [if_neg inside, List.getElem?_eq_none (by omega)]

theorem splice_splice {bytes old new : List UInt8} {start : Nat}
    (fits : start + old.length ≤ bytes.length) (shorter : new.length ≤ old.length) :
    splice (splice bytes start old) start new =
      splice bytes start (new ++ old.drop new.length) := by
  have same : (new ++ old.drop new.length).length = old.length := by
    rw [List.length_append, List.length_drop]
    omega
  have kept := length_splice fits
  apply List.ext_getElem?
  intro i
  rw [getElem?_splice (by omega), getElem?_splice fits, getElem?_splice (by omega), same]
  by_cases mid : start ≤ i ∧ i < start + old.length
  · rw [if_pos mid, if_pos mid]
    by_cases low : i < start + new.length
    · rw [if_pos ⟨mid.1, low⟩, List.getElem?_append_left (by omega)]
    · rw [if_neg (by omega), List.getElem?_append_right (by omega), List.getElem?_drop]
      congr 1
      omega
  · rw [if_neg mid, if_neg (by omega), if_neg mid]

end FrontEnd.Buffer
