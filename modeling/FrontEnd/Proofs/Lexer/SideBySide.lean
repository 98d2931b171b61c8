import FrontEnd.Proofs.Lexer.Scratch

/-!
# Lexers side by side

What the calls before a call came to leaves no mark on its answer but the offset. Two lexers with
the same bytes ahead, over arenas that are alike, answer alike and stay so: `Follows` holds between
them from call to call.
-/

namespace FrontEnd.Lexer

open Memory (Arena)

variable {l m : Lexer} {c k : Nat}

/-! ### Calls side by side -/

theorem scan_len_le (bytes : List UInt8) : (scan bytes).len ≤ bytes.length := by
  cases bytes with
  | nil => exact Nat.le_refl 0
  | cons lead rest => exact (scan_fits lead rest).le

/-- A result whose offset counts from `c` bytes before. -/
def shifted (c : Nat) : Result → Result
  | .ok token => .ok { token with offset := c + token.offset }
  | .error e => .error { e with offset := c + e.offset }

/-- `l` stands `c` bytes further into its source than `m`, with the same bytes ahead. -/
structure Follows (c : Nat) (l m : Lexer) : Prop where
  within : c ≤ l.source.length
  source : m.source = l.source.drop c
  current : l.current = c + m.current
  inside : m.current ≤ m.source.length
  options : l.options = m.options
  scratch : m.scratch.Alike l.scratch

theorem present_shifted (fileName : String) (start : Nat) (lexeme : List UInt8) (r : Reading) :
    present fileName (c + start) lexeme r = shifted c (present fileName start lexeme r) := by
  cases r with
  | ok read => rfl
  | error failure => simp [present, shifted, Nat.add_assoc]

theorem Follows.le (h : Follows c l m) : l.current ≤ l.source.length := by
  have within := h.within
  have inside := h.inside
  rw [h.source, List.length_drop] at inside
  rw [h.current]
  omega

/-- The answers are the same but for the offset, and the lexers go on side by side. -/
theorem Follows.call (h : Follows c l m) :
    l.call.1 = m.call.1.map (shifted c) ∧ Follows c l.call.2 m.call.2 := by
  have same : l.ahead = m.ahead := by
    rw [ahead, ahead, h.source, h.current, List.drop_drop]
  rw [call_eq h.le, call_eq h.inside, same]
  refine ⟨?_, ?_⟩
  · unfold answer
    rw [(reading_blind h.scratch).1, h.options, h.current]
    cases (reading m.scratch m.ahead).1 with
    | error fault => rfl
    | ok r => exact congrArg Except.ok (present_shifted _ _ _ r)
  · have le := scan_len_le m.ahead
    rw [ahead, List.length_drop] at le
    have inside := h.inside
    constructor <;> simp only [source_passed, options_passed, current_passed]
    · exact h.within
    · exact h.source
    · rw [same, h.current, Nat.add_assoc]
    · rw [ahead]
      omega
    · exact h.options
    · exact (reading_blind h.scratch).2

theorem Follows.after (h : Follows c l m) (k : Nat) : Follows c (l.after k) (m.after k) := by
  induction k with
  | zero => exact h
  | succ k ih => exact ih.call.2

theorem Follows.outcome (h : Follows c l m) (k : Nat) :
    l.outcome k = (m.outcome k).map (shifted c) ∧ l.cursor k = c + m.cursor k :=
  ⟨(h.after k).call.1, (h.after k).current⟩

theorem after_add (l : Lexer) (j k : Nat) : l.after (j + k) = (l.after j).after k := by
  induction k with
  | zero => rfl
  | succ k ih => rw [← Nat.add_assoc, Lexer.after, ih, Lexer.after]

/-- The calls before `k` have all come back with an answer. -/
def Answers (l : Lexer) (k : Nat) : Prop := ∀ i < k, ∃ result, l.outcome i = .ok result

theorem call_keeps (inside : l.current ≤ l.source.length) :
    l.call.2.options = l.options ∧ l.call.2.finished = l.finished ∧
      ∀ result, l.call.1 = .ok result → l.scratch.Alike l.call.2.scratch := by
  rw [call_eq inside]
  refine ⟨options_passed l, ?_, fun result answers => ?_⟩
  · unfold passed
    split
    · rfl
    · rfl
  · obtain ⟨r, read, -⟩ := reading_of_answer answers
    exact reading_keeps read

/-- Calls keep the options, and those that answer leave the scratch arena like it was. -/
theorem after_keeps (inside : l.current ≤ l.source.length) (answers : l.Answers k) :
    (l.after k).options = l.options ∧ l.scratch.Alike (l.after k).scratch := by
  induction k with
  | zero => exact ⟨rfl, .refl _⟩
  | succ k ih =>
    obtain ⟨options, scratch⟩ := ih fun i before => answers i (Nat.lt_succ_of_lt before)
    obtain ⟨source, le, -⟩ := after_within inside k
    rw [← source] at le
    obtain ⟨options', -, keeps⟩ := call_keeps le
    obtain ⟨result, answer⟩ := answers k (Nat.lt_succ_self k)
    exact ⟨options'.trans options, scratch.trans (keeps result answer)⟩

theorem follows_rest (source : List UInt8) (scratch : Arena) (options : Options)
    (answers : Answers { source, scratch, options } k) :
    let l : Lexer := { source, scratch, options }
    Follows (l.cursor k) (l.after k) { source := source.drop (l.cursor k), scratch, options } := by
  intro l
  have inside : l.current ≤ l.source.length := Nat.zero_le _
  obtain ⟨same, le, -⟩ := after_within inside k
  obtain ⟨options', alike⟩ := after_keeps inside answers
  exact ⟨by rw [same]; exact le, by rw [same], rfl, Nat.zero_le _, options', alike⟩

end FrontEnd.Lexer
