import Mathlib.Data.Nat.Find
import Mathlib.Order.Monotone.Basic
import FrontEnd.Proofs.Lexer.Reading

/-!
# A lexer tiles its source

Every call of `nextToken` before the end of a source takes some bytes and accounts for just those,
by a token or by an error inside them. `nextToken_tiles` follows a new lexer over any number of
calls, whose spans make up the source.
-/

namespace FrontEnd.Lexer

open Buffer (window)

/-! ### One call -/

/-- A call of `nextToken`, with its fault caught. -/
def call (l : Lexer) : Except Fault Result × Lexer :=
  match nextToken l with
  | .ok result l' => (.ok result, l')
  | .error fault l' => (.error fault, l')

/-- What a call may come back with that has taken the bytes of a source from `start` to `stop`. -/
def Accounts (source : List UInt8) (start stop : Nat) : Except Fault Result → Prop
  | .ok (.ok token) =>
    ¬token.isEndOfFile ∧ token.offset = start ∧
      token.lexeme = window source start (stop - start) ∧ token.stop = stop
  | .ok (.error e) => start ≤ e.offset ∧ e.offset < stop
  | .error _ => True

/-- The end of a file, as a call comes back with it. -/
def endOfFile (source : List UInt8) : Except Fault Result :=
  .ok (.ok { kind := .endOfFile, offset := source.length, lexeme := [] })

/-- A call that takes bytes. It faults only over a scratch arena that is not usable. -/
structure Takes (l l' : Lexer) (outcome : Except Fault Result) : Prop where
  source : l'.source = l.source
  lt : l.current < l'.current
  le : l'.current ≤ l.source.length
  accounts : Accounts l.source l.current l'.current outcome
  untouched : l.scratch.Usable → l.scratch.Untouched l'.scratch
  answers : l.scratch.Usable → ∃ result, outcome = .ok result

variable {l : Lexer}

/-- Before the end a call moves the cursor on, and then only reads. -/
theorem nextToken_settles (ahead : l.current < l.source.length) :
    ∃ moved : Lexer, moved.source = l.source ∧ moved.scratch = l.scratch ∧
      l.current < moved.current ∧ moved.current ≤ l.source.length ∧
      moved.Settles (fun result => Accounts l.source l.current moved.current (.ok result))
        (nextToken l) := by
  have rest : Buffer.sliceFrom l.source l.current = .ok (l.source.drop l.current) :=
    if_pos (Nat.le_of_lt ahead)
  have fits : (scan (l.source.drop l.current)).Fits (l.source.drop l.current) := by
    obtain ⟨lead, more, front⟩ := List.exists_cons_of_ne_nil (by simpa using ahead :
      l.source.drop l.current ≠ [])
    rw [front]
    exact scan_fits lead more
  unfold nextToken
  rw [run_get_bind, run_orFault_ok rest]
  generalize scan (l.source.drop l.current) = found at fits ⊢
  obtain ⟨pos, le, within⟩ := fits
  rw [List.length_drop] at le
  have inside : l.current + found.len ≤ l.source.length := by omega
  generalize moved_eq : ({ l with
    previous := l.current + Utf8.lastStart ((l.source.drop l.current).take found.len)
    current := l.current + found.len } : Lexer) = moved
  have source : moved.source = l.source := by rw [← moved_eq]
  have current : moved.current = l.current + found.len := by rw [← moved_eq]
  have taken : take (l.source.drop l.current) found.len l = .ok () moved := by
    rw [← moved_eq]
    show EStateM.Result.ok () (if found.len = 0 then l else _) = _
    rw [if_neg (Nat.ne_of_gt pos)]
  refine ⟨moved, source, by rw [← moved_eq], by omega, by omega, ?_⟩
  rw [current, run_bind_ok taken]
  refine (readShape_settles pos (by rw [source]; exact inside) within).bind ?_
  intro reading scratch located
  cases reading with
  | error failure => exact settles_ok located
  | ok read =>
    have lexeme : Buffer.slice l.source l.current (l.current + found.len) =
        .ok (window l.source l.current found.len) := by
      rw [Buffer.slice_eq_window (Nat.le_add_right _ _) inside, Nat.add_sub_cancel_left]
    obtain ⟨kind, value⟩ := read
    have length : (window l.source l.current found.len).length = found.len :=
      Buffer.length_window inside
    dsimp only
    rw [run_orFault_ok lexeme]
    refine settles_ok ⟨?_, rfl, ?_, ?_⟩
    · have named : kind ≠ .endOfFile := located
      unfold Token.isEndOfFile
      simpa using named
    · rw [Nat.add_sub_cancel_left]
    · unfold Token.stop
      rw [length]

theorem call_takes (ahead : l.current < l.source.length) : Takes l l.call.2 l.call.1 := by
  obtain ⟨moved, source, scratch, lt, le, settles⟩ := nextToken_settles ahead
  unfold call
  cases came : nextToken l with
  | error fault l' =>
    rw [came] at settles
    obtain ⟨unusable, after, rfl⟩ := settles
    rw [scratch] at unusable
    exact ⟨source, lt, le, trivial, fun usable => absurd usable unusable,
      fun usable => absurd usable unusable⟩
  | ok result l' =>
    rw [came] at settles
    obtain ⟨accounts, after, rfl, untouched⟩ := settles
    rw [scratch] at untouched
    exact ⟨source, lt, le, accounts, untouched, fun _ => ⟨result, rfl⟩⟩

theorem call_at_end (done : l.current = l.source.length) : l.call = (endOfFile l.source, l) := by
  have rest : Buffer.sliceFrom l.source l.current = .ok [] := by
    unfold Buffer.sliceFrom
    rw [if_pos (Nat.le_of_eq done), done, List.drop_length]
  have nothing : Buffer.slice l.source l.current (l.current + (scan []).len) = .ok [] := by
    have empty := Buffer.slice_eq_window (Nat.le_refl l.current) (Nat.le_of_eq done)
    rw [Nat.sub_self] at empty
    exact empty
  have ends : nextToken l =
      .ok (.ok { kind := .endOfFile, offset := l.source.length, lexeme := [] }) l := by
    unfold nextToken
    have taken : take [] (scan []).len l = .ok () l := rfl
    have read : readShape l.current (l.current + (scan []).len) (scan []).shape l =
      .ok (.ok (.endOfFile, .none)) l := rfl
    rw [run_get_bind, run_orFault_ok rest, ← done, run_bind_ok taken, run_bind_ok read]
    dsimp only
    rw [run_orFault_ok nothing]
    rfl
  unfold call
  rw [ends]
  rfl

/-! ### Any number of calls -/

/-- The lexer after `k` calls. -/
def after (l : Lexer) : Nat → Lexer
  | 0 => l
  | k + 1 => (l.after k).call.2

/-- Where the lexer stands after `k` calls. -/
def cursor (l : Lexer) (k : Nat) : Nat := (l.after k).current

/-- What call `k` comes to, the first being call 0. -/
def outcome (l : Lexer) (k : Nat) : Except Fault Result := (l.after k).call.1

/-- The offset that an outcome names. -/
def offset? : Except Fault Result → Option Nat
  | .ok (.ok token) => some token.offset
  | .ok (.error e) => some e.offset
  | .error _ => none

/-- Calls go on over the same source, within it, and leave a usable scratch arena untouched. -/
theorem after_within (inside : l.current ≤ l.source.length) (k : Nat) :
    (l.after k).source = l.source ∧ l.cursor k ≤ l.source.length ∧
      (l.scratch.Usable → l.scratch.Untouched (l.after k).scratch) := by
  induction k with
  | zero => exact ⟨rfl, inside, fun _ => .refl _⟩
  | succ k ih =>
    obtain ⟨source, le, untouched⟩ := ih
    rw [← source] at le
    rcases Nat.lt_or_eq_of_le le with ahead | done
    · have taken := call_takes ahead
      refine ⟨taken.source.trans source, source ▸ taken.le, fun usable => ?_⟩
      have before := untouched usable
      exact before.trans (taken.untouched (before.usable usable))
    · have ended : l.after (k + 1) = l.after k := congrArg Prod.snd (call_at_end done)
      rw [source] at le
      unfold cursor
      rw [ended]
      exact ⟨source, le, untouched⟩

theorem call_ahead (inside : l.current ≤ l.source.length) {k : Nat}
    (ahead : l.cursor k < l.source.length) :
    l.cursor k < l.cursor (k + 1) ∧
      Accounts l.source (l.cursor k) (l.cursor (k + 1)) (l.outcome k) ∧
      (l.scratch.Usable → ∃ result, l.outcome k = .ok result) := by
  obtain ⟨source, -, untouched⟩ := after_within inside k
  have takes : Takes (l.after k) (l.after (k + 1)) (l.outcome k) :=
    call_takes (by rw [source]; exact ahead)
  have accounts := takes.accounts
  rw [source] at accounts
  exact ⟨takes.lt, accounts, fun usable => takes.answers ((untouched usable).usable usable)⟩

theorem call_past (inside : l.current ≤ l.source.length) {k : Nat}
    (done : l.cursor k = l.source.length) :
    l.outcome k = endOfFile l.source ∧ l.cursor (k + 1) = l.source.length := by
  have source := (after_within inside k).1
  have ends := call_at_end (done.trans (congrArg List.length source.symm))
  rw [source] at ends
  have stays : l.after (k + 1) = l.after k := congrArg Prod.snd ends
  refine ⟨congrArg Prod.fst ends, ?_⟩
  unfold cursor
  rw [stays]
  exact done

theorem cursor_le_succ (inside : l.current ≤ l.source.length) (k : Nat) :
    l.cursor k ≤ l.cursor (k + 1) := by
  rcases Nat.lt_or_eq_of_le (after_within inside k).2.1 with ahead | done
  · exact Nat.le_of_lt (call_ahead inside ahead).1
  · rw [done, (call_past inside done).2]

/-- Each call takes a byte until there are none left. -/
theorem le_cursor (inside : l.current ≤ l.source.length) (k : Nat) :
    k ≤ l.cursor k ∨ l.cursor k = l.source.length := by
  induction k with
  | zero => exact Or.inl (Nat.zero_le _)
  | succ k ih =>
    rcases Nat.lt_or_eq_of_le (after_within inside k).2.1 with ahead | done
    · left
      have moves : l.cursor k < l.cursor (k + 1) := (call_ahead inside ahead).1
      omega
    · exact Or.inr (call_past inside done).2

/-- The source ends after some number of calls, and not before. -/
theorem exists_first_end (inside : l.current ≤ l.source.length) :
    ∃ n ≤ l.source.length, l.cursor n = l.source.length ∧
      ∀ k < n, l.cursor k < l.source.length := by
  have within (k : Nat) := (after_within inside k).2.1
  have ends : l.cursor l.source.length = l.source.length := by
    rcases le_cursor inside l.source.length with all | done
    · exact Nat.le_antisymm (within _) all
    · exact done
  have exists_end : ∃ n, l.cursor n = l.source.length := ⟨_, ends⟩
  refine ⟨Nat.find exists_end, Nat.find_min' exists_end ends, Nat.find_spec exists_end, ?_⟩
  intro k before
  exact Nat.lt_of_le_of_ne (within k) (Nat.find_min exists_end before)

theorem Accounts.offset {source : List UInt8} {start stop a : Nat} {outcome : Except Fault Result}
    (accounts : Accounts source start stop outcome) (moves : start < stop)
    (named : offset? outcome = some a) : start ≤ a ∧ a < stop := by
  match outcome, accounts with
  | .ok (.ok token), accounts =>
    cases named
    rw [accounts.2.1]
    exact ⟨Nat.le_refl start, moves⟩
  | .ok (.error e), accounts =>
    cases named
    exact accounts
  | .error fault, _ => cases named

/-- An offset lies at or after the cursor of its call, and before that of the next unless the source
has ended. -/
theorem outcome_offset (inside : l.current ≤ l.source.length) {k a : Nat}
    (named : offset? (l.outcome k) = some a) :
    l.cursor k ≤ a ∧ (l.cursor k < l.source.length → a < l.cursor (k + 1)) := by
  rcases Nat.lt_or_eq_of_le (after_within inside k).2.1 with ahead | done
  · obtain ⟨moves, accounts, -⟩ := call_ahead inside ahead
    obtain ⟨low, high⟩ := accounts.offset moves named
    exact ⟨low, fun _ => high⟩
  · rw [(call_past inside done).1] at named
    cases named
    exact ⟨Nat.le_of_eq done, fun ahead => absurd done (Nat.ne_of_lt ahead)⟩

/-- The spans of the first calls, one after the other, are the source up to the cursor. -/
theorem spans_eq_take (source : List UInt8) {c : Nat → Nat} (start : c 0 = 0)
    (ordered : ∀ k, c k ≤ c (k + 1)) (n : Nat) :
    ((List.range n).flatMap fun k => window source (c k) (c (k + 1) - c k)) =
      source.take (c n) := by
  induction n with
  | zero => rw [start, List.range_zero, List.flatMap_nil, List.take_zero]
  | succ n ih =>
    rw [List.range_succ, List.flatMap_append, ih, List.flatMap_singleton,
      Buffer.take_append_window, Nat.add_sub_cancel' (ordered n)]

/-- The calls on a new lexer take spans that make up the source, as long as it lasts, and then yield
the end of the file forever. Over a usable scratch arena none of them faults. -/
theorem nextToken_tiles (source : List UInt8) (scratch : Memory.Arena) (options : Options) :
    let l : Lexer := { source, scratch, options }
    ∃ n ≤ source.length,
      (∀ k < n, l.cursor k < l.cursor (k + 1) ∧ l.cursor (k + 1) ≤ source.length ∧
        Accounts source (l.cursor k) (l.cursor (k + 1)) (l.outcome k)) ∧
      (∀ k, n ≤ k → l.cursor k = source.length ∧ l.outcome k = endOfFile source) ∧
      ((List.range n).flatMap fun k =>
        window source (l.cursor k) (l.cursor (k + 1) - l.cursor k)) = source ∧
      (∀ i j, i < j → j ≤ n → ∀ a b, offset? (l.outcome i) = some a →
        offset? (l.outcome j) = some b → a < b) ∧
      (scratch.Usable → ∀ k, ∃ result, l.outcome k = .ok result) := by
  intro l
  have inside : l.current ≤ l.source.length := Nat.zero_le _
  have ordered : Monotone l.cursor := monotone_nat_of_le_succ (cursor_le_succ inside)
  have within (k : Nat) : l.cursor k ≤ source.length := (after_within inside k).2.1
  obtain ⟨n, le, done, ahead⟩ := exists_first_end inside
  have past (k : Nat) (later : n ≤ k) : l.cursor k = source.length :=
    Nat.le_antisymm (within k) (done ▸ ordered later)
  refine ⟨n, le, ?_, ?_, ?_, ?_, ?_⟩
  · intro k before
    obtain ⟨moves, accounts, -⟩ := call_ahead inside (ahead k before)
    exact ⟨moves, within (k + 1), accounts⟩
  · intro k later
    exact ⟨past k later, (call_past inside (past k later)).1⟩
  · rw [spans_eq_take source rfl (cursor_le_succ inside) n, done, List.take_length]
  · intro i j before upTo a b named named'
    have high := (outcome_offset inside named).2 (ahead i (by omega))
    have next : l.cursor (i + 1) ≤ l.cursor j := ordered before
    have low := (outcome_offset inside named').1
    omega
  · intro usable k
    rcases Nat.lt_or_ge k n with before | later
    · exact (call_ahead inside (ahead k before)).2.2 usable
    · exact ⟨_, (call_past inside (past k later)).1⟩

end FrontEnd.Lexer
