import FrontEnd.Proofs.Lexer.Iterator

/-!
# A lexer can be restarted

`lexIn_unlimited` says what draining a lexer without a limit yields: the answers of its calls up to
the first end of the file. `lexing_restarts` sets a lexer that has come some way beside a new one
over the rest of its source, call by call and drained.
-/

namespace FrontEnd.Lexer

open Memory (Arena)

variable {l m : Lexer} {n : Nat} {result : Result} {source : List UInt8} {scratch : Arena}
  {options : Options}

theorem shifted_zero : shifted 0 = id := by
  funext result
  cases result <;> simp [shifted]

/-- A lexer whose iterator has not ended, beside one that is called by hand. -/
structure Draws (l m : Lexer) : Prop where
  follows : Follows 0 l m
  unlimited : l.options.tokenLimit? = none
  going : l.finished = false

/-- The iterator yields what a call answers, and ends with the end of the file. -/
theorem Draws.next (h : Draws l m) (answers : m.call.1 = .ok result) :
    ∃ l', next? l = .ok (some result) l' ∧ l'.current = m.call.2.current ∧
      l'.finished = Result.isEndOfFile result ∧
      (Result.isEndOfFile result = false → Draws l' m.call.2) := by
  -- the iterator counts before it calls, which no call looks at
  have counted : Follows 0 { l with yielded := l.yielded + 1 } m := by
    obtain ⟨within, source, current, inside, options, scratch⟩ := h.follows
    exact ⟨within, source, current, inside, options, scratch⟩
  obtain ⟨same, further⟩ := counted.call
  rw [answers, shifted_zero] at same
  cases ran : nextToken { l with yielded := l.yielded + 1 } with
  | error fault l' =>
    unfold call at same
    rw [ran] at same
    cases same
  | ok result' l' =>
    have called := nextToken_eq_ok_iff.mp ran
    rw [called] at same further
    cases same
    have current : l'.current = m.call.2.current := further.current.trans (Nat.zero_add _)
    obtain ⟨options, finished, -⟩ := call_keeps counted.le
    rw [called] at options finished
    refine ⟨_, next?_unlimited h.unlimited h.going ran, ?_⟩
    by_cases ended : Result.isEndOfFile result = true
    · rw [if_pos ended]
      exact ⟨current, ended.symm, fun going => absurd (ended.symm.trans going) nofun⟩
    · rw [if_neg ended]
      have going : l'.finished = false := finished.trans h.going
      exact ⟨current, going.trans (Bool.eq_false_iff.mpr ended).symm,
        fun _ => ⟨further, by rw [options]; exact h.unlimited, going⟩⟩

theorem outcome_succ (l : Lexer) (k : Nat) : l.outcome (k + 1) = l.call.2.outcome k := by
  unfold outcome
  rw [Nat.add_comm, after_add]
  rfl

theorem cursor_succ (l : Lexer) (k : Nat) : l.cursor (k + 1) = l.call.2.cursor k := by
  unfold cursor
  rw [Nat.add_comm, after_add]
  rfl

/-- The number of calls that a source lasts for. -/
structure Lasts (m : Lexer) (n : Nat) : Prop where
  inside : m.current ≤ m.source.length
  ends : m.cursor n = m.source.length
  before : ∀ k < n, m.cursor k < m.source.length

theorem Lasts.unique {n' : Nat} (h : l.Lasts n) (h' : l.Lasts n') : n = n' := by
  refine Nat.le_antisymm (Nat.le_of_not_lt fun later => ?_) (Nat.le_of_not_lt fun earlier => ?_)
  · exact absurd h'.ends (Nat.ne_of_lt (h.before n' later))
  · exact absurd h.ends (Nat.ne_of_lt (h'.before n earlier))

/-- A source lasts for the calls up to a boundary and those that the rest lasts for. -/
theorem Lasts.extend {k c : Nat} (h : m.Lasts n) (inside : l.current ≤ l.source.length)
    (before : ∀ i < k, l.cursor i < l.source.length)
    (whole : c + m.source.length = l.source.length) (along : ∀ j, l.cursor (k + j) = c + m.cursor j) :
    l.Lasts (k + n) := by
  refine ⟨inside, by rw [along, h.ends, whole], fun i early => ?_⟩
  rcases Nat.lt_or_ge i k with low | high
  · exact before i low
  · obtain ⟨j, rfl⟩ := Nat.exists_eq_add_of_le high
    have short := h.before j (Nat.lt_of_add_lt_add_left early)
    rw [along, ← whole]
    exact Nat.add_lt_add_left short c

/-- Draining yields the answers up to the first end of the file. -/
theorem Draws.collect (h : Draws l m) (lasts : m.Lasts n)
    (answers : ∀ k, ∃ result, m.outcome k = .ok result) {count : Nat} (enough : n < count) :
    ∃ results l', collect count l = .ok results l' ∧ l'.current = m.source.length ∧
      results.map Except.ok = (List.range (n + 1)).map m.outcome := by
  induction n generalizing l m count with
  | zero =>
    obtain ⟨count, rfl⟩ := Nat.exists_eq_succ_of_ne_zero (Nat.ne_of_gt enough)
    have last : m.call = (endOfFile m.source, m) := call_at_end lasts.ends
    have answer : m.call.1 = endOfFile m.source := congrArg Prod.fst last
    obtain ⟨l', ran, current, finished, -⟩ := h.next answer
    refine ⟨_, l', collect_cons ran (collect_finished finished count), ?_, ?_⟩
    · rw [current, last]
      exact lasts.ends
    · exact congrArg (· :: []) answer.symm
  | succ n ih =>
    obtain ⟨count, rfl⟩ := Nat.exists_eq_succ_of_ne_zero (Nat.ne_of_gt (Nat.zero_lt_of_lt enough))
    obtain ⟨result, answer⟩ := answers 0
    have answer : m.call.1 = .ok result := answer
    have takes : Takes m m.call.2 m.call.1 := call_takes (lasts.before 0 n.succ_pos)
    have going : Result.isEndOfFile result = false := by
      have accounts := takes.accounts
      rw [answer] at accounts
      exact isEndOfFile_of_accounts accounts
    obtain ⟨l', ran, -, -, further⟩ := h.next answer
    have source := takes.source
    have later : m.call.2.Lasts n := by
      refine ⟨source ▸ takes.le, ?_, fun k lt => ?_⟩
      · rw [← cursor_succ, source]
        exact lasts.ends
      · rw [← cursor_succ, source]
        exact lasts.before (k + 1) (Nat.succ_lt_succ lt)
    obtain ⟨results, last, rest, current, same⟩ := ih (further going) later
      (fun k => by rw [← outcome_succ]; exact answers (k + 1)) (Nat.lt_of_succ_lt_succ enough)
    refine ⟨result :: results, last, collect_cons ran rest, current.trans (by rw [source]), ?_⟩
    rw [List.range_succ_eq_map, List.map_cons, List.map_cons, same, List.map_map]
    refine congr (congrArg List.cons answer.symm) ?_
    exact List.map_congr_left fun k _ => (outcome_succ m k).symm

theorem lexIn_unlimited (answers : ∀ n, Answers { source, scratch, options } n)
    (unlimited : options.tokenLimit? = none) :
    let l : Lexer := { source, scratch, options }
    ∃ n results after, l.Lasts n ∧ lexIn source options scratch = .ok (results, source.length) after ∧
      results.map Except.ok = (List.range (n + 1)).map l.outcome := by
  intro l
  have inside : l.current ≤ l.source.length := Nat.zero_le _
  obtain ⟨n, le, ends, before⟩ := exists_first_end inside
  have draws : Draws l l :=
    ⟨⟨Nat.zero_le _, rfl, rfl, inside, rfl, .refl _⟩, unlimited, rfl⟩
  obtain ⟨results, l', collected, current, same⟩ := draws.collect ⟨inside, ends, before⟩
    (fun k => answers (k + 1) k k.lt_succ_self)
    (show n < source.length + 2 from Nat.lt_add_right 1 (Nat.lt_succ_of_le le))
  have drained : drain l = .ok results l' := collected
  refine ⟨n, results, l'.scratch, ⟨inside, ends, before⟩, ?_, same⟩
  unfold lexIn
  rw [drained, ← current]

theorem answers_of_usable (inside : l.current ≤ l.source.length) (usable : l.scratch.Usable) (n : Nat) :
    l.Answers n := by
  intro k _
  rcases Nat.lt_or_eq_of_le (after_within inside k).2.1 with ahead | done
  · exact (call_ahead inside ahead).2.2 usable
  · exact ⟨_, (call_past inside done).1⟩

/-- Outcomes up to a boundary, and then the results of a lexer that goes on from there. -/
theorem outcomes_split {k c : Nat} {back : List Result}
    (along : ∀ j, l.outcome (k + j) = (m.outcome j).map (shifted c))
    (shown : back.map Except.ok = (List.range n).map m.outcome) :
    (List.range (k + n)).map l.outcome =
      (List.range k).map l.outcome ++ (back.map (shifted c)).map Except.ok := by
  have tail : (List.range n).map (fun j => l.outcome (k + j)) =
      (back.map (shifted c)).map Except.ok := by
    calc (List.range n).map (fun j => l.outcome (k + j))
        = ((List.range n).map m.outcome).map (Except.map (shifted c)) := by
          rw [List.map_map]
          exact List.map_congr_left fun j _ => along j
      _ = (back.map Except.ok).map (Except.map (shifted c)) := by rw [← shown]
      _ = (back.map (shifted c)).map Except.ok := by
          rw [List.map_map, List.map_map]
          rfl
  rw [List.range_add, List.map_append, List.map_map, ← tail]
  rfl

/-- A lexer whose call `k` starts at `c`, every call before it having answered, goes on from there
like a new one over the rest of its source, with offsets shifted by `c`. If all calls answer, a
drained source yields what came before and then the results of the rest. -/
theorem lexing_restarts {k c : Nat} (stands : Lexer.cursor { source, scratch, options } k = c)
    (answers : Answers { source, scratch, options } k) :
    let l : Lexer := { source, scratch, options }
    let rest : Lexer := { source := source.drop c, scratch, options }
    (∀ j, l.outcome (k + j) = (rest.outcome j).map (shifted c) ∧
      l.cursor (k + j) = c + rest.cursor j) ∧
    ((∀ n, l.Answers n) → options.tokenLimit? = none → (∀ i < k, l.cursor i < source.length) →
      ∃ front back after after',
        front.map Except.ok = (List.range k).map l.outcome ∧
        lexIn (source.drop c) options scratch = .ok (back, source.length - c) after ∧
        lexIn source options scratch =
          .ok (front ++ back.map (shifted c), source.length) after') := by
  intro l rest
  have follows : Follows c (l.after k) rest := by
    subst stands
    exact follows_rest source scratch options answers
  have goes_on (j : Nat) : l.outcome (k + j) = (rest.outcome j).map (shifted c) ∧
      l.cursor (k + j) = c + rest.cursor j := by
    have along := follows.outcome j
    unfold outcome cursor at along ⊢
    rwa [after_add]
  refine ⟨goes_on, fun all unlimited before => ?_⟩
  have all' (n : Nat) : rest.Answers n := by
    intro j _
    obtain ⟨result, answer⟩ := all (k + j + 1) (k + j) (Nat.lt_succ_self _)
    rw [(goes_on j).1] at answer
    cases came : rest.outcome j with
    | ok result' => exact ⟨result', rfl⟩
    | error fault =>
      rw [came] at answer
      cases answer
  obtain ⟨n, results, after', lasts, whole, shown⟩ := lexIn_unlimited all unlimited
  obtain ⟨n', back, after, lasts', drained, shown'⟩ := lexIn_unlimited all' unlimited
  rw [List.length_drop] at drained
  have within : c ≤ source.length := stands ▸ (after_within (Nat.zero_le _) k).2.1
  have length : rest.source.length = source.length - c := List.length_drop
  obtain rfl : n = k + n' := by
    refine lasts.unique (lasts'.extend (Nat.zero_le _) before ?_ fun j => (goes_on j).2)
    rw [length]
    exact Nat.add_sub_cancel' within
  have split := outcomes_split (fun j => (goes_on j).1) shown'
  obtain ⟨front, last, rfl, fronts, lasts⟩ := List.map_eq_append_iff.mp (shown.trans split)
  obtain rfl := (List.map_inj_right fun _ _ => Except.ok.inj).mp lasts
  exact ⟨front, back, after, after', fronts, drained, whole⟩

/-- `1_0 2_0` over an arena in use, cut after the blank: both numerals are staged, the second over
the bytes that the first has left behind. -/
theorem lexing_restarts_staged :
    let source : List UInt8 := [0x31, 0x5F, 0x30, 0x20, 0x32, 0x5F, 0x30]
    let scratch : Arena :=
      { id := 1, address := 4096, data := List.replicate 32 0xAA, offset := 3, last? := some 0 }
    let l : Lexer := { source, scratch }
    let rest : Lexer := { source := source.drop 4, scratch }
    l.cursor 2 = 4 ∧ l.Answers 2 ∧ l.outcome 2 = (rest.outcome 0).map (shifted 4) ∧
    rest.outcome 0 = .ok (.ok
      { kind := .literal .integer, offset := 0, lexeme := [0x32, 0x5F, 0x30], value := .integer 20 }) ∧
    ∃ front back after after',
      lexIn (source.drop 4) {} scratch = .ok (back, 3) after ∧
      lexIn source {} scratch = .ok (front ++ back.map (shifted 4), 7) after' := by
  intro source scratch l rest
  have usable : scratch.Usable := ⟨by decide, by decide, by decide⟩
  have answers := answers_of_usable (l := l) (Nat.zero_le _) usable
  have stands : l.cursor 2 = 4 := by decide
  obtain ⟨goes_on, drains⟩ := lexing_restarts stands (answers 2)
  obtain ⟨front, back, after, after', -, drained, whole⟩ := drains answers rfl (by decide)
  exact ⟨stands, answers 2, (goes_on 0).1, by decide, front, back, after, after', drained, whole⟩

end FrontEnd.Lexer
