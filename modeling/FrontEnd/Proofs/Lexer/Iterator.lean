import FrontEnd.Proofs.Lexer.SideBySide
import FrontEnd.Proofs.Maintains

/-!
# The iterator

`next?_eq` says what the iterator makes of a call, and `draw_cases` what a draw may be. A drain is a
row of draws (`collect_draws`), and it leaves nothing to draw (`drain_finishes`).
-/

namespace FrontEnd.Lexer

variable {l l' : Lexer} {result : Result} {results : List Result} {count : Nat}

/-! ### One draw -/

/-- What the iterator yields for a call. -/
def yields : Except Fault Result × Lexer → EStateM.Result Fault Lexer (Option Result)
  | (.ok result, l) =>
    .ok (some result) { l with finished := l.finished || Result.isEndOfFile result }
  | (.error fault, l) => .error fault l

/-- The lexer as the iterator calls it. -/
def counted (l : Lexer) : Lexer := { l with yielded := l.yielded + 1 }

/-- The iterator yields what calls answer, until the end of the file or the limit. -/
theorem next?_eq (l : Lexer) :
    next? l =
      if l.finished then .ok none l
      else
        match l.limitReached? with
        | some limit =>
          if l.limitReported then
            .ok (some (.ok { kind := .endOfFile, offset := l.source.length, lexeme := [] }))
              { l with finished := true }
          else
            .ok (some (.error ⟨l.options.fileName, l.current, .tokenLimitExceeded limit⟩))
              { l with limitReported := true }
        | none => yields l.counted.call := by
  unfold next?
  rw [run_get_bind]
  by_cases done : l.finished = true
  · rw [if_pos done, if_pos done]
    rfl
  rw [if_neg done, if_neg done]
  cases l.limitReached? with
  | some limit =>
    dsimp only
    by_cases reported : l.limitReported = true
    · rw [if_pos reported, if_pos reported]
      rfl
    · rw [if_neg reported, if_neg reported]
      rfl
  | none =>
    have counts : (set l.counted : LexerM Unit) l = .ok () l.counted := rfl
    refine (run_bind_ok counts).trans ?_
    unfold call
    cases ran : nextToken l.counted with
    | error fault l' => exact run_bind_error ran
    | ok result l' =>
      rw [run_bind_ok ran]
      dsimp only [yields]
      cases ended : Result.isEndOfFile result with
      | true =>
        rw [if_pos rfl, Bool.or_true]
        rfl
      | false =>
        rw [if_neg Bool.false_ne_true, Bool.or_false]
        rfl

/-- What a draw may be: what a call answers, the report of the limit, or the end after it. -/
inductive DrawCase (l : Lexer) : Result → Lexer → Prop where
  | called {result : Result} {l' : Lexer} (called : l.counted.call = (.ok result, l')) :
      DrawCase l result { l' with finished := l'.finished || Result.isEndOfFile result }
  | reported {limit : Nat} (limited : l.options.tokenLimit? = some limit)
      (unreported : l.limitReported = false) :
      DrawCase l (.error ⟨l.options.fileName, l.current, .tokenLimitExceeded limit⟩)
        { l with limitReported := true }
  | ended :
      DrawCase l (.ok { kind := .endOfFile, offset := l.source.length, lexeme := [] })
        { l with finished := true }

theorem draw_cases (ran : next? l = .ok (some result) l') :
    l.finished = false ∧ DrawCase l result l' := by
  rw [next?_eq] at ran
  split at ran
  · cases ran
  rename_i unfinished
  refine ⟨Bool.eq_false_iff.mpr unfinished, ?_⟩
  split at ran
  · rename_i limit reached
    split at ran
    · cases ran
      exact .ended
    · rename_i unreported
      cases ran
      exact .reported (Option.filter_eq_some_iff.mp reached).1 (Bool.eq_false_iff.mpr unreported)
  · cases called : l.counted.call with
    | mk outcome l₁ =>
      rw [called] at ran
      cases outcome with
      | error fault => cases ran
      | ok answered =>
        cases ran
        exact .called called

theorem next?_finished (done : l.finished = true) : next? l = .ok none l := by
  rw [next?_eq, if_pos done]

theorem next?_unlimited (unlimited : l.options.tokenLimit? = none) (going : l.finished = false)
    (ran : nextToken { l with yielded := l.yielded + 1 } = .ok result l') :
    next? l =
      .ok (some result) (if Result.isEndOfFile result then { l' with finished := true } else l') := by
  have free : l.limitReached? = none := by simp [limitReached?, unlimited]
  have called : l.counted.call = (.ok result, l') := nextToken_eq_ok_iff.mp ran
  rw [next?_eq, if_neg (Bool.eq_false_iff.mp going), free]
  dsimp only
  rw [called]
  dsimp only [yields]
  cases ended : Result.isEndOfFile result with
  | true => rw [if_pos rfl, Bool.or_true]
  | false => rw [if_neg Bool.false_ne_true, Bool.or_false]

theorem next?_none (ran : next? l = .ok none l') : l.finished = true ∧ l' = l := by
  rw [next?_eq] at ran
  split at ran
  · rename_i done
    cases ran
    exact ⟨done, rfl⟩
  · exfalso
    split at ran
    · split at ran
      · cases ran
      · cases ran
    · cases came : l.counted.call with
      | mk outcome l'' =>
        rw [came] at ran
        cases outcome with
        | ok result => cases ran
        | error fault => cases ran

theorem isEndOfFile_of_accounts {source : List UInt8} {start stop : Nat}
    (accounts : Accounts source start stop (.ok result)) : Result.isEndOfFile result = false := by
  cases result with
  | ok token => exact Bool.eq_false_iff.mpr accounts.1
  | error e => rfl

/-- The end of the file is answered at the end, and not before. -/
theorem isEndOfFile_of_call (inside : l.current ≤ l.source.length)
    (called : l.call = (.ok result, l')) :
    Result.isEndOfFile result = decide (l.current = l.source.length) := by
  rcases Nat.lt_or_eq_of_le inside with ahead | done
  · have accounts := (call_takes ahead).accounts
    rw [called] at accounts
    rw [isEndOfFile_of_accounts accounts]
    exact (decide_eq_false (Nat.ne_of_lt ahead)).symm
  · rw [call_at_end done] at called
    cases called
    exact (decide_eq_true done).symm

theorem call_passes (inside : l.current ≤ l.source.length) :
    ∃ previous, l.call.2 =
      { l with
        previous
        current := l.current + (scan l.ahead).len
        scratch := (reading l.scratch l.ahead).2 } := by
  rw [call_eq inside]
  unfold passed
  split
  · rename_i nothing
    exact ⟨l.previous, by rw [nothing]; rfl⟩
  · exact ⟨_, rfl⟩

/-! ### Draining -/

theorem collect_cons {l'' : Lexer} (ran : next? l = .ok (some result) l')
    (rest : collect count l' = .ok results l'') :
    collect (count + 1) l = .ok (result :: results) l'' := by
  rw [collect, run_bind_ok ran]
  dsimp only
  rw [run_bind_ok rest]
  rfl

theorem collect_finished (done : l.finished = true) (count : Nat) : collect count l = .ok [] l := by
  cases count with
  | zero => rfl
  | succ count =>
    rw [collect, run_bind_ok (next?_finished done)]
    rfl

/-- The lexer after `k` draws from its iterator. -/
def drawn (l : Lexer) : Nat → Lexer
  | 0 => l
  | k + 1 => drawn (stateAfter (next? l)) k

theorem drawn_succ (ran : next? l = .ok (some result) l') (k : Nat) :
    l.drawn (k + 1) = l'.drawn k := by
  show drawn (stateAfter (next? l)) k = _
  rw [ran]
  rfl

/-- Results are collected draw by draw, until there are enough or no more. -/
theorem collect_draws (ran : collect count l = .ok results l') :
    l' = l.drawn results.length ∧ results.length ≤ count ∧
      (∀ k (before : k < results.length),
        next? (l.drawn k) = .ok (some results[k]) (l.drawn (k + 1))) ∧
      (results.length < count → next? l' = .ok none l') := by
  induction count generalizing l results with
  | zero =>
    cases ran
    exact ⟨rfl, Nat.le_refl 0, nofun, nofun⟩
  | succ count ih =>
    rw [collect] at ran
    obtain ⟨draw, l₁, first, rest⟩ := run_bind_eq_ok ran
    cases draw with
    | none =>
      obtain ⟨-, rfl⟩ := next?_none first
      cases rest
      exact ⟨rfl, Nat.zero_le _, nofun, fun _ => first⟩
    | some result =>
      obtain ⟨later, l₂, collected, answers⟩ := run_bind_eq_ok rest
      cases answers
      obtain ⟨ends, few, draws, last⟩ := ih collected
      refine ⟨?_, Nat.succ_le_succ few, ?_, fun more => last (Nat.lt_of_succ_lt_succ more)⟩
      · rw [List.length_cons, drawn_succ first]
        exact ends
      · intro k before
        cases k with
        | zero => exact first.trans (by rw [drawn_succ first]; rfl)
        | succ k =>
          rw [drawn_succ first, drawn_succ first, List.getElem_cons_succ]
          exact draws k (Nat.lt_of_succ_lt_succ before)

/-- A bound on the results still to come: one for each byte ahead, one for the limit and one for the
end of the file. -/
def pending (l : Lexer) : Nat :=
  if l.finished then 0 else l.source.length - l.current + if l.limitReported then 1 else 2

theorem pending_finished (done : l.finished = true) : l.pending = 0 := if_pos done

theorem pending_going (going : l.finished = false) :
    l.pending = l.source.length - l.current + if l.limitReported then 1 else 2 :=
  if_neg (Bool.eq_false_iff.mp going)

theorem pending_pos (going : l.finished = false) : 0 < l.pending := by
  rw [pending_going going]
  split <;> omega

theorem call_pending (going : l.finished = false) (ahead : l.current < l.source.length)
    (came : l.call = (.ok result, l')) (ended : Bool) :
    l'.source = l.source ∧ l'.current ≤ l.source.length ∧
      ({ l' with finished := l'.finished || ended } : Lexer).pending < l.pending := by
  obtain ⟨previous, passes⟩ := call_passes (Nat.le_of_lt ahead)
  have takes : Takes l l.call.2 l.call.1 := call_takes ahead
  rw [came] at passes takes
  obtain ⟨source, lt, le, -, -, -⟩ := takes
  dsimp only at passes source lt le
  have reported : l'.limitReported = l.limitReported := by rw [passes]
  have goes_on : l'.finished = false := by rw [passes, going]
  refine ⟨source, le, ?_⟩
  cases ended with
  | true =>
    rw [pending_finished (by simp)]
    exact pending_pos going
  | false =>
    rw [pending_going going, pending_going (by simp [goes_on])]
    dsimp only
    rw [source, reported]
    omega

theorem next?_pending (inside : l.current ≤ l.source.length)
    (ran : next? l = .ok (some result) l') :
    l'.source = l.source ∧ l'.current ≤ l.source.length ∧ l'.pending < l.pending := by
  obtain ⟨going, drawn⟩ := draw_cases ran
  cases drawn with
  | called called =>
    rcases Nat.lt_or_eq_of_le inside with ahead | done
    · exact call_pending (l := l.counted) going ahead called _
    · have last : l.counted.call = (endOfFile l.source, l.counted) := call_at_end done
      rw [last] at called
      cases called
      refine ⟨rfl, inside, ?_⟩
      rw [pending_finished (Bool.or_true _)]
      exact pending_pos going
  | reported _ unreported =>
    have fewer : pending { l with limitReported := true } = l.source.length - l.current + 1 :=
      pending_going going
    refine ⟨rfl, inside, ?_⟩
    rw [fewer, pending_going going, unreported]
    exact Nat.lt_succ_self _
  | ended => exact ⟨rfl, inside, pending_pos going⟩

theorem collect_finishes (inside : l.current ≤ l.source.length) (enough : l.pending ≤ count)
    (ran : collect count l = .ok results l') : l'.finished = true := by
  induction count generalizing l results with
  | zero =>
    cases ran
    by_contra unfinished
    have some_left := pending_pos (Bool.eq_false_iff.mpr unfinished)
    omega
  | succ count ih =>
    rw [collect] at ran
    obtain ⟨draw, l₁, first, rest⟩ := run_bind_eq_ok ran
    cases draw with
    | none =>
      obtain ⟨done, rfl⟩ := next?_none first
      cases rest
      exact done
    | some result =>
      obtain ⟨later, l₂, collected, answers⟩ := run_bind_eq_ok rest
      cases answers
      obtain ⟨source, le, fewer⟩ := next?_pending inside first
      exact ih (by rw [source]; exact le) (by omega) collected

theorem drain_finishes (ran : drain l = .ok results l') (inside : l.current ≤ l.source.length) :
    l'.finished = true := by
  refine collect_finishes inside ?_ ran
  unfold pending
  split
  · exact Nat.zero_le _
  · split
    · omega
    · omega

end FrontEnd.Lexer
