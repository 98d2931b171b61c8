import FrontEnd.Proofs.Lexer.Abreast
import FrontEnd.Proofs.Lexer.Handling

/-!
# The limit only cuts short

Up to the limit the iterator yields what it yields without one, since no call looks at the limit
(`call_limited`). Then it reports the limit and ends. `limit_truncates` compares the two drains, and
says of any mixture of uses that the limit and the end of the file are reported once.
-/

namespace FrontEnd.Lexer

open Memory (Arena)

variable {l l' m : Lexer} {result : Result} {results : List Result} {limit count : Nat}

/-! ### Who reports the limit -/

/-- Whether a result reports the limit. -/
def Result.isLimit : Result → Bool
  | .ok _ => false
  | .error e => e.kind = .tokenLimitExceeded

/-- Why something reads as an error: it has been rejected for what stands there, or its digits are
wrong, or they cannot be staged. -/
theorem reading_error_cases {a : Arena} {bytes : List UInt8} {index : Nat} {cause : Cause}
    (read : (reading a bytes).1 = .ok (.error (index, cause))) :
    (scan bytes).shape = .rejected cause ∨ cause.kind = .invalidDigit ∨
      cause.kind = .integerOverflow ∨ cause.kind = .scratchExhausted := by
  cases found : (scan bytes).shape.numeral? with
  | none =>
    unfold reading at read
    cases shape : (scan bytes).shape with
    | rejected other =>
      rw [shape] at read
      cases read
      exact Or.inl rfl
    | badDigit =>
      rw [shape] at read
      cases read
      exact Or.inr (Or.inl rfl)
    | plain | quoted =>
      rw [shape] at read
      cases read
    | based | decimal | fraction =>
      rw [shape] at found
      cases found
  | some n =>
    have failure : n.failure.kind = .invalidDigit ∨ n.failure.kind = .integerOverflow := by
      cases shape : (scan bytes).shape <;> rw [shape] at found <;> cases found <;>
        simp [Numeral.integer, Numeral.real, Cause.kind]
    rw [reading_numeral found] at read
    obtain evaluated | ⟨refusal, refused⟩ := Numeral.readIn_ok read
    · unfold Numeral.evaluate at evaluated
      split at evaluated
      · cases evaluated
      · cases evaluated
        exact Or.inr (failure.imp_right Or.inl)
    · cases refused
      exact Or.inr (Or.inr (Or.inr rfl))

theorem reading_not_limit {a : Arena} {bytes : List UInt8} {index : Nat} {cause : Cause}
    (read : (reading a bytes).1 = .ok (.error (index, cause))) : cause.kind ≠ .tokenLimitExceeded := by
  rcases reading_error_cases read with shape | sort | sort | sort
  · rcases scan_rejects shape with sort | sort | sort <;> simp [sort]
  · simp [sort]
  · simp [sort]
  · simp [sort]

/-- No call reports the limit. -/
theorem call_not_limit (inside : l.current ≤ l.source.length) (called : l.call.1 = .ok result) :
    result.isLimit = false := by
  rw [call_eq inside] at called
  obtain ⟨r, read, rfl⟩ := reading_of_answer called
  cases r with
  | ok token => rfl
  | error failure => exact decide_eq_false (reading_not_limit read)

/-! ### Draws in a row -/

/-- The iterator yields some results, one after the other, and comes to another state. -/
inductive Iterates : Lexer → List Result → Lexer → Prop where
  | nil (l : Lexer) : Iterates l [] l
  | cons {l l' l'' : Lexer} {result : Result} {results : List Result}
      (draw : next? l = .ok (some result) l') (rest : Iterates l' results l'') :
      Iterates l (result :: results) l''

theorem iterates_of_collect (ran : collect count l = .ok results l') : Iterates l results l' := by
  induction count generalizing l results with
  | zero =>
    cases ran
    exact .nil _
  | succ count ih =>
    rw [collect] at ran
    obtain ⟨draw, l₁, first, rest⟩ := run_bind_eq_ok ran
    cases draw with
    | none =>
      obtain ⟨-, rfl⟩ := next?_none first
      cases rest
      exact .nil _
    | some result =>
      obtain ⟨later, l₂, collected, answers⟩ := run_bind_eq_ok rest
      cases answers
      exact .cons first (ih collected)

theorem Iterates.collect (h : Iterates l results l') (done : l'.finished = true)
    (enough : results.length ≤ count) : collect count l = .ok results l' := by
  induction h generalizing count with
  | nil l => exact collect_finished done count
  | cons draw _ ih =>
    obtain ⟨count, rfl⟩ := Nat.exists_eq_succ_of_ne_zero
      (Nat.ne_of_gt (Nat.lt_of_lt_of_le (Nat.succ_pos _) enough))
    exact collect_cons draw (ih done (Nat.le_of_succ_le_succ enough))

theorem Iterates.drawn (h : Iterates l results l') : l' = l.drawn results.length := by
  induction h with
  | nil l => rfl
  | cons draw _ ih => rw [List.length_cons, drawn_succ draw, ih]

theorem Iterates.append {l'' : Lexer} {later : List Result} (first : Iterates l results l')
    (second : Iterates l' later l'') : Iterates l (results ++ later) l'' := by
  induction first with
  | nil => exact second
  | cons draw _ ih => exact .cons draw (ih second)

theorem Iterates.split {l'' : Lexer} {later : List Result} (h : Iterates l (results ++ later) l'') :
    ∃ l', Iterates l results l' ∧ Iterates l' later l'' := by
  induction results generalizing l with
  | nil => exact ⟨l, .nil l, h⟩
  | cons result results ih =>
    cases h with
    | cons draw rest =>
      obtain ⟨l', first, second⟩ := ih rest
      exact ⟨l', .cons draw first, second⟩

theorem drawn_finished (done : l.finished = true) (k : Nat) : l.drawn k = l := by
  induction k with
  | zero => rfl
  | succ k ih =>
    show drawn (stateAfter (next? l)) k = l
    rw [next?_finished done]
    exact ih

/-! ### Without a limit -/

/-- A lexer without a limit, within its source. -/
structure Free (l : Lexer) : Prop where
  inside : l.current ≤ l.source.length
  unlimited : l.options.tokenLimit? = none

/-- What a draw without a limit leaves. -/
structure Draw (l l' : Lexer) (result : Result) : Prop where
  going : l.finished = false
  free : l'.Free
  source : l'.source = l.source
  options : l'.options = l.options
  yielded : l'.yielded = l.yielded + 1
  reported : l'.limitReported = l.limitReported
  limitless : result.isLimit = false
  progress :
    (l'.finished = false ∧ l.current < l'.current ∧
      Accounts l.source l.current l'.current (.ok result)) ∨
    (l'.finished = true ∧ l.current = l.source.length ∧ .ok result = endOfFile l.source)

theorem Free.next? (free : l.Free) :
    next? l = if l.finished then .ok none l else yields l.counted.call := by
  have unlimited : l.limitReached? = none := by simp [limitReached?, free.unlimited]
  rw [next?_eq, unlimited]

theorem Free.draw (free : l.Free) (ran : Lexer.next? l = .ok (some result) l') :
    Draw l l' result := by
  rw [free.next?] at ran
  split at ran
  · cases ran
  rename_i unfinished
  have going : l.finished = false := Bool.eq_false_iff.mpr unfinished
  have inside : l.counted.current ≤ l.counted.source.length := free.inside
  obtain ⟨previous, passes⟩ := call_passes inside
  cases called : l.counted.call with
  | mk outcome l₁ =>
    have limitless : l.counted.call.1 = .ok result → result.isLimit = false := call_not_limit inside
    rw [called] at ran passes limitless
    cases outcome with
    | error fault => cases ran
    | ok answered =>
      cases ran
      have kind := isEndOfFile_of_call inside called
      dsimp only at passes
      rcases Nat.lt_or_eq_of_le free.inside with ahead | done
      · obtain ⟨source, moves, le, accounts, -, -⟩ := call_takes (l := l.counted) ahead
        rw [called] at source moves le accounts
        have more : Result.isEndOfFile result = false :=
          kind.trans (decide_eq_false (Nat.ne_of_lt ahead))
        refine ⟨going, ⟨by rw [← source] at le; exact le, ?_⟩, source, ?_, ?_, ?_, limitless rfl, ?_⟩
        · rw [passes]
          exact free.unlimited
        · rw [passes]
          rfl
        · rw [passes]
          rfl
        · rw [passes]
          rfl
        · refine Or.inl ⟨?_, moves, accounts⟩
          rw [more, passes, Bool.or_false]
          exact going
      · have last := call_at_end (l := l.counted) done
        rw [last] at called
        cases called
        refine ⟨going, ⟨inside, free.unlimited⟩, rfl, rfl, rfl, rfl, rfl, ?_⟩
        exact Or.inr ⟨Bool.or_true _, done, rfl⟩

/-- The results that are drawn without a limit account for the source up to the last, which is the
end of the file. -/
theorem Free.drained (free : l.Free) (h : Iterates l results l') (going : l.finished = false)
    (done : l'.finished = true) :
    results.length ≤ l.source.length - l.current + 1 ∧
      results.getLast?.map Except.ok = some (endOfFile l.source) ∧
      (∀ k (before : k + 1 < results.length),
        Accounts l.source (l.bound k) (l.bound (k + 1)) (.ok results[k])) ∧
      ∀ result ∈ results, result.isLimit = false := by
  induction h with
  | nil l => exact absurd done (Bool.eq_false_iff.mp going)
  | @cons l l₁ l₂ result results draw rest ih =>
    have drew := free.draw draw
    obtain ⟨goes_on, moves, accounts⟩ | ⟨ended, here, last⟩ := drew.progress
    · obtain ⟨few, last, along, limitless⟩ := ih drew.free goes_on done
      have within := drew.free.inside
      rw [drew.source] at few last along within
      refine ⟨by rw [List.length_cons]; omega, ?_, fun k before => ?_, ?_⟩
      · cases results with
        | nil => cases last
        | cons next results => rwa [List.getLast?_cons_cons]
      · rw [bound_succ draw]
        cases k with
        | zero => exact accounts
        | succ k =>
          rw [bound_succ draw]
          exact along k (Nat.lt_of_succ_lt_succ before)
      · exact List.forall_mem_cons.mpr ⟨drew.limitless, limitless⟩
    · cases rest with
      | nil =>
        refine ⟨Nat.le_add_left _ _, congrArg some last, fun k before => ?_, ?_⟩
        · exact absurd (Nat.lt_of_succ_lt_succ before) (Nat.not_lt_zero k)
        · exact List.forall_mem_cons.mpr ⟨drew.limitless, nofun⟩
      | cons draw' _ => cases (next?_finished ended).symm.trans draw'

/-! ### With a limit -/

/-- The same lexer with a limit. -/
def limited (limit : Nat) (l : Lexer) : Lexer :=
  { l with options := l.options.withTokenLimit limit }

/-- No call looks at the limit. -/
theorem call_limited (inside : l.current ≤ l.source.length) (limit : Nat) :
    (l.limited limit).call = (l.call.1, l.call.2.limited limit) := by
  have inside' : (l.limited limit).current ≤ (l.limited limit).source.length := inside
  have same : (l.limited limit).passed = l.passed.limited limit := by
    show (if (scan l.ahead).len = 0 then _ else _) = _
    unfold passed
    split <;> rfl
  rw [call_eq inside, call_eq inside', same]
  rfl

theorem Free.draw_limited (free : l.Free) (room : l.yielded < limit)
    (ran : Lexer.next? l = .ok (some result) l') :
    Lexer.next? (l.limited limit) = .ok (some result) (l'.limited limit) := by
  have unreached : (l.limited limit).limitReached? = none := by
    show Option.filter (fun n => decide (n ≤ l.yielded)) (some limit) = none
    simp [Option.filter, room]
  have inside : l.counted.current ≤ l.counted.source.length := free.inside
  have called : (l.limited limit).counted.call = _ := call_limited inside limit
  rw [free.next?] at ran
  rw [next?_eq, unreached]
  split at ran
  · cases ran
  rename_i unfinished
  rw [if_neg (show ¬(l.limited limit).finished = true from unfinished)]
  dsimp only
  rw [called]
  cases answered : l.counted.call with
  | mk outcome l₁ =>
    rw [answered] at ran
    cases outcome with
    | error fault => cases ran
    | ok result =>
      cases ran
      rfl

theorem Free.iterates_limited (free : l.Free) (h : Iterates l results l')
    (room : l.yielded + results.length ≤ limit) :
    Iterates (l.limited limit) results (l'.limited limit) := by
  induction h with
  | nil l => exact .nil _
  | cons draw _ ih =>
    have drew := free.draw draw
    rw [List.length_cons] at room
    refine .cons (free.draw_limited (by omega) draw) (ih drew.free ?_)
    rw [drew.yielded]
    omega

/-- Draws without a limit are counted, and leave the rest as it was. -/
theorem Free.counts (free : l.Free) (h : Iterates l results l') :
    l'.yielded = l.yielded + results.length ∧ l'.source = l.source ∧ l'.options = l.options ∧
      l'.limitReported = l.limitReported := by
  induction h with
  | nil l => exact ⟨rfl, rfl, rfl, rfl⟩
  | cons draw _ ih =>
    have drew := free.draw draw
    obtain ⟨yielded, source, options, reported⟩ := ih drew.free
    refine ⟨?_, source.trans drew.source, options.trans drew.options, reported.trans drew.reported⟩
    rw [yielded, drew.yielded, List.length_cons]
    omega

/-- At the limit the iterator reports it, and then ends. -/
theorem iterates_at_limit (going : l.finished = false) (unreported : l.limitReported = false)
    (reached : l.yielded = limit) :
    ∃ m, Iterates (l.limited limit)
        [.error ⟨l.options.fileName, l.current, .tokenLimitExceeded limit⟩,
          .ok { kind := .endOfFile, offset := l.source.length, lexeme := [] }] m ∧
      m.finished = true := by
  have full : (l.limited limit).limitReached? = some limit := by
    show Option.filter (fun n => decide (n ≤ l.yielded)) (some limit) = some limit
    simp [Option.filter, reached]
  have reports : next? (l.limited limit) =
      .ok (some (.error ⟨l.options.fileName, l.current, .tokenLimitExceeded limit⟩))
        { l.limited limit with limitReported := true } := by
    rw [next?_eq, if_neg (show ¬(l.limited limit).finished = true by simp [limited, going]), full]
    dsimp only
    rw [if_neg (show ¬(l.limited limit).limitReported = true by simp [limited, unreported])]
    rfl
  have full' : limitReached? { l.limited limit with limitReported := true } = some limit := full
  have ends : next? { l.limited limit with limitReported := true } =
      .ok (some (.ok { kind := .endOfFile, offset := l.source.length, lexeme := [] }))
        { l.limited limit with limitReported := true, finished := true } := by
    rw [next?_eq, if_neg (by simp [limited, going]), full']
    rfl
  exact ⟨_, .cons reports (.cons ends (.nil _)), rfl⟩

/-- What is more than the limit allows gives way to its report and the end of the file. -/
theorem Free.iterates_cut (free : l.Free) (h : Iterates l results l') (fresh : l.yielded = 0)
    (unreported : l.limitReported = false) (more : limit < results.length) :
    ∃ m, Iterates (l.limited limit)
        (results.take limit ++
          [.error ⟨l.options.fileName, l.bound limit, .tokenLimitExceeded limit⟩,
            .ok { kind := .endOfFile, offset := l.source.length, lexeme := [] }]) m ∧
      m.finished = true := by
  have length : (results.take limit).length = limit := List.length_take_of_le (Nat.le_of_lt more)
  obtain ⟨m, front, back⟩ := Iterates.split (by rwa [List.take_append_drop limit results])
  obtain ⟨yielded, source, options, reported⟩ := free.counts front
  have going : m.finished = false := by
    refine Bool.eq_false_iff.mpr fun done => ?_
    cases rest : results.drop limit with
    | nil => exact absurd (List.drop_eq_nil_iff.mp rest) (Nat.not_le_of_lt more)
    | cons result later =>
      rw [rest] at back
      cases back with
      | cons draw _ => cases (next?_finished done).symm.trans draw
  have reached : m.yielded = limit := by rw [yielded, length, fresh, Nat.zero_add]
  have stops : m.current = l.bound limit := by
    rw [front.drawn, length]
    rfl
  obtain ⟨m', tail, done⟩ := iterates_at_limit going (reported.trans unreported) reached
  rw [options, source, stops] at tail
  have front' : Iterates (l.limited limit) (results.take limit) (m.limited limit) := by
    apply free.iterates_limited front
    rw [length, fresh, Nat.zero_add]
  exact ⟨m', front'.append tail, done⟩

/-! ### Any mixture of uses -/

/-- What a reply has drawn from the iterator. -/
def drew? : Except Fault Reply → Option Result
  | .ok (.drew result?) => result?
  | _ => none

/-- What the iterator yields while a lexer is used. -/
def yieldedBy (l : Lexer) (uses : List Use) : List Result := (l.replies uses).filterMap drew?

/-- The end of the file and the report of the limit leave a mark, which is never taken back. -/
structure Marks (l l' : Lexer) (yielded? : Option Result) : Prop where
  finished : l.finished = true → l'.finished = true ∧ yielded? = none
  reported : l.limitReported = true → l'.limitReported = true
  last : ∀ result, yielded? = some result → Result.isEndOfFile result = true → l'.finished = true
  once : ∀ result, yielded? = some result → result.isLimit = true →
    l.limitReported = false ∧ l'.limitReported = true

theorem marks_of_kept (finished : l'.finished = l.finished)
    (reported : l'.limitReported = l.limitReported) : Marks l l' none :=
  ⟨fun done => ⟨finished.trans done, rfl⟩, fun done => reported.trans done, nofun, nofun⟩

theorem marks_of_ok {use : Use} {reply : Reply} (ran : use.run l = .ok reply l')
    (hand : drew? (.ok reply) = none) (finished : l'.finished = l.finished)
    (reported : l'.limitReported = l.limitReported) :
    Marks l (l.handle use).2 (drew? (l.handle use).1) := by
  rw [handle_of_ok ran, hand]
  exact marks_of_kept finished reported

theorem stepped_marks (l : Lexer) :
    l.stepped.finished = l.finished ∧ l.stepped.limitReported = l.limitReported := by
  unfold stepped
  split
  · exact ⟨rfl, rfl⟩
  · exact ⟨rfl, rfl⟩

theorem call_marks (inside : l.current ≤ l.source.length) :
    l.call.2.finished = l.finished ∧ l.call.2.limitReported = l.limitReported := by
  obtain ⟨previous, passes⟩ := call_passes inside
  rw [passes]
  exact ⟨rfl, rfl⟩

theorem next_marks (inside : l.current ≤ l.source.length) :
    Marks l (l.handle .next).2 (drew? (l.handle .next).1) := by
  have draws := next?_eq l
  rw [handle_next]
  split at draws
  · rw [draws]
    exact marks_of_kept rfl rfl
  rename_i unfinished
  split at draws
  · split at draws
    · rw [draws]
      refine ⟨fun done => absurd done unfinished, id, fun _ _ _ => rfl, ?_⟩
      rintro result ⟨⟩ limit
      cases limit
    · rename_i unreported
      rw [draws]
      refine ⟨fun done => absurd done unfinished, fun _ => rfl, ?_, ?_⟩
      · rintro result ⟨⟩ ends
        cases ends
      · rintro result - -
        exact ⟨Bool.eq_false_iff.mpr unreported, rfl⟩
  · have inside : l.counted.current ≤ l.counted.source.length := inside
    obtain ⟨finished, reported⟩ := call_marks inside
    have limitless (result : Result) : l.counted.call.1 = .ok result → result.isLimit = false :=
      call_not_limit inside
    rw [draws]
    cases called : l.counted.call with
    | mk outcome l' =>
      rw [called] at finished reported limitless
      cases outcome with
      | error fault => exact marks_of_kept finished reported
      | ok result =>
        refine ⟨fun done => absurd done unfinished, fun done => reported.trans done, ?_, ?_⟩
        · rintro _ ⟨⟩ ends
          show (l'.finished || _) = true
          rw [ends, Bool.or_true]
        · rintro _ ⟨⟩ limit
          rw [limitless result rfl] at limit
          cases limit

theorem handle_marks (h : l.Aligned) (use : Use) :
    Marks l (l.handle use).2 (drew? (l.handle use).1) := by
  have inside := h.current.le
  obtain ⟨finished, reported⟩ := stepped_marks l
  cases use with
  | advance => exact marks_of_ok (run_bind_ok (advance_eq inside)) rfl finished reported
  | advanceMatching expected =>
    obtain ⟨taken, ran⟩ := advanceMatching_eq inside expected
    cases taken with
    | true => exact marks_of_ok (run_bind_ok ran) rfl finished reported
    | false => exact marks_of_ok (run_bind_ok ran) rfl rfl rfl
  | rewind =>
    have goes_back : Use.rewind.run l = .ok .moved { l with current := l.previous } := rfl
    exact marks_of_ok goes_back rfl rfl rfl
  | peek delta => exact marks_of_ok (run_peek inside delta) rfl rfl rfl
  | token =>
    obtain ⟨finished, reported⟩ := call_marks inside
    rw [handle_token]
    cases l.call.1 with
    | ok result => exact marks_of_kept finished reported
    | error fault => exact marks_of_kept finished reported
  | next => exact next_marks inside

theorem yieldedBy_cons (use : Use) (uses : List Use) :
    l.yieldedBy (use :: uses) =
      (drew? (l.handle use).1).toList ++ (l.handle use).2.yieldedBy uses := by
  unfold yieldedBy
  rw [replies, List.filterMap_cons]
  cases drew? (l.handle use).1 <;> rfl

theorem yieldedBy_finished (h : l.Aligned) (done : l.finished = true) (uses : List Use) :
    l.yieldedBy uses = [] := by
  induction uses generalizing l with
  | nil => rfl
  | cons use uses ih =>
    obtain ⟨still, nothing⟩ := (handle_marks h use).finished done
    rw [yieldedBy_cons, nothing, ih (handle_handles h use).aligned still]
    rfl

theorem yieldedBy_last (h : l.Aligned) (uses : List Use) {before after : List Result}
    (parts : l.yieldedBy uses = before ++ result :: after)
    (ends : Result.isEndOfFile result = true) : after = [] := by
  induction uses generalizing l before with
  | nil => simp [yieldedBy, replies] at parts
  | cons use uses ih =>
    have aligned := (handle_handles h use).aligned
    have marks := handle_marks h use
    rw [yieldedBy_cons] at parts
    cases drew : drew? (l.handle use).1 with
    | none =>
      rw [drew] at parts
      exact ih aligned parts
    | some first =>
      rw [drew] at parts
      cases before with
      | nil =>
        obtain ⟨rfl, rest⟩ := List.cons.inj parts
        rw [← rest]
        exact yieldedBy_finished aligned (marks.last first drew ends) uses
      | cons _ before => exact ih aligned (List.cons.inj parts).2

theorem yieldedBy_limits (h : l.Aligned) (uses : List Use) :
    (l.yieldedBy uses).countP Result.isLimit ≤ if l.limitReported then 0 else 1 := by
  induction uses generalizing l with
  | nil => exact Nat.zero_le _
  | cons use uses ih =>
    have later := ih (handle_handles h use).aligned
    have marks := handle_marks h use
    have fewer : (if (l.handle use).2.limitReported then 0 else 1) ≤
        if l.limitReported then 0 else 1 := by
      cases reported : l.limitReported with
      | true => simp [marks.reported reported]
      | false => split <;> simp
    rw [yieldedBy_cons, List.countP_append]
    cases drew : drew? (l.handle use).1 with
    | none =>
      show 0 + _ ≤ _
      omega
    | some result =>
      show List.countP Result.isLimit [result] + _ ≤ _
      rw [List.countP_singleton]
      cases limit : result.isLimit with
      | true =>
        obtain ⟨before, now⟩ := marks.once result drew limit
        rw [if_pos now] at later
        rw [if_pos rfl, before, if_neg Bool.false_ne_true]
        omega
      | false =>
        rw [if_neg Bool.false_ne_true]
        omega

/-! ### Both drains -/

/-- Let a lexer without a limit yield some results until it ends. With a limit it yields the same if
they are no more than the limit allows, and else as many as that, the report of the limit where the
last of them stops, and the end of the file. However else it is used between two draws, a lexer
yields nothing after the end of the file and reports its limit at most once. -/
theorem limit_truncates (source : List UInt8) (scratch : Arena) (fileName : String) (limit : Nat) :
    let free : Lexer := { source, scratch, options := .forFile fileName }
    let short : Lexer :=
      { source, scratch, options := (Options.forFile fileName).withTokenLimit limit }
    let fileEnd : Result := .ok { kind := .endOfFile, offset := source.length, lexeme := [] }
    (scratch.Usable → ∃ results l, drain free = .ok results l) ∧
    (∀ results l, drain free = .ok results l →
      (∀ k, next? (l.drawn k) = .ok none (l.drawn k)) ∧
      results.getLast? = some fileEnd ∧
      (∀ result ∈ results, result.isLimit = false) ∧
      free.bound 0 = 0 ∧
      (∀ k (before : k + 1 < results.length),
        Accounts source (free.bound k) (free.bound (k + 1)) (.ok results[k])) ∧
      ∃ m, drain short =
          .ok
            (if results.length ≤ limit then results
              else
                results.take limit ++
                  [.error ⟨fileName, free.bound limit, .tokenLimitExceeded limit⟩, fileEnd])
            m ∧
        ∀ k, next? (m.drawn k) = .ok none (m.drawn k)) ∧
    ∀ options uses,
      let used : Lexer := { source, scratch, options }
      (∀ before result after, used.yieldedBy uses = before ++ result :: after →
        Result.isEndOfFile result = true → after = []) ∧
      (used.yieldedBy uses).countP Result.isLimit ≤ 1 := by
  intro free short fileEnd
  have inside : free.current ≤ free.source.length := Nat.zero_le _
  have ended {l : Lexer} (done : l.finished = true) (k : Nat) :
      next? (l.drawn k) = .ok none (l.drawn k) := by
    rw [drawn_finished done]
    exact next?_finished done
  refine ⟨fun usable => ?_, fun results l ran => ?_, fun options uses => ?_⟩
  · obtain ⟨results, l, ran, -⟩ := collect_onward (source.length + 2) inside usable
    exact ⟨results, l, ran⟩
  · have unlimited : free.Free := ⟨inside, rfl⟩
    have iterates := iterates_of_collect ran
    have done := drain_finishes ran inside
    obtain ⟨few, last, along, limitless⟩ := unlimited.drained iterates rfl done
    refine ⟨ended done, ?_, limitless, rfl, along, ?_⟩
    · obtain ⟨result, shown, same⟩ := Option.map_eq_some_iff.mp last
      rw [shown, Except.ok.inj same]
    have enough : results.length ≤ source.length + 1 := few
    split
    · rename_i whole
      have within : results.length ≤ source.length + 2 := by omega
      have room : free.yielded + results.length ≤ limit := by rwa [Nat.zero_add]
      have all := unlimited.iterates_limited iterates room
      exact ⟨_, all.collect done within, ended done⟩
    · rename_i more
      have beyond : limit < results.length := Nat.lt_of_not_le more
      obtain ⟨m, cut, done⟩ := unlimited.iterates_cut iterates rfl rfl beyond
      refine ⟨m, cut.collect done ?_, ended done⟩
      rw [List.length_append, List.length_take_of_le (Nat.le_of_lt beyond)]
      show limit + 2 ≤ source.length + 2
      omega
  · have starts : Aligned { source, scratch, options } := aligned_new source scratch options
    exact ⟨fun _ _ _ => yieldedBy_last starts uses, yieldedBy_limits starts uses⟩

/-- `a 1_0` yields four results, of which a limit of two leaves the word and the blank. A caller that
goes back in between draws the word again, which counts. -/
theorem limit_truncates_two :
    let source : List UInt8 := [0x61, 0x20, 0x31, 0x5F, 0x30]
    let scratch : Arena :=
      { id := 1, address := 4096, data := List.replicate 32 7, offset := 3, last? := some 0 }
    let short : Lexer := { source, scratch, options := (Options.forFile "a").withTokenLimit 2 }
    let word : Result := .ok { kind := .literal .identifier, offset := 0, lexeme := [0x61] }
    let blank : Result := .ok { kind := .trivia .whitespace, offset := 1, lexeme := [0x20] }
    let fileEnd : Result := .ok { kind := .endOfFile, offset := 5, lexeme := [] }
    (∃ m, drain short =
      .ok [word, blank, .error ⟨"a", 2, .tokenLimitExceeded 2⟩, fileEnd] m) ∧
    short.yieldedBy [.next, .rewind, .next, .next, .advance, .next, .rewind, .next] =
      [word, word, .error ⟨"a", 1, .tokenLimitExceeded 2⟩, fileEnd] ∧
    (short.yieldedBy [.next, .rewind, .next, .next, .advance, .next, .rewind, .next]).countP
      Result.isLimit ≤ 1 := by
  intro source scratch short word blank fileEnd
  have usable : scratch.Usable := ⟨by decide, by decide, by decide⟩
  obtain ⟨runs, cuts, mixes⟩ := limit_truncates source scratch "a" 2
  obtain ⟨results, l, ran⟩ := runs usable
  obtain ⟨-, -, -, -, -, m, cut, -⟩ := cuts results l ran
  have shown : (drain.run' { source, scratch, options := .forFile "a" }).map
      (fun results => (results.length, results.take 2)) = some (4, [word, blank]) := by
    decide +kernel
  rw [run'_of_ok ran, Option.map_some, Option.some.injEq, Prod.mk.injEq] at shown
  have stops : Lexer.bound { source, scratch, options := .forFile "a" } 2 = 2 := by decide +kernel
  rw [shown.1, if_neg (by decide), shown.2, stops] at cut
  exact ⟨⟨m, cut⟩, by decide +kernel, (mixes _ _).2⟩

end FrontEnd.Lexer
