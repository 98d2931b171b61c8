import FrontEnd.Proofs.Lexer.Iterator

/-!
# The scratch arena is handed back

`scratch_handed_back` holds of any mixture of calls to a lexer and to its iterator: none faults, and
the arena is what it was but for bytes that are not in use.
-/

namespace FrontEnd.Lexer

open Memory (Arena)

variable {l l' : Lexer}

/-! ### What calls leave -/

/-- A lexer that has gone on over the same source and left its scratch arena untouched. -/
structure Onward (l l' : Lexer) : Prop where
  source : l'.source = l.source
  inside : l'.current ≤ l.source.length
  untouched : l.scratch.Untouched l'.scratch

theorem Onward.refl (inside : l.current ≤ l.source.length) : Onward l l :=
  ⟨rfl, inside, .refl _⟩

theorem Onward.le (h : Onward l l') : l'.current ≤ l'.source.length := by
  rw [h.source]
  exact h.inside

theorem Onward.trans {l'' : Lexer} (first : Onward l l') (second : Onward l' l'') : Onward l l'' := by
  refine ⟨second.source.trans first.source, ?_, first.untouched.trans second.untouched⟩
  rw [← first.source]
  exact second.inside

theorem call_onward (inside : l.current ≤ l.source.length) (usable : l.scratch.Usable) :
    ∃ result l', l.call = (.ok result, l') ∧ Onward l l' := by
  rcases Nat.lt_or_eq_of_le inside with ahead | done
  · obtain ⟨source, -, le, -, untouched, answers⟩ := call_takes ahead
    obtain ⟨result, answer⟩ := answers usable
    exact ⟨result, _, Prod.ext answer rfl, source, le, untouched usable⟩
  · exact ⟨_, l, call_at_end done, .refl inside⟩

theorem next?_onward (inside : l.current ≤ l.source.length) (usable : l.scratch.Usable) :
    ∃ drawn l', next? l = .ok drawn l' ∧ Onward l l' := by
  rw [next?_eq]
  split
  · exact ⟨_, l, rfl, .refl inside⟩
  split
  · split
    · exact ⟨_, _, rfl, rfl, inside, .refl _⟩
    · exact ⟨_, _, rfl, rfl, inside, .refl _⟩
  · obtain ⟨result, l', answered, onward⟩ := call_onward (l := l.counted) inside usable
    rw [answered]
    exact ⟨_, _, rfl, onward.source, onward.inside, onward.untouched⟩

theorem collect_onward (count : Nat) (inside : l.current ≤ l.source.length)
    (usable : l.scratch.Usable) : ∃ results l', collect count l = .ok results l' ∧ Onward l l' := by
  induction count generalizing l with
  | zero => exact ⟨[], l, rfl, .refl inside⟩
  | succ count ih =>
    obtain ⟨draw, l₁, ran, first⟩ := next?_onward inside usable
    rw [collect, run_bind_ok ran]
    cases draw with
    | none => exact ⟨[], l₁, rfl, first⟩
    | some result =>
      obtain ⟨results, l₂, rest, second⟩ := ih first.le (first.untouched.usable usable)
      dsimp only
      rw [run_bind_ok rest]
      exact ⟨result :: results, l₂, rfl, first.trans second⟩

/-! ### Any mixture of calls -/

/-- A call to a lexer or to its iterator. -/
inductive Ask where
  | token
  | next
  deriving DecidableEq, Repr

/-- Makes the call. A token always comes. -/
def Ask.run : Ask → LexerM (Option Result)
  | token => return some (← nextToken)
  | next => next?

theorem Ask.run_onward (ask : Ask) (inside : l.current ≤ l.source.length)
    (usable : l.scratch.Usable) : ∃ answer l', ask.run l = .ok answer l' ∧ Onward l l' := by
  cases ask with
  | token =>
    obtain ⟨result, l', answered, onward⟩ := call_onward inside usable
    have ran : nextToken l = .ok result l' := nextToken_eq_ok_iff.mpr answered
    exact ⟨some result, l', run_bind_ok ran, onward⟩
  | next => exact next?_onward inside usable

theorem asks_onward (asks : List Ask) (inside : l.current ≤ l.source.length)
    (usable : l.scratch.Usable) :
    ∃ answers l', asks.mapM Ask.run l = .ok answers l' ∧ Onward l l' := by
  induction asks generalizing l with
  | nil => exact ⟨[], l, rfl, .refl inside⟩
  | cons ask asks ih =>
    obtain ⟨answer, l', ran, first⟩ := ask.run_onward inside usable
    obtain ⟨answers, l'', rest, second⟩ := ih first.le (first.untouched.usable usable)
    refine ⟨answer :: answers, l'', ?_, first.trans second⟩
    rw [List.mapM_cons, run_bind_ok ran, run_bind_ok rest]
    rfl

/-- However often a lexer and its iterator are called, whatever they answer, nothing faults and the
scratch arena comes back with the same identity, offset, last block and regions, and with the same
bytes where it is in use. -/
theorem scratch_handed_back (source : List UInt8) (options : Options) {scratch : Arena}
    (usable : scratch.Usable) (asks : List Ask) :
    ∃ answers l', asks.mapM Ask.run { source, scratch, options } = .ok answers l' ∧
      ∃ data, l'.scratch = { scratch with data } ∧ data.length = scratch.data.length ∧
        data.take scratch.offset = scratch.data.take scratch.offset := by
  obtain ⟨answers, l', ran, onward⟩ :=
    asks_onward (l := { source, scratch, options }) asks (Nat.zero_le _) usable
  exact ⟨answers, l', ran, onward.untouched⟩

/-- `1_0 1_2_3_4_5` over an arena with a block and open regions: the first numeral is staged over
bytes that are not in use, and the second does not fit. -/
theorem scratch_handed_back_full :
    let source : List UInt8 :=
      [0x31, 0x5F, 0x30, 0x20, 0x31, 0x5F, 0x32, 0x5F, 0x33, 0x5F, 0x34, 0x5F, 0x35]
    let scratch : Arena :=
      { id := 1, address := 4096, data := List.replicate 20 7, offset := 3, last? := some 0
        regions := 2 }
    ∃ answers l', [Ask.next, .token, .next, .next, .token].mapM Ask.run { source, scratch } =
        .ok answers l' ∧
      l'.scratch.offset = 3 ∧ l'.scratch.last? = some 0 ∧ l'.scratch.regions = 2 ∧
      l'.scratch.data.take 3 = [7, 7, 7] ∧ l'.scratch ≠ scratch ∧
      answers[2]? = some (some (.error
        ⟨"<No file>", 4, .scratchExhausted (.outOfMemory 5 17)⟩)) := by
  intro source scratch
  have usable : scratch.Usable := ⟨by decide, by decide, by decide⟩
  obtain ⟨answers, l', ran, data, same, -, below⟩ :=
    scratch_handed_back source {} usable [.next, .token, .next, .next, .token]
  have staged : (match [Ask.next, .token, .next, .next, .token].mapM Ask.run { source, scratch } with
      | .ok answers l' => (answers[2]?, l'.scratch.data)
      | .error _ _ => (none, [])) =
    (some (some (.error ⟨"<No file>", 4, .scratchExhausted (.outOfMemory 5 17)⟩)),
      List.replicate 16 7 ++ [0x31, 0x30, 7, 7]) := by decide +kernel
  rw [ran, Prod.mk.injEq] at staged
  refine ⟨answers, l', ran, by rw [same], by rw [same], by rw [same], ?_, ?_, staged.1⟩
  · rw [same]
    exact below
  · intro untouched
    rw [untouched] at staged
    exact absurd staged.2 (by decide)

end FrontEnd.Lexer
