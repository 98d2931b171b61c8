import FrontEnd.Proofs.Lexer.Conversion
import FrontEnd.Proofs.Lexer.Iterator

/-!
# When the scratch arena is exhausted

What a draw from the iterator comes to over an arena is the same over every arena, unless the digits
of a numeral with separators do not fit (`exists_uniform`).
-/

namespace FrontEnd

namespace Memory.Arena

/-- An arena in bounds, that machine words can address with an alignment to spare. Whether it can
count one more region is left open. -/
structure Placed (a : Arena) : Prop where
  offset_le : a.offset ≤ a.capacity
  addressable : a.address + a.capacity + minAlignment ≤ wordLimit

/-- There are `n` bytes left at the next place where a block can start. -/
def HasRoom (a : Arena) (n : Nat) : Prop :=
  alignUp (a.address + a.offset) minAlignment - (a.address + a.offset) + n ≤ a.remaining

instance (a : Arena) (n : Nat) : Decidable (a.HasRoom n) := inferInstanceAs (Decidable (_ ≤ _))

variable {a a' : Arena} {n : Nat}

theorem Placed.usable (placed : a.Placed) (countable : a.regions.toNat + 1 < UInt32.size) :
    a.Usable :=
  ⟨placed.offset_le, placed.addressable, countable⟩

theorem Alike.placed (alike : a.Alike a') (placed : a.Placed) : a'.Placed := by
  have capacity := alike.capacity
  obtain ⟨data, rfl, -⟩ := alike
  obtain ⟨inside, addressable⟩ := placed
  exact ⟨by rw [capacity]; exact inside, by rw [capacity]; exact addressable⟩

theorem Alike.hasRoom_iff (alike : a.Alike a') : a'.HasRoom n ↔ a.HasRoom n := by
  have capacity := alike.capacity
  obtain ⟨data, rfl, -⟩ := alike
  unfold HasRoom remaining
  rw [capacity]

theorem inRegion_stash_answer (usable : a.Usable) (kept : List UInt8) :
    ∃ a', inRegion (fun _ => stash kept) a = .ok
      (if a.HasRoom kept.length then .ok kept
        else .error (.outOfMemory kept.length a.remaining)) a' := by
  obtain ⟨padding, skipped, outcome⟩ := inRegion_stash_cases usable kept
  obtain ⟨inside, addressable, -⟩ := usable
  have some_room : a.HasRoom kept.length ↔ padding + kept.length ≤ a.remaining := by
    rw [(padding_eq_ok_iff.mp skipped).2]
    rfl
  have small : a.remaining < wordLimit := by
    unfold minAlignment at addressable
    unfold remaining
    omega
  rcases outcome with ⟨full, refused⟩ | ⟨fits, stored⟩
  · have none_left : ¬a.HasRoom kept.length := by
      rw [some_room]
      omega
    rw [if_neg none_left]
    exact ⟨a, refused⟩
  · have some_left : a.HasRoom kept.length := by
      rw [some_room]
      unfold remaining
      omega
    rw [if_pos some_left]
    exact ⟨_, stored⟩

end Memory.Arena

namespace Lexer

open Buffer (window)
open Memory (AllocError Arena)

/-- A numeral that has to be staged and does not fit an arena. -/
def Unstageable (a : Arena) (lexeme : List UInt8) : Prop :=
  ∃ digits, Converts lexeme digits ∧ separator ∈ digits ∧ ¬a.HasRoom (strip digits).length

/-- An error at an offset because the scratch arena is exhausted. -/
def Exhausted (offset : Nat) (result : Result) : Prop :=
  ∃ file refusal, result = .error ⟨file, offset, .scratchExhausted refusal⟩

variable {l l' : Lexer} {a : Arena} {lexeme digits : List UInt8} {shape : Shape} {n : Numeral}
  {r : Reading} {result : Result} {offset : Nat} {answer : Except AllocError (List UInt8)}

/-! ### Staging -/

/-- Digits with separators are refused exactly if there is no room for the others. -/
theorem staged_cases (placed : a.Placed) (came : (staged a digits).1 = .ok answer) :
    ((separator ∈ digits ∧ ¬a.HasRoom (strip digits).length) ∧ ∃ refusal, answer = .error refusal) ∨
    (¬(separator ∈ digits ∧ ¬a.HasRoom (strip digits).length) ∧ answer = .ok (strip digits)) := by
  by_cases separated : separator ∈ digits
  · have ran := staged_eq_ok separated came
    obtain ⟨countable, -⟩ := Arena.exists_of_inRegion ran
    obtain ⟨_, answers⟩ := Arena.inRegion_stash_answer (placed.usable countable) (strip digits)
    rw [ran] at answers
    by_cases room : a.HasRoom (strip digits).length
    · rw [if_pos room] at answers
      cases answers
      exact Or.inr ⟨fun full => full.2 room, rfl⟩
    · rw [if_neg room] at answers
      cases answers
      exact Or.inl ⟨⟨separated, room⟩, _, rfl⟩
  · rw [staged_plain separated] at came
    cases came
    exact Or.inr ⟨fun full => separated full.1, by rw [strip_eq_self separated]⟩

theorem not_unstageable_nil : ¬Unstageable a [] :=
  fun ⟨_, converts, _⟩ => not_converts_nil converts

/-! ### One call -/

theorem not_exhausted_evaluate (found : shape.numeral? = some n) (text : List UInt8) (index : Nat)
    (refusal : AllocError) : n.evaluate text ≠ .error (index, .scratchExhausted refusal) := by
  unfold Numeral.evaluate
  split
  · nofun
  · cases shape <;> cases found <;> nofun

theorem Numeral.readIn_cases (placed : a.Placed) (converts : Converts lexeme (lexeme.drop n.mark))
    (read : (n.readIn a lexeme).1 = .ok r) :
    (Unstageable a lexeme ∧ ∃ refusal, r = .error (0, .scratchExhausted refusal)) ∨
    (¬Unstageable a lexeme ∧ r = n.evaluate (strip (lexeme.drop n.mark))) := by
  obtain ⟨answer, came, rfl⟩ := Numeral.readIn_eq_ok_iff.mp read
  obtain ⟨full, refusal, rfl⟩ | ⟨held, rfl⟩ := staged_cases placed came
  · exact Or.inl ⟨⟨_, converts, full⟩, refusal, rfl⟩
  · refine Or.inr ⟨?_, rfl⟩
    rintro ⟨digits, converts', full⟩
    obtain rfl := converts'.unique converts
    exact held full

/-- There is one reading over all arenas, but for numerals that do not fit. -/
theorem reading_free (bytes : List UInt8) :
    ∃ free : Reading, (∀ index refusal, free ≠ .error (index, .scratchExhausted refusal)) ∧
      ∀ {a r}, a.Placed → (reading a bytes).1 = .ok r →
        (Unstageable a (bytes.take (scan bytes).len) ∧
          ∃ refusal, r = .error (0, .scratchExhausted refusal)) ∨
        (¬Unstageable a (bytes.take (scan bytes).len) ∧ r = free) := by
  cases found : (scan bytes).shape.numeral? with
  | some n =>
    have spells : Spells (scan bytes).shape (bytes.take (scan bytes).len) := by
      obtain none_read | spells := scan_spelled bytes
      · cases found.symm.trans none_read.numeral?_eq_none
      · exact spells
    refine ⟨n.evaluate (strip ((bytes.take (scan bytes).len).drop n.mark)),
      not_exhausted_evaluate found _, fun placed read => ?_⟩
    rw [reading_numeral found] at read
    exact Numeral.readIn_cases placed ⟨_, n, spells, found, rfl⟩ read
  | none =>
    -- nothing but a numeral takes bytes that spell one
    have no_numeral (a : Arena) : ¬Unstageable a (bytes.take (scan bytes).len) := by
      rintro ⟨digits, ⟨shape, n, spells, found', -⟩, -⟩
      rw [scan_shape_of_spells spells, found'] at found
      cases found
    obtain ⟨free, same, never⟩ : ∃ free, (∀ a, reading a bytes = (.ok free, a)) ∧
        ∀ index refusal, free ≠ .error (index, .scratchExhausted refusal) := by
      unfold reading
      cases shape : (scan bytes).shape with
      | rejected cause =>
        refine ⟨_, fun a => rfl, ?_⟩
        rintro index refusal exhausted
        cases exhausted
        rcases scan_rejects shape with other | other | other <;> cases other
      | based | decimal | fraction =>
        rw [shape] at found
        cases found
      | _ => exact ⟨_, fun a => rfl, nofun⟩
    refine ⟨free, never, fun {a r} _ read => Or.inr ⟨no_numeral a, ?_⟩⟩
    rw [same] at read
    exact (Except.ok.inj read).symm

/-- What a result over an arena comes to, where over one with room for everything it is `free`. -/
def Settled (a : Arena) (lexeme : List UInt8) (start : Nat) (free result : Result) : Prop :=
  (Unstageable a lexeme ∧ Exhausted start result) ∨ (¬Unstageable a lexeme ∧ result = free)

theorem call_free (inside : l.current ≤ l.source.length) :
    ∃ free : Result, (∀ offset, ¬Exhausted offset free) ∧
      ∀ {a result l'}, a.Placed → call { l with scratch := a } = (.ok result, l') →
        (∃ scratch, l' = { l.passed with scratch } ∧ a.Alike scratch) ∧
        Settled a (l.ahead.take (scan l.ahead).len) l.current free result := by
  obtain ⟨free, never, readings⟩ := reading_free l.ahead
  refine ⟨present l.options.fileName l.current (l.ahead.take (scan l.ahead).len) free, ?_, ?_⟩
  · rintro offset ⟨file, refusal, exhausted⟩
    match free, exhausted with
    | .error (index, .scratchExhausted refusal), _ => exact never index refusal rfl
  · intro a result l' placed called
    have same : passed { l with scratch := a } = { l.passed with scratch := a } := by
      unfold passed
      show (if (scan l.ahead).len = 0 then _ else _) = _
      split <;> rfl
    rw [call_eq (l := { l with scratch := a }) inside, Prod.mk.injEq, same] at called
    obtain ⟨answers, rfl⟩ := called
    obtain ⟨r, read, rfl⟩ := reading_of_answer answers
    refine ⟨⟨_, rfl, reading_keeps read⟩, ?_⟩
    obtain ⟨full, refusal, rfl⟩ | ⟨held, rfl⟩ := readings placed read
    · exact Or.inl ⟨full, _, refusal, rfl⟩
    · exact Or.inr ⟨held, rfl⟩

/-! ### One draw -/

/-- Whatever the arena, a draw comes to `free` and leaves `passes`, but for a numeral that does not
fit and for the contents of the arena. -/
structure Uniform (l : Lexer) (free : Result) (passes : Lexer) : Prop where
  never : ∀ offset, ¬Exhausted offset free
  source : passes.source = l.source
  le : l.current ≤ passes.current
  inside : passes.current ≤ l.source.length
  draws : ∀ {a result l'}, a.Placed → next? { l with scratch := a } = .ok (some result) l' →
    (∃ scratch, l' = { passes with scratch } ∧ a.Alike scratch) ∧
      Settled a (window l.source l.current (passes.current - l.current)) l.current free result

theorem settled_nothing (a : Arena) (l : Lexer) (result : Result) :
    Settled a (window l.source l.current (l.current - l.current)) l.current result result := by
  rw [Nat.sub_self]
  exact Or.inr ⟨not_unstageable_nil, rfl⟩

theorem exists_uniform_at_limit (inside : l.current ≤ l.source.length) (going : ¬l.finished = true)
    {limit : Nat} (reached : l.limitReached? = some limit) : ∃ free passes, l.Uniform free passes := by
  have draws (a : Arena) := next?_eq { l with scratch := a }
  have reached (a : Arena) : limitReached? { l with scratch := a } = some limit := reached
  simp only [if_neg going, reached] at draws
  by_cases reported : l.limitReported = true
  · refine ⟨.ok { kind := .endOfFile, offset := l.source.length, lexeme := [] },
      { l with finished := true }, nofun, rfl, Nat.le_refl _, inside, fun {a _ _} _ ran => ?_⟩
    rw [draws, if_pos reported] at ran
    cases ran
    exact ⟨⟨a, rfl, .refl a⟩, settled_nothing a l _⟩
  · refine ⟨.error ⟨l.options.fileName, l.current, .tokenLimitExceeded limit⟩,
      { l with limitReported := true }, ?_, rfl, Nat.le_refl _, inside, fun {a _ _} _ ran => ?_⟩
    · rintro offset ⟨file, refusal, exhausted⟩
      cases exhausted
    · rw [draws, if_neg reported] at ran
      cases ran
      exact ⟨⟨a, rfl, .refl a⟩, settled_nothing a l _⟩

theorem exists_uniform_of_call (inside : l.current ≤ l.source.length) (going : ¬l.finished = true)
    (unreached : l.limitReached? = none) : ∃ free passes, l.Uniform free passes := by
  have draws (a : Arena) : next? { l with scratch := a } =
      yields (call { l.counted with scratch := a }) := by
    have unreached : limitReached? { l with scratch := a } = none := unreached
    rw [next?_eq, if_neg going, unreached]
    rfl
  obtain ⟨free, never, calls⟩ := call_free (l := l.counted) inside
  have current : l.counted.passed.current = l.current + (scan l.ahead).len := current_passed _
  have within : (scan l.ahead).len ≤ l.source.length - l.current :=
    Nat.le_trans (scan_len_le l.ahead) (Nat.le_of_eq List.length_drop)
  refine ⟨free, { l.counted.passed with
      finished := l.counted.passed.finished || decide (l.current = l.source.length) },
    never, source_passed l.counted, ?_, ?_, fun {a result l'} placed ran => ?_⟩
  · dsimp only
    omega
  · dsimp only
    omega
  · rw [draws] at ran
    cases called : call { l.counted with scratch := a } with
    | mk outcome l₁ =>
      rw [called] at ran
      cases outcome with
      | error fault => cases ran
      | ok result' =>
        cases ran
        obtain ⟨⟨scratch, rfl, alike⟩, settled⟩ := calls placed called
        have ended := isEndOfFile_of_call (l := { l.counted with scratch := a }) inside called
        refine ⟨⟨scratch, by rw [ended]; rfl, alike⟩, ?_⟩
        dsimp only
        rw [current, Nat.add_sub_cancel_left]
        exact settled

/-- A draw that yields a result looks at the arena for nothing but room for a numeral. -/
theorem exists_uniform (inside : l.current ≤ l.source.length) :
    ∃ free passes, l.Uniform free passes := by
  by_cases done : l.finished = true
  · refine ⟨.ok { kind := .endOfFile, offset := 0, lexeme := [] }, l, nofun, rfl, Nat.le_refl _,
      inside, fun {a result l'} _ ran => ?_⟩
    rw [next?_eq, if_pos done] at ran
    cases ran
  · cases reached : l.limitReached? with
    | some limit => exact exists_uniform_at_limit inside done reached
    | none => exact exists_uniform_of_call inside done reached

theorem Settled.exhausted_iff {start : Nat} {free : Result} (never : ∀ offset, ¬Exhausted offset free)
    (settled : Settled a lexeme start free result) :
    Exhausted offset result ↔ offset = start ∧ Unstageable a lexeme := by
  constructor
  · intro exhausted
    obtain ⟨full, file, refusal, rfl⟩ | ⟨held, rfl⟩ := settled
    · obtain ⟨file', refusal', same⟩ := exhausted
      cases same
      exact ⟨rfl, full⟩
    · exact absurd exhausted (never offset)
  · rintro ⟨rfl, full⟩
    obtain ⟨-, exhausted⟩ | ⟨held, -⟩ := settled
    · exact exhausted
    · exact absurd full held

end Lexer

end FrontEnd
