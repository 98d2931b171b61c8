import FrontEnd.Proofs.Lexer.Tiling

/-!
# What a call answers

A call looks at the bytes ahead and, for a numeral with separators, at the scratch arena, and at
nothing else. `call_eq` says so: the answer is `reading`, put where the lexer stands.
-/

namespace FrontEnd.Lexer

open Buffer (window)
open Memory (AllocError Arena)

/-! ### Numerals -/

/-- A numeral without its separators. -/
def strip (digits : List UInt8) : List UInt8 := digits.filter (· != separator)

/-- What staging digits over an arena comes to, and the arena that it leaves. -/
def staged (a : Arena) (digits : List UInt8) :
    Except Fault (Except AllocError (List UInt8)) × Arena :=
  if separator ∈ digits then
    match Arena.inRegion (fun _ => Arena.stash (strip digits)) a with
    | .ok answer a' => (.ok answer, a')
    | .error fault a' => (.error fault, a')
  else (.ok (.ok digits), a)

/-- How a numeral is read. -/
structure Numeral where
  kind : Literal
  /-- The bytes in front of the digits. -/
  mark : Nat
  read? : List UInt8 → Option TokenValue
  failure : Cause

namespace Numeral

/-- The numeral of an integer, behind `mark` bytes that select the base. -/
def integer (base mark : Nat) : Numeral :=
  ⟨.integer, mark, fun text => (Number.signed64? base text).map .integer, .integerOverflow⟩

/-- The numeral of a real. -/
def real : Numeral :=
  ⟨.real, 0, fun text => (Number.Binary64.ofText? text).map .real, .malformedReal⟩

/-- What digits without separators read as. -/
def evaluate (n : Numeral) (text : List UInt8) : Reading :=
  match n.read? text with
  | some value => .ok (.literal n.kind, value)
  | none => .error (0, n.failure)

/-- What staged digits read as. -/
def finish (n : Numeral) : Except AllocError (List UInt8) → Reading
  | .ok text => n.evaluate text
  | .error refusal => .error (0, .scratchExhausted refusal)

/-- What a numeral reads as over an arena, and the arena after it. -/
def readIn (n : Numeral) (a : Arena) (lexeme : List UInt8) : Except Fault Reading × Arena :=
  let (answer, a') := staged a (lexeme.drop n.mark)
  (answer.map n.finish, a')

end Numeral

/-- How a shape is read, if it is that of a numeral. -/
def Shape.numeral? : Shape → Option Numeral
  | .based base => some (.integer base 2)
  | .decimal => some (.integer 10 0)
  | .fraction => some .real
  | _ => none

/-! ### Answers -/

/-- What a shape of `len` of the bytes ahead reads as over an arena, and the arena after it. Offsets
count from the front of the shape. -/
def Shape.readIn (a : Arena) (ahead : List UInt8) (len : Nat) : Shape → Except Fault Reading × Arena
  | .plain kind => (.ok (.ok (kind, .none)), a)
  | .quoted => (.ok (.ok (.literal .string, .text (window ahead 1 (len - 2)))), a)
  | .based base => (Numeral.integer base 2).readIn a (ahead.take len)
  | .decimal => (Numeral.integer 10 0).readIn a (ahead.take len)
  | .fraction => Numeral.real.readIn a (ahead.take len)
  | .badDigit index base =>
    (.ok (.error (index, .invalidDigit (Utf8.decode (ahead.drop index)).char base)), a)
  | .rejected cause => (.ok (.error (0, cause)), a)

/-- What stands at the front of the bytes ahead reads as over an arena, and the arena after it. -/
def reading (a : Arena) (ahead : List UInt8) : Except Fault Reading × Arena :=
  (scan ahead).shape.readIn a ahead (scan ahead).len

/-- A reading as a result at an offset. -/
def present (fileName : String) (start : Nat) (lexeme : List UInt8) : Reading → Result
  | .ok (kind, value) => .ok { kind, offset := start, lexeme, value }
  | .error (index, cause) => .error ⟨fileName, start + index, cause⟩

/-- An error of a sort and for a cause, at an offset of a file. -/
structure Reports (fileName : String) (start : Nat) (sort : ErrorKind) (cause : Cause) (e : Error) :
    Prop where
  same : e = ⟨fileName, start, cause⟩
  kind : e.kind = sort

/-- A reading whose offset counts from `start` bytes before. -/
def located (start : Nat) : Reading → Reading
  | .ok read => .ok read
  | .error (index, cause) => .error (start + index, cause)

/-- What comes of a computation on the scratch arena, on the lexer. -/
def outcomeIn {α : Type} (l : Lexer) : Except Fault α × Arena → EStateM.Result Fault Lexer α
  | (.ok v, scratch) => .ok v { l with scratch }
  | (.error fault, scratch) => .error fault { l with scratch }

/-- The bytes ahead. -/
def ahead (l : Lexer) : List UInt8 := l.source.drop l.current

/-- The lexer after what stands ahead of it. -/
def passed (l : Lexer) : Lexer :=
  if (scan l.ahead).len = 0 then l
  else
    { l with
      previous := l.current + Utf8.lastStart (l.ahead.take (scan l.ahead).len)
      current := l.current + (scan l.ahead).len }

variable {l l' : Lexer} {start len : Nat} {shape : Shape} {n : Numeral} {a : Arena}
  {bytes digits lexeme : List UInt8} {r : Reading} {result : Result}

theorem strip_eq_self (plain : separator ∉ digits) : strip digits = digits :=
  List.filter_eq_self.mpr fun b member => by simpa using ne_of_mem_of_not_mem member plain

theorem staged_plain (plain : separator ∉ digits) (a : Arena) :
    staged a digits = (.ok (.ok digits), a) := if_neg plain

theorem staged_eq_ok {answer : Except AllocError (List UInt8)} (separated : separator ∈ digits)
    (came : (staged a digits).1 = .ok answer) :
    Arena.inRegion (fun _ => Arena.stash (strip digits)) a = .ok answer (staged a digits).2 := by
  unfold staged at came ⊢
  rw [if_pos separated] at came ⊢
  cases ran : Arena.inRegion (fun _ => Arena.stash (strip digits)) a with
  | error fault a' =>
    rw [ran] at came
    cases came
  | ok answer a' =>
    rw [ran] at came
    cases came
    rfl

theorem staged_eq_error {fault : Fault} (came : (staged a digits).1 = .error fault) :
    Arena.inRegion (fun _ => Arena.stash (strip digits)) a = .error fault (staged a digits).2 := by
  by_cases separated : separator ∈ digits
  · unfold staged at came ⊢
    rw [if_pos separated] at came ⊢
    cases ran : Arena.inRegion (fun _ => Arena.stash (strip digits)) a with
    | error fault a' =>
      rw [ran] at came
      cases came
      rfl
    | ok answer a' =>
      rw [ran] at came
      cases came
  · rw [staged_plain separated] at came
    cases came

theorem Numeral.readIn_eq_ok_iff :
    (n.readIn a lexeme).1 = .ok r ↔
      ∃ answer, (staged a (lexeme.drop n.mark)).1 = .ok answer ∧ n.finish answer = r := by
  show (staged a (lexeme.drop n.mark)).1.map n.finish = .ok r ↔ _
  cases (staged a (lexeme.drop n.mark)).1 <;> simp [Except.map]

theorem Shape.readIn_numeral (h : shape.numeral? = some n) :
    shape.readIn a bytes len = n.readIn a (bytes.take len) := by
  cases shape <;> cases h <;> rfl

theorem reading_numeral (found : (scan bytes).shape.numeral? = some n) (a : Arena) :
    reading a bytes = n.readIn a (bytes.take (scan bytes).len) :=
  Shape.readIn_numeral found

/-- Only numerals have to do with the arena. -/
theorem reading_cases (bytes : List UInt8) :
    (∃ n : Numeral, ∀ a, reading a bytes = n.readIn a (bytes.take (scan bytes).len)) ∨
    ∃ r, ∀ a, reading a bytes = (.ok r, a) := by
  cases found : (scan bytes).shape.numeral? with
  | some n => exact Or.inl ⟨n, reading_numeral found⟩
  | none =>
    right
    unfold reading
    cases shape : (scan bytes).shape <;> rw [shape] at found <;> cases found <;>
      exact ⟨_, fun a => rfl⟩

/-! ### Reading a shape -/

theorem stage_eq (digits : List UInt8) : stage digits l = l.outcomeIn (staged l.scratch digits) := by
  unfold stage staged
  by_cases separated : separator ∈ digits
  · rw [if_pos separated, if_pos separated]
    show onScratch (Arena.inRegion fun _ => Arena.stash (strip digits)) l = _
    unfold onScratch
    cases Arena.inRegion (fun _ => Arena.stash (strip digits)) l.scratch <;> rfl
  · rw [if_neg separated, if_neg separated]
    rfl

theorem readNumber_eq (room : n.mark ≤ len) (inside : start + len ≤ l.source.length) :
    readNumber n.kind n.read? n.failure start (start + n.mark) (start + len) l =
      l.outcomeIn (Prod.map (Except.map (located start)) id
        (n.readIn l.scratch (window l.source start len))) := by
  have digits : Buffer.slice l.source (start + n.mark) (start + len) =
      .ok ((window l.source start len).drop n.mark) := by
    rw [Buffer.slice_eq_window (by omega) inside]
    simp only [window, List.drop_take, List.drop_drop]
    congr 2
    omega
  have ran := stage_eq (l := l) ((window l.source start len).drop n.mark)
  unfold readNumber Numeral.readIn
  rw [run_get_bind, run_orFault_ok digits]
  cases came : staged l.scratch ((window l.source start len).drop n.mark) with
  | mk answer scratch =>
    rw [came] at ran
    cases answer with
    | error fault =>
      rw [run_bind_error ran]
      rfl
    | ok staged =>
      rw [run_bind_ok ran]
      cases staged with
      | error refusal => rfl
      | ok text =>
        dsimp only [Except.map, Prod.map, outcomeIn, Numeral.finish, Numeral.evaluate]
        cases n.read? text <;> rfl

theorem readShape_eq (within : shape.Within len) (inside : start + len ≤ l.source.length) :
    readShape start (start + len) shape l =
      l.outcomeIn (Prod.map (Except.map (located start)) id
        (shape.readIn l.scratch (l.source.drop start) len)) := by
  cases shape with
  | plain kind => rfl
  | quoted =>
    have quotes : 2 ≤ len := within
    have between : Buffer.slice l.source (start + 1) (start + len - 1) =
        .ok (window (l.source.drop start) 1 (len - 2)) := by
      rw [Buffer.slice_eq_window (by omega) (by omega)]
      simp only [window, List.drop_drop]
      congr 2
      omega
    unfold readShape
    dsimp only
    rw [run_get_bind, run_orFault_ok between]
    rfl
  | based base =>
    have marked : 2 ≤ len := within
    exact readNumber_eq (n := .integer base 2) marked inside
  | decimal => exact readNumber_eq (n := .integer 10 0) (Nat.zero_le len) inside
  | fraction => exact readNumber_eq (n := .real) (Nat.zero_le len) inside
  | badDigit index base =>
    have low : index < len := within
    have rest : Buffer.sliceFrom l.source (start + index) = .ok (l.source.drop (start + index)) :=
      if_pos (by omega)
    unfold readShape
    dsimp only
    rw [run_get_bind, run_orFault_ok rest, ← List.drop_drop]
    rfl
  | rejected cause => rfl

/-! ### One call -/

@[simp] theorem source_passed (l : Lexer) : l.passed.source = l.source := by
  unfold passed
  split <;> rfl

@[simp] theorem scratch_passed (l : Lexer) : l.passed.scratch = l.scratch := by
  unfold passed
  split <;> rfl

@[simp] theorem options_passed (l : Lexer) : l.passed.options = l.options := by
  unfold passed
  split <;> rfl

@[simp] theorem current_passed (l : Lexer) :
    l.passed.current = l.current + (scan l.ahead).len := by
  unfold passed
  split
  · omega
  · rfl

/-- The answer of a call at an offset over an arena. -/
def answer (fileName : String) (start : Nat) (a : Arena) (bytes : List UInt8) :
    Except Fault Result :=
  (reading a bytes).1.map (present fileName start (bytes.take (scan bytes).len))

theorem reading_of_answer {fileName : String}
    (answers : answer fileName start a bytes = .ok result) :
    ∃ r, (reading a bytes).1 = .ok r ∧
      present fileName start (bytes.take (scan bytes).len) r = result := by
  unfold answer at answers
  cases read : (reading a bytes).1 with
  | error fault =>
    rw [read] at answers
    cases answers
  | ok r =>
    rw [read] at answers
    exact ⟨r, rfl, Except.ok.inj answers⟩

/-- A call passes what stands ahead, and answers from the bytes ahead and the scratch arena alone. -/
theorem call_eq (inside : l.current ≤ l.source.length) :
    l.call =
      (answer l.options.fileName l.current l.scratch l.ahead,
        { l.passed with scratch := (reading l.scratch l.ahead).2 }) := by
  rcases Nat.lt_or_eq_of_le inside with before | done
  · have rest : Buffer.sliceFrom l.source l.current = .ok l.ahead := if_pos inside
    have fits : (scan l.ahead).Fits l.ahead := by
      obtain ⟨lead, more, front⟩ := List.exists_cons_of_ne_nil
        (show l.ahead ≠ [] by simpa [ahead] using before)
      rw [front]
      exact scan_fits lead more
    obtain ⟨-, le, within⟩ := fits
    have length : l.ahead.length = l.source.length - l.current := List.length_drop
    have stop : l.current + (scan l.ahead).len ≤ l.source.length := by omega
    have taken : take l.ahead (scan l.ahead).len l = .ok () l.passed := rfl
    have lexeme : Buffer.slice l.source l.current (l.current + (scan l.ahead).len) =
        .ok (l.ahead.take (scan l.ahead).len) := by
      rw [Buffer.slice_eq_window (Nat.le_add_right _ _) stop, Nat.add_sub_cancel_left]
      rfl
    have read : readShape l.current (l.current + (scan l.ahead).len) (scan l.ahead).shape l.passed =
        l.passed.outcomeIn (Prod.map (Except.map (located l.current)) id
          (reading l.scratch l.ahead)) := by
      have read : readShape l.current (l.current + (scan l.ahead).len) (scan l.ahead).shape
          l.passed = _ := readShape_eq within (by rw [source_passed]; exact stop)
      rwa [source_passed, scratch_passed] at read
    unfold call nextToken answer
    rw [run_get_bind, run_orFault_ok rest, run_bind_ok taken]
    cases came : reading l.scratch l.ahead with
    | mk outcome scratch =>
      rw [came] at read
      cases outcome with
      | error fault =>
        rw [run_bind_error read]
        rfl
      | ok reading =>
        rw [run_bind_ok read]
        cases reading with
        | error failure => rfl
        | ok token =>
          dsimp only [located]
          rw [run_orFault_ok lexeme]
          rfl
  · have nothing : l.ahead = [] := by
      rw [ahead, done, List.drop_length]
    rw [call_at_end done, answer, passed, nothing, done]
    rfl

theorem nextToken_eq_ok_iff : nextToken l = .ok result l' ↔ l.call = (.ok result, l') := by
  unfold call
  cases nextToken l <;> simp

end FrontEnd.Lexer
