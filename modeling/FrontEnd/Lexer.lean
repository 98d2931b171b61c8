import FrontEnd.Lexer.Options
import FrontEnd.Lexer.Scan
import FrontEnd.Memory.Region
import FrontEnd.Token
import FrontEnd.Utf8.Cursor

/-!
# The lexer

A lexer cuts a source into tokens and errors. `Lexer.nextToken` takes at least a byte unless the
source has ended; `Lexer.next?` iterates it under the caller's limit. The cursor can also be moved
by hand, one character at a time.

A numeral with separators is copied without them into a region of the scratch arena, and read there.
The region is closed again before the token is handed out.
-/

namespace FrontEnd

open Memory (AllocError Arena ArenaM)

/-- A lexer over a source. -/
structure Lexer where
  source : List UInt8
  scratch : Arena
  options : Lexer.Options := {}
  current : Nat := 0
  /-- Where the last character taken starts. -/
  previous : Nat := 0
  /-- How many results the iterator has yielded. -/
  yielded : Nat := 0
  limitReported : Bool := false
  finished : Bool := false
  deriving DecidableEq, Repr

/-- A change to a lexer that may fault. -/
abbrev LexerM := EStateM Fault Lexer

namespace Lexer

/-- A token, or an error in its place. -/
abbrev Result := Except Error Token

/-! ### The cursor -/

/-- Takes a character; `none`, and no move, at the end. -/
def advance : LexerM (Option Char) := do
  let l ← get
  match ← orFault (Buffer.sliceFrom l.source l.current) with
  | [] => return none
  | lead :: rest =>
    let d := Utf8.decode (lead :: rest)
    set { l with previous := l.current, current := l.current + d.len }
    return some d.char

/-- Goes back to before the last character taken. Only one step is kept. -/
def rewind : LexerM Unit := modify fun l => { l with current := l.previous }

/-- The character `delta` characters after the next one. -/
def peek (l : Lexer) (delta : Nat) : Except Fault (Option Char) := do
  let cursor ← Utf8.Cursor.startAt l.source l.current
  return cursor.drain.1[delta]?.map Utf8.Decoded.char

/-- Takes the next character if it is `expected`. -/
def advanceMatching (expected : Char) : LexerM Bool := do
  let l ← get
  if (← orFault (l.peek 0)) = some expected then
    let _ ← advance
    return true
  else
    return false

/-! ### Values -/

/-- Runs a computation on the scratch arena. -/
def onScratch {α : Type} (action : ArenaM α) : LexerM α := fun l =>
  match action l.scratch with
  | .ok answer scratch => .ok answer { l with scratch }
  | .error fault scratch => .error fault { l with scratch }

/-- Digits without separators, read back from the scratch arena if there were any. -/
def stage (digits : List UInt8) : LexerM (Except AllocError (List UInt8)) :=
  if separator ∈ digits then
    let kept := digits.filter (· != separator)
    onScratch <| Arena.inRegion fun _ => do
      match ← Arena.alloc kept.length 1 with
      | .ok block =>
        Arena.writeBytes block 0 kept
        let staged ← get
        return .ok (← orFault (staged.bytes block))
      | .error refusal => return .error refusal
  else
    return .ok digits

/-- What a token of a shape is, or where and why there is none. -/
abbrev Reading := Except (Nat × Cause) (TokenKind × TokenValue)

/-- Reads the numeral in the range from `first` to `stop` of a literal that starts at `start`. -/
def readNumber (kind : Literal) (read? : List UInt8 → Option TokenValue) (failure : Cause)
    (start first stop : Nat) : LexerM Reading := do
  let l ← get
  let digits ← orFault (Buffer.slice l.source first stop)
  match ← stage digits with
  | .error refusal => return .error (start, .scratchExhausted refusal)
  | .ok text =>
    match read? text with
    | some value => return .ok (.literal kind, value)
    | none => return .error (start, failure)

/-- Reads an integer of a base. -/
def readInteger (base start first stop : Nat) : LexerM Reading :=
  readNumber .integer (fun text => (Number.signed64? base text).map .integer) .integerOverflow
    start first stop

/-- Reads a decimal fraction. -/
def readReal (start stop : Nat) : LexerM Reading :=
  readNumber .real (fun text => (Number.Binary64.ofText? text).map .real) .malformedReal
    start start stop

/-- Reads the kind and the value of a shape that was found in a range of the source. -/
def readShape (start stop : Nat) : Shape → LexerM Reading
  | .plain kind => return .ok (kind, .none)
  | .quoted => do
    let l ← get
    let text ← orFault (Buffer.slice l.source (start + 1) (stop - 1))
    return .ok (.literal .string, .text text)
  | .based base => readInteger base start (start + 2) stop
  | .decimal => readInteger 10 start start stop
  | .fraction => readReal start stop
  | .badDigit index base => do
    let l ← get
    let rest ← orFault (Buffer.sliceFrom l.source (start + index))
    return .error (start + index, .invalidDigit (Utf8.decode rest).char base)
  | .rejected cause => return .error (start, cause)

/-! ### Tokens -/

/-- Takes the first `len` of the bytes ahead. -/
def take (ahead : List UInt8) (len : Nat) : LexerM Unit :=
  modify fun l =>
    if len = 0 then l
    else
      { l with
        previous := l.current + Utf8.lastStart (ahead.take len)
        current := l.current + len }

/-- Takes the next token, or what is no token. At the end every call yields the end of the file. -/
def nextToken : LexerM Result := do
  let l ← get
  let start := l.current
  let ahead ← orFault (Buffer.sliceFrom l.source start)
  let found := scan ahead
  take ahead found.len
  match ← readShape start (start + found.len) found.shape with
  | .error (offset, cause) => return .error ⟨l.options.fileName, offset, cause⟩
  | .ok (kind, value) =>
    let lexeme ← orFault (Buffer.slice l.source start (start + found.len))
    return .ok { kind, offset := start, lexeme, value }

/-- Whether a result is the end of the file. -/
def Result.isEndOfFile : Result → Bool
  | .ok token => token.isEndOfFile
  | .error _ => false

/-- The limit, if the iterator has reached it. -/
def limitReached? (l : Lexer) : Option Nat := l.options.tokenLimit?.filter (· ≤ l.yielded)

/-- Yields the next result, and `none` after the end of the file. At the limit it yields one error,
then the end of the file. -/
def next? : LexerM (Option Result) := do
  let l ← get
  if l.finished then return none
  else
    match l.limitReached? with
    | some limit =>
      if l.limitReported then
        set { l with finished := true }
        let stop := l.source.length
        return some (.ok { kind := .endOfFile, offset := stop, lexeme := [] })
      else
        set { l with limitReported := true }
        return some (.error ⟨l.options.fileName, l.current, .tokenLimitExceeded limit⟩)
    | none =>
      set { l with yielded := l.yielded + 1 }
      let result ← nextToken
      if Result.isEndOfFile result then modify fun l => { l with finished := true }
      return some result

/-- At most `count` results of the iterator. -/
def collect : Nat → LexerM (List Result)
  | 0 => return []
  | count + 1 => do
    match ← next? with
    | none => return []
    | some result => return result :: (← collect count)

/-- Every result that the iterator still yields. Each takes a byte of the source, but for the error
at the limit and the end of the file. -/
def drain : LexerM (List Result) := do
  let l ← get
  collect (l.source.length + 2)

/-- Drains a lexer that borrows an arena as its scratch. The answer holds the results and the offset
of the cursor after them. -/
def lexIn (source : List UInt8) (options : Options) : ArenaM (List Result × Nat) := fun scratch =>
  match drain { source, scratch, options } with
  | .ok results l => .ok (results, l.current) l.scratch
  | .error fault l => .error fault l.scratch

end Lexer

end FrontEnd
