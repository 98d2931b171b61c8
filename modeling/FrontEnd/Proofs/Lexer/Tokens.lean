import FrontEnd.Proofs.Lexer.Handling
import FrontEnd.Proofs.Lexer.Spent

/-!
# Tokens that a caller is handed

However a lexer is used, a token that it hands out is what stands at a boundary of its source, over the
scratch arena that it had at first (`HandsOut.stands`).
-/

namespace FrontEnd.Lexer

open Memory (Arena)
open Utf8 (Boundary)

/-- The token in a reply. -/
def Reply.token? : Reply → Option Token
  | .read (.ok token) => some token
  | .drew (some (.ok token)) => some token
  | _ => none

/-- One of the uses of a lexer comes back with a token. -/
def HandsOut (l : Lexer) (uses : List Use) (token : Token) : Prop :=
  ∃ reply, .ok reply ∈ l.replies uses ∧ reply.token? = some token

/-- A token that is read at a boundary of a source, over an arena, or the end of the file. -/
inductive Stands (source : List UInt8) (a : Arena) : Token → Prop where
  | fileEnd : Stands source a { kind := .endOfFile, offset := source.length, lexeme := [] }
  | read {start : Nat} {kind : TokenKind} {value : TokenValue} (cut : Boundary source start)
      (reads : (reading a (source.drop start)).1 = .ok (.ok (kind, value))) :
      Stands source a
        { kind
          offset := start
          lexeme := (source.drop start).take (scan (source.drop start)).len
          value }

variable {l l' : Lexer} {use : Use} {uses : List Use} {reply : Reply} {token : Token}
  {answer : Except Fault Reply} {source : List UInt8} {a a' : Arena}

/-! ### Sessions -/

theorem mem_replies (member : answer ∈ l.replies uses) :
    ∃ before use after, uses = before ++ use :: after ∧
      ((l.handled before).handle use).1 = answer := by
  induction uses generalizing l with
  | nil => simp [replies] at member
  | cons use uses ih =>
    rw [replies, List.mem_cons] at member
    obtain rfl | later := member
    · exact ⟨[], use, uses, rfl, rfl⟩
    · obtain ⟨before, use', after, rfl, same⟩ := ih later
      exact ⟨use :: before, use', after, rfl, same⟩

/-- Drawing from the iterator calls the lexer, or leaves the arena alone and comes to no token but the
end of the file. -/
theorem handle_next_cases (l : Lexer) :
    (∃ result?, (l.handle .next).1 = .ok (.drew result?) ∧
      (l.handle .next).2.scratch = l.scratch ∧ ∀ token, result? = some (.ok token) →
        token = { kind := .endOfFile, offset := l.source.length, lexeme := [] }) ∨
    (l.handle .next).1 = l.counted.call.1.map (.drew ∘ some) ∧
      (l.handle .next).2.scratch = l.counted.call.2.scratch := by
  have draws := next?_eq l
  rw [handle_next]
  split at draws
  · rw [draws]
    exact Or.inl ⟨none, rfl, rfl, nofun⟩
  split at draws
  · left
    split at draws
    · rw [draws]
      refine ⟨_, rfl, rfl, ?_⟩
      rintro token ⟨⟩
      rfl
    · rw [draws]
      exact ⟨_, rfl, rfl, nofun⟩
  · right
    rw [draws]
    cases l.counted.call with
    | mk outcome l' => cases outcome <;> exact ⟨rfl, rfl⟩

theorem call_leaves (inside : l.current ≤ l.source.length) :
    l.scratch.Alike l.call.2.scratch ∨ l.call.2.scratch.Spent := by
  rw [call_eq inside]
  exact reading_leaves l.scratch l.ahead

theorem handle_leaves (h : l.Aligned) (use : Use) :
    l.scratch.Alike (l.handle use).2.scratch ∨ (l.handle use).2.scratch.Spent := by
  have inside := h.current.le
  have kept (l' : Lexer) (same : l'.scratch = l.scratch) :
      l.scratch.Alike l'.scratch ∨ l'.scratch.Spent := by
    rw [same]
    exact Or.inl (.refl _)
  cases use with
  | advance =>
    rw [handle_advance inside]
    exact kept _ (scratch_stepped l)
  | advanceMatching expected =>
    obtain ⟨taken, ran⟩ := advanceMatching_eq inside expected
    rw [handle_of_ok (run_bind_ok ran)]
    cases taken with
    | true => exact kept _ (scratch_stepped l)
    | false => exact kept _ rfl
  | rewind => exact kept _ rfl
  | peek delta =>
    rw [handle_peek inside]
    exact kept _ rfl
  | token =>
    rw [handle_token]
    exact call_leaves inside
  | next =>
    obtain ⟨result?, -, same, -⟩ | ⟨-, same⟩ := handle_next_cases l
    · exact kept _ same
    · rw [same]
      exact call_leaves (l := l.counted) inside

/-- Once a use has faulted in its staging, the arena stays spent. -/
theorem handled_leaves (uses : List Use) (h : l.Aligned) :
    l.scratch.Alike (l.handled uses).scratch ∨ (l.handled uses).scratch.Spent := by
  induction uses generalizing l with
  | nil => exact Or.inl (.refl _)
  | cons use uses ih =>
    -- an arena that is like a spent one is spent
    rcases ih (handle_handles h use).aligned with later | spent
    · rcases handle_leaves h use with alike | spent
      · exact Or.inl (alike.trans later)
      · exact Or.inr (spent.of_alike later)
    · exact Or.inr spent

/-! ### What stands in a source -/

theorem call_stands (h : Boundary l.source l.current) (called : l.call.1 = .ok (.ok token)) :
    Stands l.source l.scratch token := by
  rw [call_eq h.le] at called
  obtain ⟨r, read, shown⟩ := reading_of_answer called
  cases r with
  | error failure => cases shown
  | ok found =>
    cases shown
    exact .read h read

theorem handle_stands (h : l.Aligned) (answered : (l.handle use).1 = .ok reply)
    (shown : reply.token? = some token) : Stands l.source l.scratch token := by
  have inside := h.current.le
  cases use with
  | advance =>
    rw [handle_advance inside] at answered
    cases answered
    cases shown
  | advanceMatching expected =>
    obtain ⟨taken, ran⟩ := advanceMatching_eq inside expected
    rw [handle_of_ok (run_bind_ok ran)] at answered
    cases answered
    cases shown
  | rewind =>
    cases answered
    cases shown
  | peek delta =>
    rw [handle_peek inside] at answered
    cases answered
    cases shown
  | token =>
    rw [handle_token] at answered
    cases called : l.call.1 with
    | error fault => simp [called, Except.map] at answered
    | ok result =>
      rw [called] at answered
      cases answered
      match result, shown with
      | .ok token, rfl => exact call_stands h.current called
  | next =>
    obtain ⟨result?, drew, -, ends⟩ | ⟨drew, -⟩ := handle_next_cases l
    · rw [drew] at answered
      cases answered
      match result?, shown with
      | some (.ok token), rfl =>
        obtain rfl := ends token rfl
        exact .fileEnd
    · rw [drew] at answered
      cases called : l.counted.call.1 with
      | error fault => simp [called, Except.map] at answered
      | ok result =>
        rw [called] at answered
        cases answered
        match result, shown with
        | .ok token, rfl => exact call_stands (l := l.counted) h.current called

theorem Stands.of_left (stands : Stands source a' token) (left : a.Alike a' ∨ a'.Spent) :
    Stands source a token := by
  cases stands with
  | fileEnd => exact .fileEnd
  | read cut reads =>
    apply Stands.read cut
    rcases left with alike | spent
    · rwa [(reading_blind alike).1] at reads
    · exact reading_of_spent spent reads a

theorem HandsOut.stands (h : l.Aligned) (handed : l.HandsOut uses token) :
    Stands l.source l.scratch token := by
  obtain ⟨reply, member, shown⟩ := handed
  obtain ⟨before, use, after, -, answered⟩ := mem_replies member
  obtain ⟨source, aligned⟩ := handled_aligned before h
  have stands := handle_stands aligned answered shown
  rw [source] at stands
  exact stands.of_left (handled_leaves before h)

end FrontEnd.Lexer
