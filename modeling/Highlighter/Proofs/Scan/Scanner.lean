import Highlighter.Proofs.Scan.Stream
import Highlighter.Scan.Scanner

/-! A scan under way gives the tokens of what is ahead of it, one at each call, and then it is over.
Each step leaves the tokens after the first one to the rest of the scan. -/
namespace Highlighter

namespace Cursor

theorem ahead_advance (c : Cursor) : c.advance.ahead = c.ahead.tail := by
  unfold advance
  split
  · rename_i ended
    rw [ended, List.tail_nil]
  · rename_i ahead
    exact (congrArg List.tail ahead).symm

theorem position_advance {c : Cursor} (filled : 0 < c.ahead.length) :
    c.advance.position = c.position + 1 := by
  unfold advance
  split
  · rename_i ended
    rw [ended] at filled
    contradiction
  · rfl

theorem ahead_advanceBy (c : Cursor) (n : Nat) : (c.advanceBy n).ahead = c.ahead.drop n := by
  induction n generalizing c with
  | zero => rfl
  | succ n ih => rw [advanceBy, ih, ahead_advance, List.drop_tail]

theorem position_advanceBy {c : Cursor} {n : Nat} (bound : n ≤ c.ahead.length) :
    (c.advanceBy n).position = c.position + n := by
  induction n generalizing c with
  | zero => rfl
  | succ n ih =>
    have shorter : n ≤ c.advance.ahead.length := by
      rw [ahead_advance, List.length_tail]
      omega
    rw [advanceBy, ih shorter, position_advance (by omega)]
    omega

end Cursor

namespace Scanner
open Scan

/-- The tokens of every kind that a scan has ahead of it. -/
def pending (s : Scanner) : List Token := tokensFrom s.definition s.offset s.cursor.ahead

/-- The tokens that a scan is going to give. -/
def coming (s : Scanner) : List Token := s.pending.filter (isGiven s.emitWhitespace)

theorem pending_of_step?_none {s : Scanner} (ended : s.step? = none) : s.pending = [] := by
  unfold step? at ended
  split at ended
  · rename_i ahead
    rw [pending, ahead, tokensFrom_nil]
  · cases ended

theorem step?_of_length_ahead {s : Scanner} (emptied : s.cursor.ahead.length = 0) :
    s.step? = none := by
  rw [step?, List.eq_nil_of_length_eq_zero emptied]

/-- A step takes the first pending token and some characters. -/
theorem pending_of_step? {s after : Scanner} {t : Token} (stepped : s.step? = some (t, after)) :
    s.pending = t :: after.pending ∧ after.emitWhitespace = s.emitWhitespace ∧
      after.cursor.ahead.length < s.cursor.ahead.length := by
  unfold step? at stepped
  split at stepped
  · cases stepped
  · rename_i c rest ahead
    cases stepped
    have fits := lexeme_more_le s.definition c rest
    have bound : (lexeme s.definition c rest).more + 1 ≤ s.cursor.ahead.length := by
      rw [ahead, List.length_cons]
      omega
    refine ⟨?_, rfl, ?_⟩
    · have shifted := Cursor.position_advanceBy bound
      have dropped := Cursor.ahead_advanceBy s.cursor ((lexeme s.definition c rest).more + 1)
      rw [ahead, List.drop_succ_cons] at dropped
      simp only [pending, offset, shifted, dropped]
      rw [ahead, tokensFrom_cons]
    · simp only [Cursor.ahead_advanceBy, List.length_drop]
      omega

/-- What the next call gives, when tokens are coming and when none are. -/
theorem nextWithin_spec {fuel : Nat} {s : Scanner} (enough : s.cursor.ahead.length ≤ fuel) :
    match s.coming with
    | [] => (nextWithin fuel s).1 = none
    | t :: ts => ∃ after, nextWithin fuel s = (some t, after) ∧ after.coming = ts := by
  induction fuel generalizing s with
  | zero =>
    have ended := pending_of_step?_none (step?_of_length_ahead (Nat.le_zero.mp enough))
    simp [coming, ended, nextWithin]
  | succ fuel ih =>
    cases stepped : s.step? with
    | none => simp [coming, pending_of_step?_none stepped, nextWithin, stepped]
    | some step =>
      obtain ⟨t, after⟩ := step
      obtain ⟨first, options, fewer⟩ := pending_of_step? stepped
      by_cases given : isGiven s.emitWhitespace t
      · have coming : s.coming = t :: after.coming := by
          rw [coming, first, List.filter_cons_of_pos given, ← options, coming]
        rw [coming]
        exact ⟨after, by simp [nextWithin, stepped, given], rfl⟩
      · have coming : s.coming = after.coming := by
          rw [coming, first, List.filter_cons_of_neg given, ← options, coming]
        have later := ih (s := after) (by omega)
        simpa [nextWithin, stepped, given, coming] using later

/-- What repeated calls for the next token give, up to the call that gives none. -/
inductive Yields : Scanner → List Token → Prop
  | done {s after : Scanner} (ended : s.next = (none, after)) : Yields s []
  | more {s after : Scanner} {t : Token} {ts : List Token} (given : s.next = (some t, after))
      (later : Yields after ts) : Yields s (t :: ts)

theorem yields_coming (s : Scanner) : Yields s s.coming := by
  generalize same : s.coming = ts
  induction ts generalizing s with
  | nil =>
    have ended := nextWithin_spec (Nat.le_refl s.cursor.ahead.length)
    rw [same] at ended
    exact .done (Prod.ext ended rfl)
  | cons t ts ih =>
    have given := nextWithin_spec (Nat.le_refl s.cursor.ahead.length)
    rw [same] at given
    obtain ⟨after, next, rest⟩ := given
    exact .more next (ih after rest)

/-- A scan gives one sequence of tokens only. -/
theorem Yields.unique {s : Scanner} {ts us : List Token} (one : Yields s ts)
    (other : Yields s us) : ts = us := by
  induction one generalizing us with
  | done ended =>
    cases other with
    | done _ => rfl
    | more given _ =>
      rw [ended] at given
      cases given
  | more given _ ih =>
    cases other with
    | done ended =>
      rw [given] at ended
      cases ended
    | more again later =>
      rw [given] at again
      cases again
      rw [ih later]

variable (d : Definition) (b : Buffer) (start : Nat)

theorem coming_start (emitWhitespace : Bool) :
    (Scanner.start d b start emitWhitespace).coming = tokens d b start emitWhitespace := by
  have ahead : b.chars.drop (min start b.chars.length) = b.chars.drop start := by
    rcases Nat.le_total start b.chars.length with inside | outside
    · rw [Nat.min_eq_left inside]
    · rw [Nat.min_eq_right outside, List.drop_length, List.drop_of_length_le outside]
  simp only [coming, pending, Scanner.start, offset, Cursor.placed, tokens, Buffer.length, ahead]

/-- A scan gives the tokens of the buffer from its start on. -/
theorem yields_tokens (emitWhitespace : Bool) :
    Yields (Scanner.start d b start emitWhitespace) (tokens d b start emitWhitespace) :=
  coming_start d b start emitWhitespace ▸ yields_coming _

/-- A scan that gives whitespace covers the buffer without a gap and ends after one token for each
character at most; one that does not gives the same tokens without the whitespace. -/
theorem scan_covers_gaplessly : ∃ ts, Yields (Scanner.start d b start true) ts ∧
    ts.length ≤ b.length - min start b.length ∧
    Gapless (min start b.length) b.length ts ∧
    (ts = [] ↔ b.length ≤ start) ∧
    Yields (Scanner.start d b start false) (ts.filter (·.kind != .whitespace)) := by
  have remaining : min start b.length + (b.chars.drop start).length = b.length := by
    rw [List.length_drop, Buffer.length]
    omega
  have gapless := gapless_tokensFrom d (min start b.length) (b.chars.drop start)
  have bound := length_tokensFrom_le d (min start b.length) (b.chars.drop start)
  rw [remaining] at gapless
  refine ⟨_, tokens_true d b start ▸ yields_tokens d b start true, by omega, gapless, ?_, ?_⟩
  · constructor
    · intro empty
      rw [empty] at gapless
      have ended : min start b.length = b.length := gapless
      omega
    · intro outside
      rw [List.drop_of_length_le outside, tokensFrom_nil]
  · have kept : tokens d b start false =
        (tokensFrom d (min start b.length) (b.chars.drop start)).filter (·.kind != .whitespace) :=
      rfl
    exact kept ▸ yields_tokens d b start false

end Scanner
end Highlighter
