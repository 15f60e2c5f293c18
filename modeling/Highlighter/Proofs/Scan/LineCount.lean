import Highlighter.Proofs.Buffer.Lines
import Highlighter.Scan.Scanner
import Mathlib.Logic.Function.Iterate

/-! A cursor counts lines as the table of a buffer has them. It counts a line end when it has passed
it, by looking at one character more; the table is made from all characters beforehand. They agree
on every step, so they agree wherever a cursor has gone, whatever it has gone back to, and between
any two tokens of a scan. -/
namespace Highlighter

namespace Cursor
variable {b : Buffer} {c : Cursor}

/-- The cursor moves through the buffer, and its line is that of its position in the table. -/
structure Agrees (b : Buffer) (c : Cursor) : Prop where
  chars : c.chars = b.chars
  line : c.line = b.lineOf c.position

theorem agrees_placed {position line : Nat} (same : line = b.lineOf position) :
    Agrees b (placed b.chars position line) where
  chars := rfl
  line := same.trans (Lines.lineAt_min b.chars position).symm

theorem agrees_start (b : Buffer) : Agrees b (start b.chars) := by
  have first : 0 = b.lineOf 0 := by
    rw [Buffer.lineOf, Buffer.lineStarts, Lines.lineAt_starts, Lines.takeWhile_startsAfter]
    rfl
  exact agrees_placed first

theorem Agrees.advance (agrees : Agrees b c) : Agrees b c.advance := by
  unfold Cursor.advance
  split
  · exact agrees
  · rename_i char rest ahead
    have here : b.chars.drop c.position = char :: rest := by
      rw [← agrees.chars, ← c.ahead_eq, ahead]
    refine ⟨agrees.chars, ?_⟩
    dsimp only
    rw [agrees.line]
    exact (Lines.lineAt_succ here).symm

theorem Agrees.advanceBy (agrees : Agrees b c) (places : Nat) : Agrees b (c.advanceBy places) := by
  induction places generalizing c with
  | zero => exact agrees
  | succ places ih => exact ih agrees.advance

theorem Agrees.restore (agrees : Agrees b c) {m : Mark} (marked : m.line = b.lineOf m.position) :
    Agrees b (c.restore m) := by
  rw [Cursor.restore, agrees.chars]
  exact agrees_placed marked

/-- What a cursor does on its way. A test that remembers the characters it has seen stops somewhere,
so skipping with it is no more than `advanceBy`. -/
inductive Move where
  | advance
  | advanceBy (places : Nat)
  | accept (expected : Char)
  | skipWhile (p : Char → Bool)
  | mark
  /-- Back to a mark; marks are counted in the order in which they were made. -/
  | restore (i : Nat)

/-- A cursor on its way, with the marks that it has made. -/
structure Walk where
  cursor : Cursor
  marks : List Mark

namespace Walk

/-- The cursor and its marks after a move; there is no way back to a mark that was never made. -/
def move (w : Walk) : Move → Walk
  | .advance => { w with cursor := w.cursor.advance }
  | .advanceBy places => { w with cursor := w.cursor.advanceBy places }
  | .accept expected => { w with cursor := (w.cursor.accept expected).2 }
  | .skipWhile p => { w with cursor := (w.cursor.skipWhile p).2 }
  | .mark => { w with marks := w.marks ++ [w.cursor.mark] }
  | .restore i =>
    match w.marks[i]? with
    | some m => { w with cursor := w.cursor.restore m }
    | none => w

/-- The cursor and all that it may go back to are on the lines of the table. -/
structure OnLines (b : Buffer) (w : Walk) : Prop where
  cursor : Agrees b w.cursor
  marks : ∀ m ∈ w.marks, m.line = b.lineOf m.position

theorem OnLines.move {w : Walk} (onLines : OnLines b w) (m : Move) : OnLines b (w.move m) := by
  obtain ⟨agrees, marked⟩ := onLines
  cases m with
  | advance => exact ⟨agrees.advance, marked⟩
  | advanceBy places => exact ⟨agrees.advanceBy places, marked⟩
  | accept expected =>
    refine ⟨?_, marked⟩
    dsimp only [Walk.move]
    unfold Cursor.accept
    split
    · exact agrees.advance
    · exact agrees
  | skipWhile p => exact ⟨agrees.advanceBy _, marked⟩
  | mark =>
    refine ⟨agrees, ?_⟩
    intro m member
    rcases List.mem_append.mp member with earlier | new
    · exact marked m earlier
    · rw [List.mem_singleton.mp new]
      exact agrees.line
  | restore i =>
    unfold Walk.move
    dsimp only
    split
    · rename_i m made
      exact ⟨agrees.restore (marked m (List.mem_of_getElem? made)), marked⟩
    · exact ⟨agrees, marked⟩

theorem OnLines.moves {w : Walk} (onLines : OnLines b w) (ms : List Move) :
    OnLines b (ms.foldl Walk.move w) := by
  induction ms generalizing w with
  | nil => exact onLines
  | cons m ms ih => exact ih (onLines.move m)

end Walk

/-- The cursor after some moves, before which it has made no mark. -/
def walk (c : Cursor) (ms : List Move) : Cursor := (ms.foldl Walk.move ⟨c, []⟩).cursor

theorem Agrees.walk (agrees : Agrees b c) (ms : List Move) : Agrees b (c.walk ms) :=
  (Walk.OnLines.moves ⟨agrees, fun _ member => absurd member List.not_mem_nil⟩ ms).cursor

end Cursor

namespace Scanner
open Cursor
variable {b : Buffer} {s : Scanner}

theorem agrees_step? (agrees : Agrees b s.cursor) {t : Token} {after : Scanner}
    (stepped : s.step? = some (t, after)) : Agrees b after.cursor := by
  unfold step? at stepped
  split at stepped
  · cases stepped
  · cases stepped
    exact agrees.advanceBy _

theorem agrees_nextWithin (agrees : Agrees b s.cursor) (fuel : Nat) :
    Agrees b (nextWithin fuel s).2.cursor := by
  induction fuel generalizing s with
  | zero => exact agrees
  | succ fuel ih =>
    unfold nextWithin
    split
    · exact agrees
    · rename_i t after stepped
      have kept := agrees_step? agrees stepped
      split
      · exact kept
      · exact ih kept

theorem agrees_calls (agrees : Agrees b s.cursor) (calls : Nat) :
    Agrees b ((fun s => s.next.2)^[calls] s).cursor := by
  induction calls generalizing s with
  | zero => exact agrees
  | succ calls ih => exact ih (agrees_nextWithin agrees _)

end Scanner

namespace Buffer

/-- A cursor that begins at the first character, or anywhere on the line that the table has for this
place, is on the line of the table wherever it goes; and so is a scan after any number of calls for
the next token. The line of the table is the one that a search by halves finds. -/
theorem line_counter_agrees_with_table (b : Buffer) :
    (∀ ms, ((Cursor.start b.chars).walk ms).line =
      b.lineOf ((Cursor.start b.chars).walk ms).position) ∧
    (∀ p ms, ((Cursor.placed b.chars p (b.lineOf p)).walk ms).line =
      b.lineOf ((Cursor.placed b.chars p (b.lineOf p)).walk ms).position) ∧
    (∀ d offset emitWhitespace calls,
      ((fun s => s.next.2)^[calls] (Scanner.start d b offset emitWhitespace)).line =
        b.lineOf ((fun s => s.next.2)^[calls] (Scanner.start d b offset emitWhitespace)).offset) ∧
    ∀ p, b.lineOf p = Bisection.border (· ≤ p) b.lineStarts 0 b.lineCount - 1 := by
  refine ⟨?_, ?_, ?_, ?_⟩
  · intro ms
    exact ((Cursor.agrees_start b).walk ms).line
  · intro p ms
    exact ((Cursor.agrees_placed rfl).walk ms).line
  · intro d offset emitWhitespace calls
    have clamped : b.lineOf (min offset b.length) = b.lineOf offset :=
      Lines.lineAt_min b.chars offset
    exact (Scanner.agrees_calls (Cursor.agrees_placed clamped) calls).line
  · exact Lines.lineAt_eq_border (Lines.starts_pairwise b.chars)

end Buffer
end Highlighter
