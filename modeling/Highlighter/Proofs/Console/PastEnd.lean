import Highlighter.Proofs.Console.LineRange
import Highlighter.Proofs.Console.Selection

/-! Selections of lines that a buffer does not have. A last line past the end of the buffer stands for
the last line that there is. So when a selection begins past the end, its end comes before its
beginning and it is told that it is reversed. Only one that begins right after the last line is told
that there is no such line. -/
namespace Highlighter.Console

/-- A selection names a line at least. -/
theorem lt_of_parseLineRange {text : String} {first last : Nat}
    (reads : parseLineRange text = .ok (first, last)) : first < last := by
  obtain ⟨a, b, selects, same⟩ := parseLineRange_eq_ok_iff.mp reads
  obtain ⟨counted, ordered, _⟩ := selects.bounds
  cases same
  omega

/-- Lines up to the end of the buffer, by where the first of them lies: inside, right after the last
line, or further on. -/
theorem linesRange_min (b : Buffer) {first last : Nat} (filled : first < last) :
    b.linesRange first (min last b.lineCount) =
      if first < b.lineCount then .ok (b.border first, b.border last)
      else if first = b.lineCount then .error (.noSuchLine first b.lineCount)
      else .error (.reversedRange first b.lineCount) := by
  split
  · rename_i inside
    have ordered : first ≤ min last b.lineCount :=
      Nat.le_min.mpr ⟨Nat.le_of_lt filled, Nat.le_of_lt inside⟩
    refine Buffer.linesRange_eq_ok.mpr ⟨ordered, inside, rfl, ?_⟩
    exact (b.border_min last).symm
  · rename_i outside
    have stop : min last b.lineCount = b.lineCount := by omega
    rw [stop, Buffer.linesRange]
    split
    · rename_i beyond
      rw [if_neg (Nat.ne_of_gt beyond)]
    · rename_i reached
      have missing : b.lineStart? first = none :=
        List.getElem?_eq_none_iff.mpr (Nat.le_of_not_lt outside)
      have next : first = b.lineCount := by omega
      rw [missing, if_pos next]

/-- A selection succeeds exactly when it begins inside of the buffer. One that begins right after the
last line is told that there is no such line, and one that begins further on that its range is
reversed, whatever its last line is. -/
theorem selection_past_end {text : String} {first last : Nat}
    (reads : parseLineRange text = .ok (first, last)) (b : Buffer) (d : Definition)
    (emitWhitespace : Bool) :
    ((collectTokens b d (some (first, last)) emitWhitespace).isOk = true ↔ first < b.lineCount) ∧
    (collectTokens b d (some (first, last)) emitWhitespace =
      .error (.buffer (.noSuchLine first b.lineCount)) ↔ first = b.lineCount) ∧
    (collectTokens b d (some (first, last)) emitWhitespace =
      .error (.buffer (.reversedRange first b.lineCount)) ↔ b.lineCount < first) := by
  have range := linesRange_min b (lt_of_parseLineRange reads)
  rcases Nat.lt_trichotomy first b.lineCount with inside | next | beyond
  · rw [if_pos inside] at range
    have found : ∃ tokens, collectTokens b d (some (first, last)) emitWhitespace = .ok tokens := by
      rw [collectTokens, range]
      exact ⟨_, rfl⟩
    obtain ⟨tokens, found⟩ := found
    rw [found]
    refine ⟨iff_of_true rfl inside, ?_, ?_⟩
    · exact iff_of_false (by simp) (Nat.ne_of_lt inside)
    · exact iff_of_false (by simp) (Nat.lt_asymm inside)
  · have missing : collectTokens b d (some (first, last)) emitWhitespace =
        .error (.buffer (.noSuchLine first b.lineCount)) := by
      rw [if_neg (Nat.not_lt.mpr next.ge), if_pos next] at range
      rw [collectTokens, range]
    rw [missing]
    refine ⟨iff_of_false Bool.false_ne_true (Nat.not_lt.mpr next.ge), iff_of_true rfl next, ?_⟩
    exact iff_of_false (by simp) (Nat.not_lt.mpr next.le)
  · have reversed : collectTokens b d (some (first, last)) emitWhitespace =
        .error (.buffer (.reversedRange first b.lineCount)) := by
      rw [if_neg (Nat.lt_asymm beyond), if_neg beyond.ne'] at range
      rw [collectTokens, range]
    rw [reversed]
    refine ⟨iff_of_false Bool.false_ne_true (Nat.lt_asymm beyond), ?_, iff_of_true rfl beyond⟩
    exact iff_of_false (by simp) beyond.ne'

def oneLine : Buffer := .ofText "t" ['a']

/-- The line after the only one, up to the end. -/
theorem next_line_is_missing : parseLineRange " 2: " = .ok (1, Text.limit64 - 1) ∧
    collectTokens oneLine .plainText (some (1, Text.limit64 - 1)) true =
      .error (.buffer (.noSuchLine 1 1)) := by
  have reads : parseLineRange " 2: " = .ok (1, Text.limit64 - 1) := by decide +kernel
  have count : oneLine.lineCount = 1 := by decide +kernel
  have outcomes := selection_past_end reads oneLine .plainText true
  rw [count] at outcomes
  exact ⟨reads, outcomes.2.1.mpr rfl⟩

/-- The second line after the only one. -/
theorem further_line_is_reversed : parseLineRange "3" = .ok (2, 3) ∧ oneLine.lineCount = 1 ∧
    collectTokens oneLine .plainText (some (2, 3)) true = .error (.buffer (.reversedRange 2 1)) := by
  decide +kernel

end Highlighter.Console
