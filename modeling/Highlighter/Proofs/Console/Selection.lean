import Highlighter.Console.Selection
import Highlighter.Proofs.Buffer.LineTexts
import Highlighter.Proofs.Scan.Anchors

/-! What a selection of lines selects. The tokens that are collected for it are those of the whole
buffer that share a character with the selected text, which reaches from one line to another. -/
namespace Highlighter.Console
open Scan

/-- A range of lines, or no range, reaches from one offset of a buffer to another. -/
inductive Reaches (b : Buffer) : Option (Nat × Nat) → Nat → Nat → Prop
  | whole : Reaches b none 0 b.length
  | lines {first last : Nat} (ordered : first ≤ last) (inside : first < b.lineCount) :
      Reaches b (some (first, last)) (b.border first) (b.border last)

/-- The text of a range of lines, or the whole text. -/
def selectedText (b : Buffer) : Option (Nat × Nat) → List Char
  | none => b.chars
  | some (first, last) => (((Lines.texts b.chars).take last).drop first).flatten

theorem Reaches.between {b : Buffer} {range : Option (Nat × Nat)} {start stop : Nat}
    (reaches : Reaches b range start stop) : b.between start stop = selectedText b range := by
  cases reaches with
  | whole => exact b.between_length
  | lines ordered _ => exact b.between_border ordered

theorem Reaches.le_length {b : Buffer} {range : Option (Nat × Nat)} {start stop : Nat}
    (reaches : Reaches b range start stop) : stop ≤ b.length := by
  cases reaches with
  | whole => exact Nat.le_refl _
  | lines _ _ => exact b.border_le_length _

/-- Every token of a buffer shares its characters with the whole buffer. -/
theorem overlapping_tokens (d : Definition) (b : Buffer) :
    Anchors.overlapping 0 b.length (tokens d b 0 true) = tokens d b 0 true := by
  have gapless := gapless_tokens d b
  have inside : ∀ t ∈ tokens d b 0 true, t.start < b.length ∧ 0 < t.stop := by
    intro t member
    have filled := gapless.filled t member
    obtain ⟨_, positive, bound⟩ := gapless.stop_le t member
    exact ⟨Nat.lt_of_lt_of_le filled bound, positive⟩
  rw [Anchors.overlapping]
  split
  · apply List.filter_eq_self.mpr
    intro t member
    exact decide_eq_true (inside t member)
  · rename_i empty
    symm
    apply List.eq_nil_iff_forall_not_mem.mpr
    intro t member
    have bounds := inside t member
    omega

/-- Tokens are collected for the ranges that begin inside of the buffer. -/
theorem collectTokens_eq_ok {b : Buffer} {d : Definition} {range : Option (Nat × Nat)}
    {ts : List Token} {start stop : Nat} :
    collectTokens b d range true = .ok (ts, start, stop) ↔
      Reaches b range start stop ∧ ts = Anchors.overlapping start stop (tokens d b 0 true) := by
  cases range with
  | none =>
    constructor
    · intro collected
      cases collected
      exact ⟨.whole, (overlapping_tokens d b).symm⟩
    · rintro ⟨reaches, rfl⟩
      cases reaches
      rw [overlapping_tokens]
      rfl
  | some range =>
    obtain ⟨first, last⟩ := range
    rw [collectTokens]
    constructor
    · intro collected
      cases taken : b.linesRange first (min last b.lineCount) with
      | error reason =>
        rw [taken] at collected
        cases collected
      | ok offsets =>
        rw [taken] at collected
        cases collected
        obtain ⟨ordered, inside, begins, ends⟩ := Buffer.linesRange_eq_ok.mp taken
        rw [b.border_min] at ends
        constructor
        · rw [begins, ends]
          exact .lines (Nat.le_trans ordered (Nat.min_le_left _ _)) inside
        · exact Anchors.tokensInRange_eq d b _ _ true
    · rintro ⟨reaches, rfl⟩
      cases reaches with
      | lines ordered inside =>
        have taken : b.linesRange first (min last b.lineCount) =
            .ok (b.border first, b.border last) := by
          apply Buffer.linesRange_eq_ok.mpr
          rw [b.border_min]
          exact ⟨Nat.le_min.mpr ⟨ordered, Nat.le_of_lt inside⟩, inside, rfl, rfl⟩
        rw [taken]
        simp only [Anchors.tokensInRange_eq]

end Highlighter.Console
