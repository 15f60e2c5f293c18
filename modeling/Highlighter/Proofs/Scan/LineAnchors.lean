import Highlighter.Proofs.Scan.Anchors
import Highlighter.Proofs.Scan.Restart

/-! The anchors of the lines. Each line has one anchor, the start of the only token that holds its
first character; a line that begins at the end of the text has no token and is its own anchor. A line
begins inside of a token when its anchor lies before it. Later lines do not have earlier anchors, since
a token that ends before a line covers none that follows. -/
namespace Highlighter

namespace Scan
variable {first stop offset later : Nat} {ts : List Token}

theorem Gapless.covering_mono (gapless : Gapless first stop ts) (after : first ≤ offset)
    (ordered : offset ≤ later) : covering offset ts ≤ covering later ts := by
  induction ts generalizing first with
  | nil => exact ordered
  | cons t ts ih =>
    obtain ⟨begins, filled, following⟩ := gapless
    rw [covering, covering]
    split
    · split
      · exact Nat.le_refl _
      · rename_i passed
        have bound := following.le_covering (Nat.le_of_not_lt passed)
        rw [Token.stop] at bound
        omega
    · rename_i passed
      have past := Nat.le_of_not_lt passed
      rw [if_neg (by omega)]
      exact ih following past

/-- Every character belongs to a token. -/
theorem Gapless.exists_covering (gapless : Gapless first stop ts) (after : first ≤ offset)
    (before : offset < stop) :
    ∃ t ∈ ts, t.start = covering offset ts ∧ t.start ≤ offset ∧ offset < t.stop := by
  obtain ⟨behind, _, later, rfl, _, rest, ends⟩ :=
    gapless.split_covering after (Nat.le_of_lt before)
  cases later with
  | nil =>
    have ended : covering offset _ = stop := rest
    omega
  | cons t later =>
    have begins : t.start = covering offset _ := rest.1
    exact ⟨t, by simp, begins, begins ▸ behind, ends t rfl⟩

theorem Gapless.covering_stop (gapless : Gapless first stop ts) : covering stop ts = stop := by
  obtain ⟨_, _, later, rfl, _, rest, ends⟩ := gapless.split_covering gapless.le (Nat.le_refl stop)
  cases later with
  | nil => exact rest
  | cons t later =>
    have within := (rest.stop_le t List.mem_cons_self).2.2
    have beyond := ends t rfl
    omega

end Scan

namespace Anchors
open Scan

/-- What the anchors of a buffer with these tokens are, and that a scan may begin at each of them. -/
structure Fits (d : Definition) (b : Buffer) (ts : List Token) (a : Anchors) : Prop where
  oneEach : a.anchors.length = b.lineCount
  /-- Only one token holds the first character of a line that does not begin at the end. -/
  covered : ∀ line s, b.lineStart? line = some s →
    if s < b.length then
      ∃ t ∈ ts, a.forLine? line = some t.start ∧ t.start ≤ s ∧ s < t.stop ∧
        ∀ u ∈ ts, u.start ≤ s → s < u.stop → u = t
    else s = b.length ∧ a.forLine? line = some s
  ascending : a.anchors.Pairwise (· ≤ ·)
  continuations : ∀ line, a.isContinuation line = true ↔
    ∃ s, b.lineStart? line = some s ∧ ∃ t ∈ ts, t.start < s ∧ s < t.stop
  offsets : ∀ offset, a.forOffset offset ≤ offset ∧
    a.forLine? (b.lineOf offset) = some (a.forOffset offset) ∧
      (a.forOffset offset = b.length ∨ ∃ t ∈ ts, t.start = a.forOffset offset)
  restarts : ∀ line anchor, a.forLine? line = some anchor → Restart d b anchor

variable (d : Definition) (b : Buffer)

theorem isContinuation_build (line : Nat) : (build d b).isContinuation line = true ↔
    ∃ s, b.lineStart? line = some s ∧ covering s (tokens d b 0 true) < s := by
  have anchor : (build d b).anchors[line]? = _ := forLine?_build d b line
  have start : (build d b).lineStarts[line]? = b.lineStart? line := rfl
  rw [isContinuation, anchor, start]
  cases b.lineStart? line with
  | none => simp
  | some s => simp

theorem lineStart?_le {line s : Nat} (begins : b.lineStart? line = some s) : s ≤ b.length :=
  Lines.mem_starts (List.mem_of_getElem? begins)

/-- A line begins inside of a token when its anchor lies before it. -/
theorem covering_lt_iff {s : Nat} (inside : s ≤ b.length) :
    covering s (tokens d b 0 true) < s ↔ ∃ t ∈ tokens d b 0 true, t.start < s ∧ s < t.stop := by
  have gapless := gapless_tokens d b
  constructor
  · intro behind
    have before : s < b.length := by
      refine Nat.lt_of_le_of_ne inside ?_
      rintro rfl
      rw [gapless.covering_stop] at behind
      exact Nat.lt_irrefl _ behind
    obtain ⟨t, member, anchor, _, ends⟩ := gapless.exists_covering (Nat.zero_le s) before
    exact ⟨t, member, anchor ▸ behind, ends⟩
  · rintro ⟨u, among, begun, goesOn⟩
    have before : s < b.length := Nat.lt_of_lt_of_le goesOn (bounds_of_mem_tokens among).2
    obtain ⟨t, member, anchor, behind, ends⟩ := gapless.exists_covering (Nat.zero_le s) before
    have same := eq_of_shared member among behind ends (Nat.le_of_lt begun) goesOn
    rw [← anchor, ← same]
    exact begun

theorem fits_build : (build d b).Fits d b (tokens d b 0 true) where
  oneEach := by
    rw [anchors_build, List.length_map]
    rfl
  covered := by
    intro line s begins
    rw [forLine?_build, begins]
    split
    · rename_i before
      obtain ⟨t, member, anchor, behind, ends⟩ :=
        (gapless_tokens d b).exists_covering (Nat.zero_le s) before
      refine ⟨t, member, congrArg some anchor.symm, behind, ends, ?_⟩
      intro u among alsoBehind alsoEnds
      exact eq_of_shared member among behind ends alsoBehind alsoEnds
    · rename_i past
      obtain rfl : s = b.length := by
        have inside := lineStart?_le b begins
        omega
      exact ⟨rfl, congrArg some (gapless_tokens d b).covering_stop⟩
  ascending := by
    rw [anchors_build, List.pairwise_map]
    refine (Lines.starts_pairwise b.chars).imp fun ordered => ?_
    exact (gapless_tokens d b).covering_mono (Nat.zero_le _) (Nat.le_of_lt ordered)
  continuations := by
    intro line
    rw [isContinuation_build]
    refine exists_congr fun s => and_congr_right fun begins => ?_
    exact covering_lt_iff d b (lineStart?_le b begins)
  offsets := by
    intro offset
    obtain ⟨s, begins, before, found⟩ := forOffset_build d b offset
    have inside := lineStart?_le b begins
    rw [forLine?_build, begins, found]
    refine ⟨Nat.le_trans (restart_covering d b inside).2 before, rfl, ?_⟩
    rcases Nat.lt_or_eq_of_le inside with within | rfl
    · obtain ⟨t, member, anchor, _⟩ :=
        (gapless_tokens d b).exists_covering (Nat.zero_le s) within
      exact .inr ⟨t, member, anchor⟩
    · exact .inl (gapless_tokens d b).covering_stop
  restarts := by
    intro line anchor found
    rw [forLine?_build, Option.map_eq_some_iff] at found
    obtain ⟨s, begins, rfl⟩ := found
    exact (restart_covering d b (lineStart?_le b begins)).1

/-- Every line has one anchor, which is the start of the token that holds its first character, or the
end of the text where the line begins there; the anchor of an offset is the one of its line. -/
theorem anchors_cover_lines : ∃ ts, Scanner.Yields (Scanner.start d b 0 true) ts ∧
    (build d b).Fits d b ts :=
  ⟨_, Scanner.yields_tokens d b 0 true, fits_build d b⟩

/-- A comment that goes on over a line end, and a line end at the end of the text. -/
def commented : Buffer := .ofText "b" "x\n/*a\nb*/ y\n".toList

theorem comment_covers_line : ∃ ts, Scanner.Yields (Scanner.start Scanner.slashed commented 0 true) ts ∧
    commented.lineStart? 2 = some 6 ∧ 6 < commented.length ∧
    (∃ t ∈ ts, (build Scanner.slashed commented).forLine? 2 = some t.start ∧ t.start ≤ 6 ∧
      6 < t.stop ∧ ∀ u ∈ ts, u.start ≤ 6 → 6 < u.stop → u = t) ∧
    commented.lineStart? 3 = some 12 ∧ 12 = commented.length ∧
    (build Scanner.slashed commented).forLine? 3 = some 12 ∧
    Restart Scanner.slashed commented 12 := by
  obtain ⟨ts, given, fits⟩ := anchors_cover_lines Scanner.slashed commented
  have inside : commented.lineStart? 2 = some 6 ∧ 6 < commented.length := by decide +kernel
  have covered := fits.covered 2 6 inside.1
  rw [if_pos inside.2] at covered
  have last : commented.lineStart? 3 = some 12 ∧ ¬12 < commented.length := by decide +kernel
  have ended := fits.covered 3 12 last.1
  rw [if_neg last.2] at ended
  exact ⟨ts, given, inside.1, inside.2, covered, last.1, ended.1, ended.2,
    fits.restarts 3 12 ended.2⟩

end Anchors
end Highlighter
