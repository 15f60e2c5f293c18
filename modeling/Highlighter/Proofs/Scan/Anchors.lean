import Highlighter.Proofs.Buffer.Lines
import Highlighter.Proofs.Scan.Scanner
import Highlighter.Scan.Anchors

/-! Scanning a part of a text from an anchor. The anchor of a line is the start of the token that
covers its first character, or the end of the text, and no token of the text reaches over it, so the
scan from there is the end of the scan of the whole text. The tokens stand in ascending order, so
those of the part are found by dropping and cutting. -/
namespace Highlighter

section Ordered
variable {α : Type} {p : α → Bool} {l : List α}

theorem takeWhile_eq_filter (ordered : l.Pairwise fun a b => p b = true → p a = true) :
    l.takeWhile p = l.filter p := by
  induction ordered with
  | nil => rfl
  | @cons a rest before _ ih =>
    by_cases fits : p a
    · rw [List.takeWhile_cons_of_pos fits, List.filter_cons_of_pos fits, ih]
    · rw [List.takeWhile_cons_of_neg fits, List.filter_cons_of_neg fits]
      exact (List.filter_eq_nil_iff.mpr fun b member after => fits (before b member after)).symm

theorem dropWhile_eq_filter (ordered : l.Pairwise fun a b => p b = true → p a = true) :
    l.dropWhile p = l.filter (!p ·) := by
  induction ordered with
  | nil => rfl
  | @cons a rest before _ ih =>
    by_cases fits : p a
    · rw [List.dropWhile_cons_of_pos fits, List.filter_cons_of_neg (by simp [fits]), ih]
    · rw [List.dropWhile_cons_of_neg fits, List.filter_eq_self.mpr]
      refine List.forall_mem_cons.mpr ⟨by simp [fits], fun b member => ?_⟩
      rw [Bool.not_eq_true']
      exact Bool.eq_false_iff.mpr fun after => fits (before b member after)

end Ordered

namespace Scan

theorem Gapless.start_unique {first second stop : Nat} {ts : List Token}
    (one : Gapless first stop ts) (other : Gapless second stop ts) : first = second := by
  cases ts with
  | nil => exact one.trans other.symm
  | cons t ts => exact one.1.symm.trans other.1

/-- The start of the first token that ends after an offset; without one, the offset itself. -/
def covering (offset : Nat) : List Token → Nat
  | [] => offset
  | t :: ts => if offset < t.stop then t.start else covering offset ts

section Covering
variable {first stop offset : Nat} {ts : List Token}

theorem Gapless.le_covering (gapless : Gapless first stop ts) (after : first ≤ offset) :
    first ≤ covering offset ts := by
  induction ts generalizing first with
  | nil => exact after
  | cons t ts ih =>
    obtain ⟨begins, _, later⟩ := gapless
    rw [covering]
    split
    · exact Nat.le_of_eq begins.symm
    · rename_i passed
      have bound := ih later (Nat.le_of_not_lt passed)
      rw [Token.stop] at bound
      omega

/-- The tokens before the covering one end where it begins or earlier; it is the first of those that
follow, unless the offset is the end of the text. -/
theorem Gapless.split_covering (gapless : Gapless first stop ts) (after : first ≤ offset)
    (before : offset ≤ stop) : covering offset ts ≤ offset ∧
      ∃ earlier later, ts = earlier ++ later ∧ (∀ t ∈ earlier, t.stop ≤ covering offset ts) ∧
        Gapless (covering offset ts) stop later ∧ ∀ t ∈ later.head?, offset < t.stop := by
  induction ts generalizing first with
  | nil =>
    have ended : first = stop := gapless
    have place : offset = stop := by omega
    exact ⟨Nat.le_refl offset, [], [], rfl, by simp, place, by simp⟩
  | cons t ts ih =>
    obtain ⟨begins, filled, following⟩ := gapless
    rw [covering]
    split
    · rename_i covered
      refine ⟨begins ▸ after, [], t :: ts, rfl, by simp, ⟨rfl, filled, following⟩, ?_⟩
      rintro _ ⟨⟩
      exact covered
    · rename_i passed
      have past := Nat.le_of_not_lt passed
      obtain ⟨behind, earlier, later, whole, ended, rest, ends⟩ := ih following past
      refine ⟨behind, t :: earlier, later, by rw [whole]; rfl, ?_, rest, ends⟩
      exact List.forall_mem_cons.mpr ⟨following.le_covering past, ended⟩

end Covering

/-- No token of the whole text reaches over `anchor`, and a scan from there gives those after it. -/
def Restart (d : Definition) (b : Buffer) (anchor : Nat) : Prop :=
  ∃ earlier : List Token, (∀ t ∈ earlier, t.stop ≤ anchor) ∧ ∀ emitWhitespace,
    tokens d b 0 emitWhitespace =
      earlier.filter (isGiven emitWhitespace) ++ tokens d b anchor emitWhitespace

theorem restart_of_split {d : Definition} {b : Buffer} {anchor : Nat} {earlier later : List Token}
    (whole : tokens d b 0 true = earlier ++ later) (passed : ∀ t ∈ earlier, t.stop ≤ anchor)
    (gapless : Gapless anchor b.length later) : Restart d b anchor := by
  have every : tokens d b 0 true = tokensFrom d 0 b.chars := by
    rw [tokens_true, Nat.zero_min, List.drop_zero]
  have suffix : later <:+ tokensFrom d 0 b.chars := ⟨earlier, whole.symm.trans every⟩
  obtain ⟨n, bound, same⟩ := tokensFrom_suffix d suffix
  have again := gapless_tokensFrom d (0 + n) (b.chars.drop n)
  have ends : 0 + n + (b.chars.drop n).length = b.length := by
    rw [List.length_drop, Buffer.length]
    omega
  rw [ends, ← same] at again
  have place : 0 + n = anchor := again.start_unique gapless
  rw [Nat.zero_add] at place
  subst place
  have fits : min n b.length = n := Nat.min_eq_left bound
  refine ⟨earlier, passed, fun emitWhitespace => ?_⟩
  simp only [tokens, fits, Nat.zero_min, List.drop_zero]
  rw [← every, whole, List.filter_append, same, Nat.zero_add]

end Scan

namespace Anchors
open Scan

/-- Going through tokens and lines together finds the covering token of each line: a token that ends
before a line does not cover any later one. -/
theorem ofTokens_eq_map (ts : List Token) {starts : List Nat}
    (ordered : starts.Pairwise (· < ·)) : ofTokens ts starts = starts.map (covering · ts) := by
  fun_induction ofTokens ts starts with
  | case1 => rfl
  | case2 starts => exact (List.map_id starts).symm
  | case3 t ts start starts covered ih =>
    rw [ih (List.pairwise_cons.mp ordered).2, List.map_cons, covering, if_pos covered]
  | case4 t ts start starts passed ih =>
    rw [ih ordered]
    refine List.map_congr_left fun s member => ?_
    have past : ¬s < t.stop := by
      rcases List.mem_cons.mp member with rfl | later
      · exact passed
      · have after := (List.pairwise_cons.mp ordered).1 s later
        omega
    rw [covering, if_neg past]

section Build
variable (d : Definition) (b : Buffer)

theorem anchors_build : (build d b).anchors = b.lineStarts.map (covering · (tokens d b 0 true)) :=
  ofTokens_eq_map _ (Lines.starts_pairwise b.chars)

theorem forLine?_build (line : Nat) :
    (build d b).forLine? line = (b.lineStart? line).map (covering · (tokens d b 0 true)) := by
  rw [forLine?, anchors_build, List.getElem?_map]
  rfl

/-- The anchor for an offset is the one of its line. -/
theorem forOffset_build (offset : Nat) : ∃ s, b.lineStart? (b.lineOf offset) = some s ∧ s ≤ offset ∧
    (build d b).forOffset offset = covering s (tokens d b 0 true) := by
  obtain ⟨s, begins, before⟩ := Lines.getElem?_lineAt (rfl : b.lineStarts.head? = some 0) offset
  have found := forLine?_build d b (b.lineOf offset)
  rw [Buffer.lineStart?, Buffer.lineOf, begins] at found
  exact ⟨s, begins, before, congrArg (·.getD 0) found⟩

theorem restart_covering {offset : Nat} (inside : offset ≤ b.length) :
    Restart d b (covering offset (tokens d b 0 true)) ∧
      covering offset (tokens d b 0 true) ≤ offset := by
  obtain ⟨behind, earlier, later, whole, passed, rest, _⟩ :=
    (gapless_tokens d b).split_covering (Nat.zero_le offset) inside
  exact ⟨restart_of_split whole passed rest, behind⟩

/-- The anchor for an offset lies at or before it, and a scan may begin there. -/
theorem restart_forOffset (offset : Nat) :
    Restart d b ((build d b).forOffset offset) ∧ (build d b).forOffset offset ≤ offset := by
  obtain ⟨s, begins, before, same⟩ := forOffset_build d b offset
  obtain ⟨restart, behind⟩ := restart_covering d b (Lines.mem_starts (List.mem_of_getElem? begins))
  rw [same]
  exact ⟨restart, Nat.le_trans behind before⟩

end Build

/-- The tokens of a buffer that share a character with the range from `start` up to `stop`. -/
def overlapping (start stop : Nat) (ts : List Token) : List Token :=
  if start < stop then ts.filter fun t => t.start < stop ∧ start < t.stop else []

theorem tokensInRange_eq (d : Definition) (b : Buffer) (start stop : Nat) (emitWhitespace : Bool) :
    (build d b).tokensInRange d b start stop emitWhitespace =
      overlapping start stop (tokens d b 0 emitWhitespace) := by
  rw [tokensInRange, overlapping]
  by_cases filled : start < stop
  · rw [if_pos filled, if_pos filled]
    obtain ⟨⟨earlier, passed, whole⟩, before⟩ := restart_forOffset d b start
    have dropped : (earlier.filter (isGiven emitWhitespace)).filter
        (fun t => t.start < stop ∧ start < t.stop) = [] := by
      refine List.filter_eq_nil_iff.mpr fun t member inside => ?_
      have ends := passed t (List.mem_filter.mp member).1
      have shared := (of_decide_eq_true inside).2
      omega
    rw [whole, List.filter_append, dropped, List.nil_append]
    generalize (build d b).forOffset start = anchor
    have ordered : (tokens d b anchor emitWhitespace).Pairwise
        fun t u => t.start ≤ u.start ∧ t.stop ≤ u.stop :=
      (gapless_tokensFrom d _ _).pairwise.sublist List.filter_sublist
    rw [dropWhile_eq_filter, takeWhile_eq_filter, List.filter_filter]
    · refine List.filter_congr fun t _ => ?_
      rw [Bool.decide_and, ← decide_not, decide_eq_decide.mpr Nat.not_le]
    · refine (ordered.sublist List.filter_sublist).imp fun {t u} place inside => ?_
      have := of_decide_eq_true inside
      exact decide_eq_true (by omega)
    · refine ordered.imp fun {t u} place inside => ?_
      have := of_decide_eq_true inside
      exact decide_eq_true (by omega)
  · rw [if_neg filled, if_neg filled]

/-- Scanning a part of a buffer from an anchor gives the tokens of the scan of the whole buffer that
share a character with this part; a part may be given as a range of offsets or of lines. -/
theorem part_agrees_with_whole_scan (d : Definition) (b : Buffer) (emitWhitespace : Bool) :
    ∃ ts, Scanner.Yields (Scanner.start d b 0 emitWhitespace) ts ∧
      (∀ start stop, (build d b).tokensInRange d b start stop emitWhitespace =
        overlapping start stop ts) ∧
      ∀ first last, (build d b).tokensInLines d b first last emitWhitespace =
        (b.linesRange first last).map fun (start, stop) => overlapping start stop ts := by
  refine ⟨_, Scanner.yields_tokens d b 0 emitWhitespace, fun start stop => ?_, fun first last => ?_⟩
  · exact tokensInRange_eq d b start stop emitWhitespace
  · unfold tokensInLines
    cases b.linesRange first last with
    | error reason => rfl
    | ok range => exact congrArg Except.ok (tokensInRange_eq d b range.1 range.2 emitWhitespace)

end Anchors
end Highlighter
