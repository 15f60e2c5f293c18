import Highlighter.Text.Lower
import Highlighter.Proofs.Text.Blank
import Highlighter.Proofs.Text.Number

/-! Lower case is lower case: putting a text into lower case a second time changes nothing. This is
read off the table, run by run: no run leads to a code point that a run of upper-case letters
begins from. -/
namespace Highlighter.Text

/-- No code point that the first run leads to is mapped by the second one, since the two stand in
different places or take turns. -/
def CaseRun.misses (run other : CaseRun) : Bool :=
  (run.lower + (run.last - run.first)).blt other.first || other.last.blt run.lower ||
    ((run.first == run.last || run.step == 2) && other.step == 2 &&
      (run.lower + other.first) % 2 == 1)

/-- No code point that the run leads to lies from `first` to `last`. -/
def CaseRun.avoids (run : CaseRun) (first last : Nat) : Bool :=
  run.lower + (run.last - run.first) < first || last < run.lower

/-- What no lower-case letter beyond ASCII is: an ASCII character before the small letters, a blank,
a capital that is treated apart, or no character at all. -/
def neverLower : List (Nat × Nat) :=
  [(0, 0x60), (0x80, 0xc0), (0x130, 0x130), (0x3a3, 0x3a3), (0x1680, 0x1680), (0x2000, 0x205f),
    (0x3000, 0x3000), (0xd800, 0xdfff), (0x110000, 0x200000)]

theorem caseRuns_miss {run other : CaseRun} (member : run ∈ caseRuns) (member' : other ∈ caseRuns) :
    run.misses other = true := by
  have all : (caseRuns.all fun run => caseRuns.all run.misses) = true := by decide +kernel
  exact List.all_eq_true.mp (List.all_eq_true.mp all run member) other member'

theorem caseRuns_avoid : ∀ run ∈ caseRuns, ∀ range ∈ neverLower, run.avoids range.1 range.2 := by
  decide +kernel

theorem CaseRun.lower?_eq_some {run : CaseRun} {code low : Nat}
    (maps : run.lower? code = some low) :
    run.first ≤ code ∧ code ≤ run.last ∧ (code - run.first) % run.step = 0 ∧
      low = run.lower + (code - run.first) := by
  unfold CaseRun.lower? at maps
  split at maps
  · rename_i inside
    simp only [Bool.and_eq_true, decide_eq_true_eq, beq_iff_eq] at inside
    exact ⟨inside.1.1, inside.1.2, inside.2, (Option.some.inj maps).symm⟩
  · contradiction

theorem CaseRun.misses_spec {run other : CaseRun} {code low : Nat}
    (missed : run.misses other = true) (maps : run.lower? code = some low) : other.lower? low = none := by
  obtain ⟨after, before, step, rfl⟩ := lower?_eq_some maps
  cases again : other.lower? (run.lower + (code - run.first)) with
  | none => rfl
  | some lower =>
    obtain ⟨after', before', step', _⟩ := lower?_eq_some again
    simp only [CaseRun.misses, Bool.or_eq_true, Bool.and_eq_true, Nat.blt_eq, beq_iff_eq] at missed
    rcases missed with (left | right) | ⟨⟨single | turns, turns'⟩, parity⟩
    · omega
    · omega
    · rw [turns'] at step'
      omega
    · rw [turns] at step
      rw [turns'] at step'
      omega

theorem CaseRun.avoids_spec {run : CaseRun} {first last code low : Nat}
    (avoided : run.avoids first last = true) (maps : run.lower? code = some low) :
    low < first ∨ last < low := by
  obtain ⟨after, before, _, rfl⟩ := lower?_eq_some maps
  simp only [CaseRun.avoids, Bool.or_eq_true, decide_eq_true_eq] at avoided
  omega

/-- How a character of a text stands to a character of its lower case. -/
structure LowersTo (c d : Char) : Prop where
  fixed : lowerChar d = [d]
  notSigma : d ≠ capitalSigma
  notBlank : isBlank c = false → isBlank d = false
  notDot : c ≠ '.' → d ≠ '.'

/-- An ASCII character and its lower case. -/
theorem lowersTo_toLower {c : Char} (ascii : c.toNat < 0x80) : LowersTo c c.toLower := by
  have all : ∀ n < 0x80, (Char.ofNat n).toLower.toNat < 0x80 ∧
      (Char.ofNat n).toLower.toLower = (Char.ofNat n).toLower ∧
      (isBlank (Char.ofNat n) = false → isBlank (Char.ofNat n).toLower = false) ∧
      (Char.ofNat n ≠ '.' → (Char.ofNat n).toLower ≠ '.') := by decide +kernel
  obtain ⟨small, again, notBlank, notDot⟩ := Char.ofNat_toNat c ▸ all c.toNat ascii
  refine ⟨by simp [lowerChar, small, again], ?_, notBlank, notDot⟩
  intro same
  rw [same] at small
  exact absurd small (by decide)

/-- A character that the table leads to. -/
theorem lowersTo_ofRun {c : Char} {run : CaseRun} {low : Nat} (member : run ∈ caseRuns)
    (maps : run.lower? c.toNat = some low) : LowersTo c (Char.ofNat low) := by
  have outside : ∀ range ∈ neverLower, low < range.1 ∨ range.2 < low := fun range excluded =>
    CaseRun.avoids_spec (caseRuns_avoid run member range excluded) maps
  simp only [neverLower, List.forall_mem_cons] at outside
  obtain ⟨letter, latin, dotted, sigma, ogham, spaces, wide, surrogate, large, _⟩ := outside
  have bounded : low < 0x200000 := by
    have checked : ∀ run ∈ caseRuns, run.lower + (run.last - run.first) < 0x200000 := by
      decide +kernel
    obtain ⟨after, before, _, rfl⟩ := CaseRun.lower?_eq_some maps
    have := checked run member
    omega
  have valid : low.isValidChar := by
    simp only [Nat.isValidChar]
    omega
  have code : (Char.ofNat low).toNat = low := toNat_ofNat valid
  refine ⟨?_, ?_, fun _ => ?_, fun _ => ?_⟩
  · by_cases ascii : low < 0x80
    · have small : ∀ n < 0x80, 0x60 < n → (Char.ofNat n).toLower = Char.ofNat n := by
        decide +kernel
      simp [lowerChar, code, ascii, small low ascii (by omega)]
    · have settled : caseRuns.findSome? (CaseRun.lower? · low) = none :=
        List.findSome?_eq_none_iff.mpr fun other included =>
          CaseRun.misses_spec (caseRuns_miss member included) maps
      have notDotted : low ≠ 0x130 := by omega
      simp [lowerChar, code, ascii, notDotted, settled]
  · intro same
    have : low = 0x3a3 := by rw [← code, same]; decide
    omega
  · simp only [isBlank, code, Bool.or_eq_false_iff, Bool.and_eq_false_iff, decide_eq_false_iff_not,
      beq_eq_false_iff_ne]
    omega
  · intro same
    have : low = 0x2e := by rw [← code, same]; decide
    omega

theorem lowersTo_of_mem {c d : Char} (member : d ∈ lowerChar c) : LowersTo c d := by
  unfold lowerChar at member
  split at member
  · rename_i ascii
    rw [List.mem_singleton] at member
    exact member ▸ lowersTo_toLower ascii
  rename_i wide
  split at member
  · -- the dotted capital: neither of its two characters is mapped any further
    simp only [List.mem_cons, List.not_mem_nil, or_false] at member
    rcases member with rfl | rfl
    · exact ⟨by decide +kernel, by decide, fun _ => by decide, fun _ => by decide⟩
    · exact ⟨by decide +kernel, by decide, fun _ => by decide, fun _ => by decide⟩
  rename_i dotted
  split at member
  · rename_i low found
    obtain ⟨run, included, maps⟩ := List.exists_of_findSome?_eq_some found
    rw [List.mem_singleton] at member
    exact member ▸ lowersTo_ofRun included maps
  · rename_i settled
    rw [List.mem_singleton] at member
    subst member
    refine ⟨by simp [lowerChar, wide, dotted, settled], ?_, id, id⟩
    rintro rfl
    exact absurd settled (by decide +kernel)

theorem lowersTo_lowerSigma (before after : List Char) :
    LowersTo capitalSigma (lowerSigma before after) := by
  unfold lowerSigma
  split
  · exact ⟨by decide +kernel, by decide, by decide, by decide⟩
  · exact ⟨by decide +kernel, by decide, by decide, by decide⟩

theorem lowerChar_ne_nil (c : Char) : lowerChar c ≠ [] := by
  unfold lowerChar
  split
  · simp
  split
  · simp
  split <;> simp

/-- The lower case of a text is put together of what its characters are lowered to. -/
theorem lowerAfter_cons (before : List Char) (c : Char) (rest : List Char) :
    ∃ piece, lowerAfter before (c :: rest) = piece ++ lowerAfter (c :: before) rest ∧
      piece ≠ [] ∧ ∀ d ∈ piece, LowersTo c d := by
  refine ⟨_, rfl, ?_⟩
  split
  · rename_i sigma
    refine ⟨by simp, fun d member => ?_⟩
    rw [List.mem_singleton] at member
    exact sigma ▸ member ▸ lowersTo_lowerSigma before rest
  · exact ⟨lowerChar_ne_nil c, fun d => lowersTo_of_mem⟩

theorem lowerAfter_ne_nil {before cs : List Char} (nonempty : cs ≠ []) :
    lowerAfter before cs ≠ [] := by
  cases cs with
  | nil => exact absurd rfl nonempty
  | cons c rest =>
    obtain ⟨piece, spelled, filled, _⟩ := lowerAfter_cons before c rest
    simp [spelled, filled]

theorem exists_lowersTo {before cs : List Char} {d : Char} (member : d ∈ lowerAfter before cs) :
    ∃ c, LowersTo c d := by
  induction cs generalizing before with
  | nil => exact absurd member List.not_mem_nil
  | cons c rest ih =>
    obtain ⟨piece, spelled, _, lowers⟩ := lowerAfter_cons before c rest
    rw [spelled, List.mem_append] at member
    rcases member with first | later
    · exact ⟨c, lowers d first⟩
    · exact ih later

theorem lowerAfter_eq_self {cs : List Char} (before : List Char)
    (settled : ∀ d ∈ cs, lowerChar d = [d] ∧ d ≠ capitalSigma) : lowerAfter before cs = cs := by
  induction cs generalizing before with
  | nil => rfl
  | cons d rest ih =>
    obtain ⟨fixed, notSigma⟩ := settled d List.mem_cons_self
    have following := ih (d :: before) fun e member =>
      settled e (List.mem_cons_of_mem _ member)
    rw [lowerAfter, if_neg notSigma, fixed, following]
    rfl

/-- A text in lower case stays as it is. -/
theorem lower_lower (cs : List Char) : lower (lower cs) = lower cs :=
  lowerAfter_eq_self [] fun _ member =>
    have ⟨_, lowers⟩ := exists_lowersTo member
    ⟨lowers.fixed, lowers.notSigma⟩

theorem head?_lower {cs : List Char} {d : Char} (head : (lower cs).head? = some d) :
    ∃ c, cs.head? = some c ∧ LowersTo c d := by
  cases cs with
  | nil => simp [lower, lowerAfter] at head
  | cons c rest =>
    obtain ⟨piece, spelled, filled, lowers⟩ := lowerAfter_cons [] c rest
    refine ⟨c, rfl, lowers d ?_⟩
    cases piece with
    | nil => exact absurd rfl filled
    | cons first others =>
      have same : first = d := by simpa [lower, spelled] using head
      exact same ▸ List.mem_cons_self

theorem getLast?_lowerAfter {before cs : List Char} {d : Char}
    (last : (lowerAfter before cs).getLast? = some d) :
    ∃ c, cs.getLast? = some c ∧ LowersTo c d := by
  induction cs generalizing before with
  | nil => simp [lowerAfter] at last
  | cons c rest ih =>
    obtain ⟨piece, spelled, _, lowers⟩ := lowerAfter_cons before c rest
    rw [spelled, List.getLast?_append] at last
    cases rest with
    | nil =>
      simp only [lowerAfter, List.getLast?_nil, Option.none_or] at last
      exact ⟨c, rfl, lowers d (List.mem_of_getLast? last)⟩
    | cons e rest =>
      have more : lowerAfter (c :: before) (e :: rest) ≠ [] := lowerAfter_ne_nil (by simp)
      rw [List.getLast?_eq_some_getLast more, Option.some_or,
        ← List.getLast?_eq_some_getLast more] at last
      obtain ⟨c', final, lowers'⟩ := ih last
      exact ⟨c', by simpa using final, lowers'⟩

end Highlighter.Text
