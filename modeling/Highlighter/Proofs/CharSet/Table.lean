import Highlighter.CharSet
import Highlighter.Proofs.Text.Number

/-! The table of a set of characters. Different places are different bits, so marking one place
changes what is read there and nowhere else, and a table is determined by what is read at all its
places. Each place belongs to one character. -/
namespace Highlighter.CharSet

theorem toBitVec_bit (slot : Slot) : slot.bit.toBitVec = BitVec.twoPow 64 slot.position := by
  have small : slot.position.val % 64 = slot.position := Nat.mod_eq_of_lt slot.position.isLt
  rw [Slot.bit, UInt64.toBitVec_shiftLeft, BitVec.twoPow_eq]
  simp [small]

/-- What is read at a place is the bit of its word. -/
theorem marks_eq (s : CharSet) (slot : Slot) :
    s.marks slot = (s.wordAt slot).toBitVec.getLsbD slot.position := by
  have absent : (0 : UInt64).toBitVec = 0#64 := rfl
  have present : BitVec.twoPow 64 slot.position ≠ 0#64 := by
    intro none
    have bit := BitVec.getLsbD_twoPow (w := 64) slot.position slot.position
    rw [none] at bit
    simp at bit
  rw [marks, Bool.eq_iff_iff, bne_iff_ne, ne_eq, ← UInt64.toBitVec_inj, UInt64.toBitVec_and,
    toBitVec_bit, BitVec.and_twoPow, absent]
  split
  · rename_i set
    exact iff_of_true present set
  · rename_i unset
    exact iff_of_false (not_not_intro rfl) unset

theorem marks_empty (slot : Slot) : (∅ : CharSet).marks slot = false := by
  have word : (∅ : CharSet).wordAt slot = 0 := Vector.getElem_replicate slot.word.isLt
  rw [marks, word]
  simp

theorem marks_mark (s : CharSet) (p q : Slot) :
    (s.mark p).marks q = if q = p then true else s.marks q := by
  simp only [marks_eq, wordAt, mark, Fin.getElem_fin, Vector.getElem_set]
  split
  · rename_i same
    rw [UInt64.toBitVec_or, toBitVec_bit, BitVec.getLsbD_or, BitVec.getLsbD_twoPow]
    simp [same, Slot.ext_iff, Fin.ext_iff, eq_comm, Bool.or_comm]
  · rename_i other
    simp [Slot.ext_iff, Fin.ext_iff, Ne.symm other]

theorem marks_unmark (s : CharSet) (p q : Slot) :
    (s.unmark p).marks q = if q = p then false else s.marks q := by
  simp only [marks_eq, wordAt, unmark, Fin.getElem_fin, Vector.getElem_set]
  split
  · rename_i same
    rw [UInt64.toBitVec_and, UInt64.toBitVec_not, toBitVec_bit, BitVec.getLsbD_and,
      BitVec.getLsbD_not, BitVec.getLsbD_twoPow]
    simp [same, Slot.ext_iff, Fin.ext_iff, eq_comm, Bool.and_comm]
  · rename_i other
    simp [Slot.ext_iff, Fin.ext_iff, Ne.symm other]

theorem table_ext {s t : CharSet} (same : ∀ slot, s.marks slot = t.marks slot) :
    s.table = t.table := by
  refine Vector.ext fun word bound => UInt64.toBitVec_inj.mp (BitVec.eq_of_getLsbD_eq ?_)
  intro position small
  have here := same ⟨⟨word, bound⟩, ⟨position, small⟩⟩
  rwa [marks_eq, marks_eq] at here

theorem table_empty_iff {s : CharSet} :
    s.table.all (· == 0) = true ↔ ∀ slot, s.marks slot = false := by
  rw [Vector.all_eq_true]
  constructor
  · intro zero slot
    have word := beq_iff_eq.mp (zero slot.word slot.word.isLt)
    rw [marks, wordAt, Fin.getElem_fin, word]
    simp
  · intro unmarked word bound
    have same : s.table = (∅ : CharSet).table :=
      table_ext fun slot => (unmarked slot).trans (marks_empty slot).symm
    rw [same]
    exact beq_iff_eq.mpr (Vector.getElem_replicate bound)

theorem slot?_eq_some_iff {c : Char} {slot : Slot} :
    slot? c = some slot ↔ c.toNat = 64 * slot.word + slot.position := by
  have word := slot.word.isLt
  have position := slot.position.isLt
  unfold slot?
  split
  · simp only [Option.some.injEq, Slot.ext_iff, Fin.ext_iff]
    omega
  · simp only [reduceCtorEq, false_iff]
    omega

theorem slot?_eq_none_iff {c : Char} : slot? c = none ↔ 0x100 ≤ c.toNat := by
  unfold slot?
  split
  · rename_i narrow
    exact iff_of_false (by simp) (Nat.not_le.mpr narrow)
  · rename_i wide
    exact iff_of_true rfl (Nat.le_of_not_lt wide)

theorem eq_of_slot? {a c : Char} {slot : Slot} (one : slot? a = some slot)
    (other : slot? c = some slot) : a = c := by
  rw [slot?_eq_some_iff] at one other
  exact Char.toNat_inj.mp (one.trans other.symm)

theorem exists_slot? (slot : Slot) : ∃ c, slot? c = some slot := by
  have valid : (64 * slot.word + slot.position : Nat).isValidChar := .inl (by omega)
  exact ⟨_, slot?_eq_some_iff.mpr (Text.toNat_ofNat valid)⟩

theorem bitCount_eq (word : UInt64) :
    bitCount word = (List.range 64).countP (word.toBitVec.getLsbD ·) := by
  have counts : ∀ n, word.toBitVec.cpopNatRec n 0 = (List.range n).countP (word.toBitVec.getLsbD ·) := by
    intro n
    induction n with
    | zero => rfl
    | succ n ih =>
      rw [BitVec.cpopNatRec_succ, BitVec.cpopNatRec_add, ih, List.range_succ, List.countP_append,
        List.countP_singleton]
      cases word.toBitVec.getLsbD n <;> rfl
  rw [bitCount, BitVec.toNat_cpop, counts]

theorem foldl_words (f : Nat → UInt64 → Nat) (first : Nat) (words : Vector UInt64 4) :
    words.foldl f first = f (f (f (f first words[0]) words[1]) words[2]) words[3] := by
  obtain ⟨⟨list⟩, length⟩ := words
  match list, length with
  | [a, b, c, d], _ => simp

end Highlighter.CharSet
