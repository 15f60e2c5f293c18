import Highlighter.Proofs.CharSet
import Mathlib.Data.Finset.Card

/-! Sets of characters are finite sets. A change of a set of characters changes what it holds as the
same change of a finite set does, and all that a set of characters shows follows from what it holds. -/
namespace Highlighter.CharSet

/-- What is done to a set of characters. -/
inductive Change where
  | insert (c : Char)
  | remove (c : Char)
  | extend (cs : List Char)

def change (s : CharSet) : Change → CharSet
  | .insert c => (s.insert c).2
  | .remove c => (s.remove c).2
  | .extend cs => s.addAll cs

/-- The set that changes make of the empty one. -/
def made (changes : List Change) : CharSet := changes.foldl change ∅

namespace Change

/-- What is done to a finite set. -/
def apply (m : Finset Char) : Change → Finset Char
  | .insert c => Insert.insert c m
  | .remove c => m.erase c
  | .extend cs => m ∪ cs.toFinset

/-- The finite set that changes make of the empty one. -/
def made (changes : List Change) : Finset Char := changes.foldl apply ∅

end Change

def Holds (s : CharSet) (m : Finset Char) : Prop := ∀ c, c ∈ s ↔ c ∈ m

variable {s t : CharSet} {m n : Finset Char}

namespace Holds

theorem change (holds : Holds s m) (change : Change) : Holds (s.change change) (change.apply m) := by
  intro c
  cases change with
  | insert a => rw [CharSet.change, mem_insert, Change.apply, Finset.mem_insert, holds]
  | remove a => rw [CharSet.change, mem_remove, Change.apply, Finset.mem_erase, holds, and_comm]
  | extend cs =>
    rw [CharSet.change, mem_addAll, Change.apply, Finset.mem_union, List.mem_toFinset, holds, or_comm]

theorem changes (holds : Holds s m) (changes : List Change) :
    Holds (changes.foldl CharSet.change s) (changes.foldl Change.apply m) := by
  induction changes generalizing s m with
  | nil => exact holds
  | cons change rest ih => exact ih (holds.change change)

theorem eq_iff (holds : Holds s m) (other : Holds t n) : s = t ↔ m = n := by
  constructor
  · rintro rfl
    exact Finset.ext fun c => (holds c).symm.trans (other c)
  · rintro rfl
    exact ext_mem fun c => (holds c).trans (other c).symm

theorem toFinset_members (holds : Holds s m) : s.members.toFinset = m :=
  Finset.ext fun c => List.mem_toFinset.trans (holds c)

theorem size (holds : Holds s m) : s.size = m.card := by
  have distinct : s.members.Nodup := s.pairwise_members.imp Char.ne_of_lt
  rw [size_eq, ← List.toFinset_card_of_nodup distinct, holds.toFinset_members]

theorem isEmpty_iff (holds : Holds s m) : s.isEmpty = true ↔ m = ∅ := by
  rw [CharSet.isEmpty_iff, Finset.eq_empty_iff_forall_notMem]
  exact forall_congr' fun c => not_congr (holds c)

theorem insert_iff (holds : Holds s m) (c : Char) : (s.insert c).1 = true ↔ Insert.insert c m ≠ m := by
  rw [insert_fst, Bool.not_eq_true', Bool.eq_false_iff, ne_eq, contains_iff, holds, ne_eq,
    Finset.insert_eq_self]

theorem remove_iff (holds : Holds s m) (c : Char) : (s.remove c).1 = true ↔ m.erase c ≠ m := by
  rw [remove_fst, contains_iff, holds, ne_eq, Finset.erase_eq_self, not_not]

end Holds

theorem holds_made (changes : List Change) : Holds (made changes) (Change.made changes) := by
  have empty : Holds ∅ ∅ := fun c => iff_of_false (not_mem_empty c) (Finset.notMem_empty c)
  exact empty.changes changes

/-- All that a set of characters shows is what a finite set shows. -/
structure Represents (s : CharSet) (m : Finset Char) : Prop where
  contains : ∀ c, s.contains c = true ↔ c ∈ m
  /-- Whether an insertion has changed the set. -/
  inserted : ∀ c, (s.insert c).1 = true ↔ Insert.insert c m ≠ m
  removed : ∀ c, (s.remove c).1 = true ↔ m.erase c ≠ m
  size : s.size = m.card
  isEmpty : s.isEmpty = true ↔ m = ∅
  listed : ∀ c, c ∈ s.members ↔ c ∈ m
  ascending : s.members.Pairwise (· < ·)
  text : s.toString.toList = s.members
  restored : ofString s.toString = s

/-- After any changes of the empty set, in whatever order, a set of characters represents the
finite set that the same changes make, and two of them are equal exactly when these finite sets are. -/
theorem sets_are_finite_sets (changes others : List Change) :
    Represents (made changes) (Change.made changes) ∧
      (made changes = made others ↔ Change.made changes = Change.made others) := by
  have holds := holds_made changes
  refine ⟨?_, holds.eq_iff (holds_made others)⟩
  constructor
  · intro c
    rw [contains_iff, holds]
  · exact holds.insert_iff
  · exact holds.remove_iff
  · exact holds.size
  · exact holds.isEmpty_iff
  · exact holds
  · exact pairwise_members _
  · exact String.toList_ofList
  · exact ofString_toString _

end Highlighter.CharSet
