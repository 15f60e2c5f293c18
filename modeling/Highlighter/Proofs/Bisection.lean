import Mathlib.Data.List.TakeWhile

/-! Searching an ordered list by halves. The items that pass a test stand before those that do not,
so one item in the middle tells on which side the border lies, and the search finds what going
through the list from its beginning finds. -/
namespace Highlighter.Bisection
variable {α : Type} {p : α → Bool} {l : List α}

/-- The place of the first item of `l`, from `low` on and before `high`, that fails the test. -/
def border (p : α → Bool) (l : List α) (low high : Nat) : Nat :=
  if low < high then
    if (l[(low + high) / 2]?).any p then border p l ((low + high) / 2 + 1) high
    else border p l low ((low + high) / 2)
  else low
termination_by high - low

/-- An item passes the test when it stands before the border. -/
theorem any_getElem?_iff (ordered : l.Pairwise fun a b => p b = true → p a = true) (i : Nat) :
    (l[i]?).any p = true ↔ i < (l.takeWhile p).length := by
  induction ordered generalizing i with
  | nil => simp
  | @cons a rest before _ ih =>
    by_cases passes : p a
    · rw [List.takeWhile_cons_of_pos passes, List.length_cons]
      cases i with
      | zero => simp [passes]
      | succ i =>
        rw [List.getElem?_cons_succ, ih]
        exact Nat.succ_lt_succ_iff.symm
    · rw [List.takeWhile_cons_of_neg passes]
      constructor
      · intro found
        obtain ⟨b, here, later⟩ := (Option.any_eq_true p _).mp found
        rcases List.mem_cons.mp (List.mem_of_getElem? here) with rfl | member
        · exact absurd later passes
        · exact absurd (before b member later) passes
      · intro inside
        cases inside

theorem border_between (ordered : l.Pairwise fun a b => p b = true → p a = true) {low high : Nat}
    (above : low ≤ (l.takeWhile p).length) (below : (l.takeWhile p).length ≤ high) :
    border p l low high = (l.takeWhile p).length := by
  fun_induction border p l low high with
  | case1 low high more passes ih =>
    exact ih ((any_getElem?_iff ordered _).mp passes) below
  | case2 low high more fails ih =>
    exact ih above (Nat.le_of_not_lt (mt (any_getElem?_iff ordered _).mpr fails))
  | case3 low high ended => omega

/-- Searching by halves counts the items that pass. -/
theorem border_eq (ordered : l.Pairwise fun a b => p b = true → p a = true) :
    border p l 0 l.length = (l.takeWhile p).length :=
  border_between ordered (Nat.zero_le _) (List.takeWhile_prefix p).length_le

end Highlighter.Bisection
