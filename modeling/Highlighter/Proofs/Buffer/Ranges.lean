import Highlighter.Buffer.Basic

/-! The characters of a buffer between two offsets, and those that two ranges have in common. Where
one of the ranges is cut in two, its parts have in common with the other what the whole has. -/
namespace Highlighter.Buffer

variable (b : Buffer)

/-- The characters from `start` up to `stop`, as far as there are any. -/
def between (start stop : Nat) : List Char := (b.chars.take stop).drop start

theorem between_eq_nil {start stop : Nat} (reversed : stop ≤ start) : b.between start stop = [] := by
  apply List.drop_of_length_le
  exact Nat.le_trans (List.length_take_le stop b.chars) reversed

theorem between_length : b.between 0 b.length = b.chars := by
  rw [between, List.drop_zero]
  exact List.take_length

theorem between_append {start mid stop : Nat} (before : start ≤ mid) (after : mid ≤ stop) :
    b.between start mid ++ b.between mid stop = b.between start stop := by
  have parts : stop - start = (mid - start) + (stop - mid) := by omega
  have later : b.chars.drop mid = (b.chars.drop start).drop (mid - start) := by
    rw [List.drop_drop, Nat.add_sub_cancel' before]
  simp only [between, List.drop_take]
  rw [parts, List.take_add, later]

theorem mem_chars_of_mem_between {start stop : Nat} {c : Char} (member : c ∈ b.between start stop) :
    c ∈ b.chars :=
  List.mem_of_mem_take (List.mem_of_mem_drop member)

theorem slice?_eq {start stop : Nat} (ordered : start ≤ stop) (inside : stop ≤ b.length) :
    b.slice? start stop = some (b.between start stop) := by
  rw [slice?, if_pos ⟨ordered, inside⟩, between, List.drop_take]

/-- A part that is not empty ends as the text before its end does. -/
theorem getLast?_between {start stop : Nat} (filled : b.between start stop ≠ []) :
    (b.between start stop).getLast? = (b.chars.take stop).getLast? := by
  have short : start < (b.chars.take stop).length := by
    apply Nat.lt_of_not_le
    intro past
    exact filled (List.drop_of_length_le past)
  rw [between, List.getLast?_drop, if_neg (Nat.not_le.mpr short)]

/-- The characters of the range from `first` up to `last` that lie from `start` up to `stop`. -/
def shared (first last start stop : Nat) : List Char :=
  b.between (max first start) (min last stop)

theorem shared_comm (first last start stop : Nat) :
    b.shared first last start stop = b.shared start stop first last := by
  rw [shared, shared, Nat.max_comm, Nat.min_comm]

theorem shared_eq_nil {first last start stop : Nat} (apart : last ≤ start) :
    b.shared first last start stop = [] := by
  apply between_eq_nil
  exact Nat.le_trans (Nat.min_le_left last stop) (Nat.le_trans apart (Nat.le_max_right first start))

theorem shared_length {start stop : Nat} (inside : stop ≤ b.length) :
    b.shared 0 b.length start stop = b.between start stop := by
  rw [shared, Nat.zero_max, Nat.min_eq_right inside]

theorem shared_self (place start stop : Nat) : b.shared place place start stop = [] := by
  apply between_eq_nil
  exact Nat.le_trans (Nat.min_le_left place stop) (Nat.le_max_left place start)

theorem shared_append {first mid last : Nat} (before : first ≤ mid) (after : mid ≤ last)
    (start stop : Nat) :
    b.shared first mid start stop ++ b.shared mid last start stop =
      b.shared first last start stop := by
  by_cases left : mid ≤ start
  · rw [shared_eq_nil b left, List.nil_append, shared, shared, Nat.max_eq_right left,
      Nat.max_eq_right (Nat.le_trans before left)]
  by_cases right : stop ≤ mid
  · have second : b.shared mid last start stop = [] := by
      rw [shared_comm]
      exact shared_eq_nil b right
    rw [second, List.append_nil, shared, shared, Nat.min_eq_right right,
      Nat.min_eq_right (Nat.le_trans right after)]
  · simp only [shared]
    rw [Nat.min_eq_left (by omega : mid ≤ stop), Nat.max_eq_left (by omega : start ≤ mid)]
    apply between_append
    · exact Nat.max_le.mpr ⟨before, by omega⟩
    · exact Nat.le_min.mpr ⟨after, by omega⟩

end Highlighter.Buffer
