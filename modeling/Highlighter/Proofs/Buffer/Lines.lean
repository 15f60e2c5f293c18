import Highlighter.Buffer.Lines
import Highlighter.Proofs.Bisection

/-! The lines of a text begin in ascending order and inside of it, and an offset lies on a line that
begins at or before it, which may be searched by halves. The line of the next offset is another one
only after a line end. -/
namespace Highlighter.Lines

theorem mem_startsAfter {offset s : Nat} {cs : List Char} (member : s ∈ startsAfter offset cs) :
    offset < s ∧ s ≤ offset + cs.length := by
  induction cs generalizing offset with
  | nil => cases member
  | cons c rest ih =>
    simp only [startsAfter] at member
    rw [List.length_cons]
    split at member
    · rcases List.mem_cons.mp member with rfl | later
      · omega
      · have bounds := ih later
        omega
    · have bounds := ih member
      omega

theorem startsAfter_pairwise (offset : Nat) (cs : List Char) :
    (startsAfter offset cs).Pairwise (· < ·) := by
  induction cs generalizing offset with
  | nil => exact .nil
  | cons c rest ih =>
    simp only [startsAfter]
    split
    · exact .cons (fun s member => (mem_startsAfter member).1) (ih (offset + 1))
    · exact ih (offset + 1)

theorem mem_starts {s : Nat} {cs : List Char} (member : s ∈ starts cs) : s ≤ cs.length := by
  rcases List.mem_cons.mp member with rfl | later
  · exact Nat.zero_le _
  · have bounds := mem_startsAfter later
    omega

theorem starts_pairwise (cs : List Char) : (starts cs).Pairwise (· < ·) :=
  .cons (fun _ member => (mem_startsAfter member).1) (startsAfter_pairwise 0 cs)

/-- The line that holds an offset begins at or before it. -/
theorem getElem?_lineAt {starts : List Nat} (first : 0 ∈ starts.head?) (offset : Nat) :
    ∃ s, starts[lineAt starts offset]? = some s ∧ s ≤ offset := by
  have prior := List.takeWhile_prefix (l := starts) (· ≤ offset)
  have filled : 0 < (starts.takeWhile (· ≤ offset)).length := by
    cases starts with
    | nil => cases first
    | cons s rest =>
      cases first
      simp
  have inside : lineAt starts offset < (starts.takeWhile (· ≤ offset)).length := by
    rw [lineAt]
    omega
  have kept := List.mem_takeWhile_imp (List.getElem_mem inside)
  refine ⟨_, ?_, of_decide_eq_true kept⟩
  rw [prior.getElem inside]
  exact List.getElem?_eq_getElem _

/-- No line begins at the place where counting begins. -/
theorem takeWhile_startsAfter (offset : Nat) (cs : List Char) :
    (startsAfter offset cs).takeWhile (· ≤ offset) = [] := by
  rw [List.takeWhile_eq_nil_iff]
  intro filled early
  have bounds := mem_startsAfter (List.get_mem (startsAfter offset cs) ⟨0, filled⟩)
  have late := of_decide_eq_true early
  omega

theorem takeWhile_cons_of_le {s place : Nat} (passed : s ≤ place) (later : List Nat) :
    (s :: later).takeWhile (· ≤ place) = s :: later.takeWhile (· ≤ place) :=
  List.takeWhile_cons_of_pos (decide_eq_true passed)

/-- One character more holds one line end more at most: the one after it. -/
theorem length_takeWhile_succ {offset n place : Nat} {cs rest : List Char} {c : Char}
    (here : offset + n = place) (ahead : cs.drop n = c :: rest) :
    ((startsAfter offset cs).takeWhile (· ≤ place + 1)).length =
      ((startsAfter offset cs).takeWhile (· ≤ place)).length +
        if endsAfter c rest then 1 else 0 := by
  induction n generalizing offset cs with
  | zero =>
    obtain rfl : offset = place := here
    rw [List.drop_zero] at ahead
    rw [ahead, takeWhile_startsAfter, startsAfter]
    split
    · rw [takeWhile_cons_of_le (Nat.le_refl _), takeWhile_startsAfter]
      rfl
    · rw [takeWhile_startsAfter]
      rfl
  | succ n ih =>
    cases cs with
    | nil => cases ahead
    | cons first cs =>
      have next : offset + 1 + n = place := by omega
      have later := ih next ahead
      rw [startsAfter]
      split
      · have passed : offset + 1 ≤ place := by omega
        rw [takeWhile_cons_of_le (Nat.le_succ_of_le passed), takeWhile_cons_of_le passed,
          List.length_cons, List.length_cons, later]
        omega
      · exact later

theorem lineAt_starts (cs : List Char) (offset : Nat) :
    lineAt (starts cs) offset = ((startsAfter 0 cs).takeWhile (· ≤ offset)).length := by
  rw [lineAt, starts, takeWhile_cons_of_le (Nat.zero_le _), List.length_cons, Nat.add_sub_cancel]

/-- The table of lines and the line ends agree from one character to the next. -/
theorem lineAt_succ {n : Nat} {cs rest : List Char} {c : Char} (ahead : cs.drop n = c :: rest) :
    lineAt (starts cs) (n + 1) =
      if endsAfter c rest then lineAt (starts cs) n + 1 else lineAt (starts cs) n := by
  have counted := length_takeWhile_succ (Nat.zero_add n) ahead
  rw [lineAt_starts, lineAt_starts, counted]
  split <;> rfl

/-- Places past the end lie on the line of the end. -/
theorem lineAt_min (cs : List Char) (n : Nat) :
    lineAt (starts cs) (min n cs.length) = lineAt (starts cs) n := by
  rcases Nat.le_total n cs.length with inside | outside
  · rw [Nat.min_eq_left inside]
  · have all : ∀ p, cs.length ≤ p → (starts cs).takeWhile (· ≤ p) = starts cs := by
      intro p past
      rw [List.takeWhile_eq_self_iff]
      intro s member
      exact decide_eq_true (Nat.le_trans (mem_starts member) past)
    rw [Nat.min_eq_right outside, lineAt, lineAt, all _ (Nat.le_refl _), all n outside]

/-- Of two lines the later one begins at or before an offset only when the earlier one does. -/
theorem passing_of_pairwise {starts : List Nat} (ordered : starts.Pairwise (· < ·)) (offset : Nat) :
    starts.Pairwise fun s t => decide (t ≤ offset) = true → decide (s ≤ offset) = true := by
  refine ordered.imp fun {s t} below later => ?_
  have bound := of_decide_eq_true later
  exact decide_eq_true (by omega)

theorem lineAt_eq_border {starts : List Nat} (ordered : starts.Pairwise (· < ·)) (offset : Nat) :
    lineAt starts offset = Bisection.border (· ≤ offset) starts 0 starts.length - 1 := by
  rw [lineAt, Bisection.border_eq (passing_of_pairwise ordered offset)]

end Highlighter.Lines
