import Highlighter.Proofs.Text.Blank

/-! The lines of a text. A line is ended by a line feed, which a carriage return may stand before,
and the last line need not be ended. Line ends apart these are the pieces between the line feeds, so
who trims each line may as well read the pieces. -/
namespace Highlighter.Text

/-- A line without the carriage return at its end. -/
def withoutReturn (raw : List Char) : List Char :=
  if raw.getLast? = some '\r' then raw.dropLast else raw

/-- The lines among the pieces between line feeds. A carriage return belongs to the line feed after
it, and nothing after the last line feed is no line. -/
def linesOf : List (List Char) → List (List Char)
  | [] => []
  | [last] => if last.isEmpty then [] else [last]
  | raw :: next :: rest => withoutReturn raw :: linesOf (next :: rest)

def lines (text : String) : List (List Char) := linesOf (splitAt '\n' text.toList)

theorem newline_not_mem_linesOf {pieces : List (List Char)}
    (unbroken : ∀ piece ∈ pieces, '\n' ∉ piece) : ∀ raw ∈ linesOf pieces, '\n' ∉ raw := by
  induction pieces using linesOf.induct with
  | case1 => exact unbroken
  | case2 last empty =>
    rw [linesOf, if_pos empty]
    exact fun _ member => absurd member List.not_mem_nil
  | case3 last filled => rwa [linesOf, if_neg filled]
  | case4 raw next rest ih =>
    obtain ⟨first, others⟩ := List.forall_mem_cons.mp unbroken
    rw [linesOf]
    refine List.forall_mem_cons.mpr ⟨fun member => first ?_, ih others⟩
    unfold withoutReturn at member
    split at member
    · exact List.dropLast_subset raw member
    · exact member

theorem newline_not_mem_lines (text : String) : ∀ raw ∈ lines text, '\n' ∉ raw :=
  newline_not_mem_linesOf (not_mem_of_mem_splitAt text.toList)

/-- Lines that are ended one by one are the lines of a text. -/
theorem exists_lines_eq {ls : List (List Char)} (unbroken : ∀ raw ∈ ls, '\n' ∉ raw) :
    ∃ text, lines text = ls := by
  refine ⟨String.ofList (ls.flatMap (· ++ ['\r', '\n'])), ?_⟩
  rw [lines, String.toList_ofList]
  induction ls with
  | nil => rfl
  | cons raw rest ih =>
    obtain ⟨first, others⟩ := List.forall_mem_cons.mp unbroken
    have piece : '\n' ∉ raw ++ ['\r'] := by simpa using first
    have apart : (raw ++ ['\r', '\n']) ++ rest.flatMap (· ++ ['\r', '\n']) =
        (raw ++ ['\r']) ++ '\n' :: rest.flatMap (· ++ ['\r', '\n']) := by simp
    have ended : withoutReturn (raw ++ ['\r']) = raw := by simp [withoutReturn]
    have following := ih others
    rw [List.flatMap_cons, apart, splitAt_append, splitAt_of_not_mem piece, List.singleton_append]
    cases pieces : splitAt '\n' (rest.flatMap (· ++ ['\r', '\n'])) with
    | nil => exact absurd pieces (splitAt_ne_nil _)
    | cons next more =>
      rw [pieces] at following
      rw [linesOf, ended, following]

theorem isBlank_return : isBlank '\r' = true := by decide

theorem trim_withoutReturn (raw : List Char) : trim (withoutReturn raw) = trim raw := by
  unfold withoutReturn
  split
  · rename_i last
    obtain ⟨front, rfl⟩ := List.getLast?_eq_some_iff.mp last
    rw [List.dropLast_concat, trim_append_blank isBlank_return]
  · rfl

/-- A line has the same text as its piece; there may be one more piece, which is empty. -/
theorem map_trim_linesOf (pieces : List (List Char)) :
    pieces.map trim = (linesOf pieces).map trim ∨
      pieces.map trim = (linesOf pieces).map trim ++ [[]] := by
  induction pieces using linesOf.induct with
  | case1 => exact .inl rfl
  | case2 last empty =>
    rw [List.isEmpty_iff] at empty
    subst empty
    exact .inr rfl
  | case3 last filled =>
    rw [linesOf, if_neg filled]
    exact .inl rfl
  | case4 raw next rest ih =>
    have first : (linesOf (raw :: next :: rest)).map trim =
        trim raw :: (linesOf (next :: rest)).map trim := by
      rw [linesOf, List.map_cons, trim_withoutReturn]
    rw [first, List.map_cons, List.cons_append]
    exact ih.imp (congrArg _) (congrArg _)

/-- A character that separates nothing goes on with the last piece. -/
theorem splitAt_concat {sep c : Char} (other : c ≠ sep) (cs : List Char) :
    ∃ front last, splitAt sep cs = front ++ [last] ∧
      splitAt sep (cs ++ [c]) = front ++ [last ++ [c]] := by
  induction cs using piece_induction sep with
  | piece p absent =>
    refine ⟨[], p, splitAt_of_not_mem absent, splitAt_of_not_mem ?_⟩
    simpa using ⟨absent, other.symm⟩
  | more p rest absent ih =>
    obtain ⟨front, last, whole, longer⟩ := ih
    refine ⟨p :: front, last, ?_, ?_⟩
    · rw [splitAt_append, splitAt_of_not_mem absent, whole]
      rfl
    · rw [List.append_assoc, List.cons_append, splitAt_append, splitAt_of_not_mem absent, longer]
      rfl

/-- A carriage return before a line feed leaves the texts of the lines as they are. -/
theorem map_trim_splitAt_return (before after : List Char) :
    (splitAt '\n' (before ++ '\r' :: '\n' :: after)).map trim =
      (splitAt '\n' (before ++ '\n' :: after)).map trim := by
  have other : '\r' ≠ '\n' := by decide
  obtain ⟨front, last, whole, longer⟩ := splitAt_concat other before
  have apart : before ++ '\r' :: '\n' :: after = (before ++ ['\r']) ++ '\n' :: after := by simp
  rw [apart, splitAt_append, splitAt_append, longer, whole]
  simp [trim_append_blank isBlank_return]

end Highlighter.Text
