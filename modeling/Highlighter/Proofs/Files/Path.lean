import Highlighter.Proofs.Files.Store
import Highlighter.Proofs.Text.Blank

/-! Paths of files inside of a directory. A plain name joined to the path of a directory is one more
name after those of the directory, so the path spells the place of this name in the directory. -/
namespace Highlighter

namespace Path

/-- A name of something in a directory. -/
structure Plain (name : String) : Prop where
  whole : '/' ∉ name.toList
  named : isVoid name = false
  inward : name ≠ ".."

variable {dir name : String}

theorem Plain.isAbsolute (plain : Plain name) : isAbsolute name = false := by
  apply decide_eq_false
  intro slash
  exact plain.whole (List.mem_of_head? slash)

theorem Plain.pieces (plain : Plain name) : pieces name = [name] := by
  rw [Path.pieces, Text.splitAt_of_not_mem plain.whole, List.map_singleton, String.ofList_toList]

/-- The pieces of a path, when a slash stands before its last one. -/
theorem pieces_append (plain : Plain name) {path : String} {before : List Char}
    (spelled : path.toList = before ++ '/' :: name.toList) :
    pieces path = (Text.splitAt '/' before).map String.ofList ++ [name] := by
  have last : (Text.splitAt '/' name.toList).map String.ofList = [name] := plain.pieces
  rw [Path.pieces, spelled, Text.splitAt_append, List.map_append, last]

/-- A name is joined to a directory by one slash, which the path of the directory may end with. -/
theorem join_cases (dir : String) (plain : Plain name) :
    (dir = "" ∧ join dir name = name) ∨ dir ≠ "" ∧ ((∃ front, dir.toList = front ++ ['/'] ∧
        (join dir name).toList = front ++ '/' :: name.toList) ∨
      (join dir name).toList = dir.toList ++ '/' :: name.toList) := by
  unfold join
  rw [plain.isAbsolute, Bool.false_or]
  split
  · rename_i working
    exact .inl ⟨of_decide_eq_true working, rfl⟩
  · rename_i elsewhere
    refine .inr ⟨by simpa using elsewhere, ?_⟩
    split
    · rename_i slash
      obtain ⟨front, spelled⟩ := List.getLast?_eq_some_iff.mp slash
      refine .inl ⟨front, spelled, ?_⟩
      rw [String.toList_append, spelled, List.append_assoc, List.singleton_append]
    · refine .inr ?_
      rw [String.toList_append, String.toList_append, List.append_assoc]
      rfl

/-- The pieces of a path into a directory are those of the directory, up to void ones, and the name.
-/
theorem pieces_join (dir : String) (plain : Plain name) : ∃ before,
    pieces (join dir name) = before ++ [name] ∧ before.filter (!isVoid ·) = names dir := by
  rcases join_cases dir plain with ⟨rfl, whole⟩ | ⟨_, ⟨front, slash, whole⟩ | whole⟩
  · rw [whole]
    exact ⟨[], plain.pieces, rfl⟩
  · refine ⟨_, pieces_append plain whole, ?_⟩
    have ended : pieces dir = (Text.splitAt '/' front).map String.ofList ++ [""] := by
      rw [pieces, slash, Text.splitAt_append, List.map_append]
      rfl
    rw [names, ended, List.filter_append, List.filter_cons_of_neg (by decide), List.filter_nil,
      List.append_nil]
  · exact ⟨pieces dir, pieces_append plain whole, rfl⟩

theorem names_join (plain : Plain name) : names (join dir name) = names dir ++ [name] := by
  obtain ⟨before, whole, kept⟩ := pieces_join dir plain
  rw [names, whole, List.filter_append, kept, List.filter_cons_of_pos (by simp [plain.named]),
    List.filter_nil]

theorem isAbsolute_join (plain : Plain name) : isAbsolute (join dir name) = isAbsolute dir := by
  rcases join_cases dir plain with ⟨rfl, whole⟩ | ⟨filled, ⟨front, slash, whole⟩ | whole⟩
  · rw [whole, plain.isAbsolute]
    decide +kernel
  · rw [isAbsolute, isAbsolute, whole, slash]
    cases front <;> rfl
  · rw [isAbsolute, isAbsolute, whole]
    cases start : dir.toList with
    | nil => exact absurd (String.toList_eq_nil_iff.mp start) filled
    | cons c rest => rfl

end Path

namespace FileStore
open Highlighter.Path

variable {dir name : String}

theorem origin_join (plain : Plain name) : origin (join dir name) = origin dir := by
  rw [origin, isAbsolute_join plain, origin]

theorem destination_join (plain : Plain name) :
    destination (join dir name) = destination dir ++ [name] := by
  rw [destination, names_join plain, origin_join plain, List.foldl_append, List.foldl_cons,
    List.foldl_nil, follow, if_neg plain.inward, destination]

end FileStore
end Highlighter
