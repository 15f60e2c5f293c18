import Highlighter.Language.Compiled.Basic
import Highlighter.Language.Source
import Highlighter.Proofs.Files.Path
import Highlighter.Proofs.Text.Number

/-! The files that languages are compiled into. The characters of a name are written one after the
other so that each can be told from what follows it: a letter or digit stands for itself, and any
other character begins with a mark and goes on up to the next one. So two names have one file
exactly when they differ in the case of letters at most, and no file is outside of its directory. -/
namespace Highlighter.Compiled

theorem toNat_lt_of_isAlphanum {c : Char} (plain : c.isAlphanum = true) : c.toNat < 0x80 := by
  have kinds : (c.isUpper || c.isLower || c.isDigit) = true := plain
  have bound (last : Char) (narrow : last.toNat < 0x80) (below : c.val ≤ last.val) :
      c.toNat < 0x80 := Nat.lt_of_le_of_lt (UInt32.le_iff_toNat_le.mp below) narrow
  rw [Bool.or_eq_true, Bool.or_eq_true] at kinds
  rcases kinds with (upper | lower) | digit
  · exact bound 'Z' (by decide) (of_decide_eq_true upper).2
  · have below := (Bool.and_eq_true_iff.mp lower).2
    exact bound 'z' (by decide) (of_decide_eq_true below)
  · have below := (Bool.and_eq_true_iff.mp digit).2
    exact bound '9' (by decide) (of_decide_eq_true below)

theorem fileNameChar_toLower (c : Char) : fileNameChar c.toLower = fileNameChar c := by
  by_cases ascii : c.toNat < 0x80
  · have all : ∀ n < 0x80, fileNameChar (Char.ofNat n).toLower = fileNameChar (Char.ofNat n) := by
      decide +kernel
    exact Char.ofNat_toNat c ▸ all c.toNat ascii
  · rw [Text.toLower_wide (Nat.le_of_not_lt ascii)]

/-- The letters and digits of file names. -/
def isFileLetter (c : Char) : Bool := c.isLower || c.isDigit

theorem isFileLetter_toLower {c : Char} (plain : c.isAlphanum = true) :
    isFileLetter c.toLower = true := by
  have all : ∀ n < 0x80, (Char.ofNat n).isAlphanum = true →
      isFileLetter (Char.ofNat n).toLower = true := by decide +kernel
  have known := all c.toNat (toNat_lt_of_isAlphanum plain)
  rw [Char.ofNat_toNat] at known
  exact known plain

theorem isFileLetter_of_mem_hexDigits {n : Nat} {c : Char} (member : c ∈ Text.hexDigits n) :
    isFileLetter c = true := by
  have all : ∀ d < 16, isFileLetter d.digitChar = true := by decide
  obtain ⟨d, small, rfl⟩ := Text.mem_hexDigits member
  exact all d small

theorem toLower_ne_mark {c : Char} (plain : c.isAlphanum = true) : c.toLower ≠ '_' := by
  intro mark
  have letter := isFileLetter_toLower plain
  rw [mark] at letter
  exact absurd letter (by decide)

theorem mark_not_mem_hexDigits (n : Nat) : '_' ∉ Text.hexDigits n := by
  intro member
  exact absurd (isFileLetter_of_mem_hexDigits member) (by decide)

/-- A character is told from what follows it. -/
theorem fileNameChar_append {a b : Char} {as bs : List Char}
    (same : fileNameChar a ++ as = fileNameChar b ++ bs) : a.toLower = b.toLower ∧ as = bs := by
  unfold fileNameChar at same
  split at same
  · rename_i letter
    have apart := toLower_ne_mark letter
    split at same
    · exact List.cons.inj same
    · exact absurd (List.cons.inj same).1 apart
  · rename_i other
    split at same
    · rename_i letter
      have apart := toLower_ne_mark letter
      exact absurd (List.cons.inj same).1.symm apart
    · -- Both are written as code points, each of which ends at its second mark.
      have codes : Text.hexDigits a.toNat ++ '_' :: as = Text.hexDigits b.toNat ++ '_' :: bs := by
        simpa using same
      have cut := congrArg (Text.cut? '_') codes
      rw [Text.cut?_append _ (mark_not_mem_hexDigits _),
        Text.cut?_append _ (mark_not_mem_hexDigits _)] at cut
      obtain ⟨digits, rest⟩ := Prod.mk.inj (Option.some.inj cut)
      have numbers := congrArg (Text.hexValue? 0) digits
      rw [Text.hexValue?_hexDigits, Text.hexValue?_hexDigits, Option.some.injEq] at numbers
      exact ⟨congrArg Char.toLower (Char.toNat_inj.mp numbers), rest⟩

theorem fileNameChar_ne_nil (c : Char) : fileNameChar c ≠ [] := by
  unfold fileNameChar
  split <;> exact List.cons_ne_nil _ _

theorem flatMap_fileNameChar_iff (as bs : List Char) :
    as.flatMap fileNameChar = bs.flatMap fileNameChar ↔
      as.map Char.toLower = bs.map Char.toLower := by
  constructor
  · intro same
    induction as generalizing bs with
    | nil =>
      cases bs with
      | nil => rfl
      | cons b bs =>
        rw [List.flatMap_nil, List.flatMap_cons, List.nil_eq, List.append_eq_nil_iff] at same
        exact absurd same.1 (fileNameChar_ne_nil b)
    | cons a as ih =>
      cases bs with
      | nil =>
        rw [List.flatMap_nil, List.flatMap_cons, List.append_eq_nil_iff] at same
        exact absurd same.1 (fileNameChar_ne_nil a)
      | cons b bs =>
        rw [List.flatMap_cons, List.flatMap_cons] at same
        obtain ⟨first, others⟩ := fileNameChar_append same
        rw [List.map_cons, List.map_cons, first, ih bs others]
  · have lowered : ∀ cs : List Char,
        cs.flatMap fileNameChar = (cs.map Char.toLower).flatMap fileNameChar := by
      intro cs
      rw [List.flatMap_map]
      simp only [fileNameChar_toLower]
    intro same
    rw [lowered as, lowered bs, same]

/-- Two names have one file when they differ in the case of letters at most. -/
theorem fileName_eq_iff {a b : String} :
    fileName a = fileName b ↔ LanguageSource.sameName a b = true := by
  rw [LanguageSource.sameName, decide_eq_true_eq, ← flatMap_fileNameChar_iff, fileName, fileName,
    String.append_left_inj, String.ofList_inj]

/-- Lower-case letters, digits and marks are all that a name is spelled with. -/
theorem of_mem_fileNameChar {c d : Char} (member : d ∈ fileNameChar c) :
    isFileLetter d = true ∨ d = '_' := by
  unfold fileNameChar at member
  split at member
  · rename_i letter
    rw [List.mem_singleton] at member
    exact .inl (member ▸ isFileLetter_toLower letter)
  · rw [List.cons_append, List.mem_cons, List.mem_append, List.mem_singleton] at member
    rcases member with mark | digit | mark
    · exact .inr mark
    · exact .inl (isFileLetter_of_mem_hexDigits digit)
    · exact .inr mark

theorem slash_not_mem_fileNameChar (c : Char) : '/' ∉ fileNameChar c := by
  intro member
  rcases of_mem_fileNameChar member with letter | mark
  · exact absurd letter (by decide)
  · exact absurd mark (by decide)

/-- A compiled file is named by a plain name. -/
theorem plain_fileName (language : String) : Path.Plain (fileName language) := by
  have spelled : (fileName language).toList =
      language.toList.flatMap fileNameChar ++ ['.', 'l', 'a', 'n', 'g'] := by
    rw [fileName, String.toList_append, String.toList_ofList]
    rfl
  have long : ∀ text : String, text.toList.length < 5 → fileName language ≠ text := by
    rintro text short rfl
    rw [spelled, List.length_append] at short
    exact absurd short (Nat.not_lt.mpr (Nat.le_add_left 5 _))
  constructor
  · rw [spelled, List.mem_append, List.mem_flatMap]
    rintro (⟨c, _, slash⟩ | slash)
    · exact slash_not_mem_fileNameChar c slash
    · exact absurd slash (by decide)
  · rw [Path.isVoid, Bool.or_eq_false_iff, decide_eq_false_iff_not, decide_eq_false_iff_not]
    exact ⟨long "" (by decide), long "." (by decide)⟩
  · exact long ".." (by decide)

/-- Two languages have one file exactly when their names differ in the case of letters at most. A
file is named by lower-case letters, digits and marks, and stands in the directory it is joined to. -/
theorem file_names_are_injective_and_safe (a b : String) :
    (fileName a = fileName b ↔ LanguageSource.sameName a b = true) ∧
    (∃ stem, fileName a = stem ++ ".lang" ∧
      ∀ c ∈ stem.toList, c.isLower = true ∨ c.isDigit = true ∨ c = '_') ∧
    ∀ dir, Path.names (Path.join dir (fileName a)) = Path.names dir ++ [fileName a] ∧
      Path.isAbsolute (Path.join dir (fileName a)) = Path.isAbsolute dir ∧
      FileStore.destination (Path.join dir (fileName a)) =
        FileStore.destination dir ++ [fileName a] := by
  refine ⟨fileName_eq_iff, ⟨_, rfl, fun d member => ?_⟩, fun dir => ⟨?_, ?_, ?_⟩⟩
  · rw [String.toList_ofList, List.mem_flatMap] at member
    obtain ⟨c, _, spelled⟩ := member
    rcases of_mem_fileNameChar spelled with letter | mark
    · rw [isFileLetter, Bool.or_eq_true] at letter
      exact letter.imp_right .inl
    · exact .inr (.inr mark)
  · exact Path.names_join (plain_fileName a)
  · exact Path.isAbsolute_join (plain_fileName a)
  · exact FileStore.destination_join (plain_fileName a)

end Highlighter.Compiled
