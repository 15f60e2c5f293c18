import Highlighter.Language.Compiled.Basic
import Highlighter.Proofs.Compiled.Values
import Highlighter.Proofs.Text.Blank

/-! The lines of a compiled text, read back. A written line is one line, whatever stands in its
values, and says the same wherever it stands; so a text of written lines says what they say. -/
namespace Highlighter.Compiled

/-- The texts that can stand in front of an equals sign. -/
def isKey (key : String) : Bool :=
  !key.toList.isEmpty && key.toList.all fun c => !Text.isBlank c && c != '=' && c != ';'

theorem isKey_iff {key : String} : isKey key = true ↔
    key.toList ≠ [] ∧ ∀ c ∈ key.toList, Text.isBlank c = false ∧ c ≠ '=' ∧ c ≠ ';' := by
  simp [isKey, and_assoc]

theorem isBlank_space : Text.isBlank ' ' = true := by decide

theorem isBlank_newline : Text.isBlank '\n' = true := by decide

/-- A line without its end. -/
def lineBody (key : String) (shown : List String) : List Char :=
  key.toList ++ ' ' :: '=' :: shown.flatMap fun v => ' ' :: v.toList

theorem toList_spaced {shown : List String} (filled : shown ≠ []) :
    ' ' :: (" ".intercalate shown).toList = shown.flatMap fun v => ' ' :: v.toList := by
  induction shown with
  | nil => exact absurd rfl filled
  | cons v rest ih =>
    cases rest with
    | nil => simp
    | cons w rest =>
      have spaced := ih (by simp)
      rw [String.intercalate_cons_cons, String.toList_append, String.toList_append,
        List.flatMap_cons, ← spaced]
      simp

theorem toList_line (key : String) {shown : List String} (filled : shown ≠ []) :
    (line key shown).toList = lineBody key shown ++ ['\n'] := by
  have spaced := toList_spaced filled
  have equals : (" = " : String).toList = [' ', '=', ' '] := by decide
  have newline : ("\n" : String).toList = ['\n'] := by decide
  simp only [line, String.toList_join, List.flatMap_cons, List.flatMap_nil, equals, newline,
    List.append_nil, lineBody, ← spaced]
  simp

section Body
variable {key : String} {texts shown : List String}

theorem newline_not_mem_spaced (all : List.Forall₂ Shows texts shown) :
    '\n' ∉ shown.flatMap fun v => ' ' :: v.toList := by
  cases all with
  | nil => exact List.not_mem_nil
  | cons head tail =>
    obtain ⟨line, spaced, whole⟩ := exists_spaced _ _
    rw [whole, List.mem_cons, not_or]
    refine ⟨by decide, fun member => ?_⟩
    exact absurd (spaced.isControl (.cons head tail) _ member) (by decide)

theorem newline_not_mem_lineBody (keyed : isKey key = true)
    (all : List.Forall₂ Shows texts shown) : '\n' ∉ lineBody key shown := by
  simp only [lineBody, List.mem_append, List.mem_cons, not_or]
  refine ⟨fun member => ?_, by decide, by decide, newline_not_mem_spaced all⟩
  have notBlank := ((isKey_iff.mp keyed).2 _ member).1
  exact absurd (notBlank.symm.trans isBlank_newline) (by decide)

theorem getLast?_spaced (all : List.Forall₂ Shows texts shown) (filled : shown ≠ []) :
    ∃ c, (shown.flatMap fun v => ' ' :: v.toList).getLast? = some c ∧ Text.isBlank c = false := by
  induction all with
  | nil => exact absurd rfl filled
  | @cons _ v _ rest head _ ih =>
    cases rest with
    | nil =>
      obtain ⟨c, last, notBlank⟩ := head.getLast?
      exact ⟨c, by simp [List.getLast?_cons, last], notBlank⟩
    | cons w rest =>
      obtain ⟨c, last, notBlank⟩ := ih (by simp)
      refine ⟨c, ?_, notBlank⟩
      rw [List.flatMap_cons, List.getLast?_append, last, Option.some_or]

/-- Trimming leaves a written line as it is: it begins with a key and ends with a value. -/
theorem trim_lineBody (keyed : isKey key = true) (all : List.Forall₂ Shows texts shown)
    (filled : shown ≠ []) : Text.trim (lineBody key shown) = lineBody key shown := by
  obtain ⟨nonempty, chars⟩ := isKey_iff.mp keyed
  obtain ⟨final, last, notBlank⟩ := getLast?_spaced all filled
  apply Text.trim_eq_self
  · intro c head
    cases spelled : key.toList with
    | nil => exact absurd spelled nonempty
    | cons d rest =>
      have same : d = c := by simpa [lineBody, spelled] using head
      exact same ▸ (chars d (by simp [spelled])).1
  · intro c ending
    have same : final = c := by
      have := ending
      simp only [lineBody, List.getLast?_append, List.getLast?_cons, last, Option.some_or,
        Option.getD_some, Option.some.injEq] at this
      exact this
    exact same ▸ notBlank

theorem trim_keyPart (keyed : isKey key = true) : Text.trim (key.toList ++ [' ']) = key.toList := by
  have chars := (isKey_iff.mp keyed).2
  rw [Text.trim_append_blank isBlank_space]
  apply Text.trim_eq_self
  · intro c head
    exact (chars c (List.mem_of_mem_head? head)).1
  · intro c last
    exact (chars c (List.mem_of_mem_getLast? last)).1

/-- A written line says what its key and its values mean. -/
theorem ofLine_lineBody (keyed : isKey key = true) (all : List.Forall₂ Shows texts shown)
    (filled : shown ≠ []) (n : Nat) :
    Entry.ofLine n (lineBody key shown) = some <$> Entry.ofValues n key texts := by
  obtain ⟨nonempty, chars⟩ := isKey_iff.mp keyed
  have noComment : (lineBody key shown).head? ≠ some ';' := by
    cases spelled : key.toList with
    | nil => exact absurd spelled nonempty
    | cons d rest =>
      have different := (chars d (by simp [spelled])).2.2
      simpa [lineBody, spelled] using different
  have something : (lineBody key shown).isEmpty = false := by
    simp [lineBody]
  have cutAtEquals : Text.cut? '=' (lineBody key shown) =
      some (key.toList ++ [' '], shown.flatMap fun v => ' ' :: v.toList) := by
    have absent : '=' ∉ key.toList ++ [' '] := by
      simp only [List.mem_append, List.mem_singleton, not_or]
      exact ⟨fun member => (chars _ member).2.1 rfl, by decide⟩
    have cut := Text.cut?_append (shown.flatMap fun v => ' ' :: v.toList) absent
    simpa [lineBody] using cut
  unfold Entry.ofLine
  simp only [trim_lineBody keyed all filled, something, noComment, decide_false, Bool.or_self,
    Bool.false_eq_true, if_false, cutAtEquals, split_spaced all, trim_keyPart keyed,
    String.ofList_toList]

end Body

/-- What the line with a given number says, or what is wrong with it. -/
abbrev Meaning : Type := Nat → Except LanguageError (Option Entry)

/-- What a good line says, wherever it stands. -/
def Meaning.plain (entry : Option Entry) : Meaning := fun _ => .ok entry

theorem mapIdx_plain (entries : List (Option Entry)) :
    ((entries.map Meaning.plain).mapIdx fun i meaning => meaning (i + 1)) = entries.map .ok := by
  apply List.ext_getElem
  · simp
  · intro i _ _
    simp [Meaning.plain]

/-- A text is a line with its end, and means this as a line. -/
def Says (text : String) (meaning : Meaning) : Prop :=
  ∃ raw, text.toList = raw ++ ['\n'] ∧ '\n' ∉ raw ∧ ∀ n, Entry.ofLine n raw = meaning n

theorem says_values {key : String} {texts shown : List String} (keyed : isKey key = true)
    (all : List.Forall₂ Shows texts shown) (filled : shown ≠ []) :
    Says (line key shown) fun n => some <$> Entry.ofValues n key texts :=
  ⟨lineBody key shown, toList_line key filled, newline_not_mem_lineBody keyed all,
    ofLine_lineBody keyed all filled⟩

theorem says_line {key : String} {texts shown : List String} {entry : Entry}
    (keyed : isKey key = true) (all : List.Forall₂ Shows texts shown) (filled : shown ≠ [])
    (means : ∀ n, Entry.ofValues n key texts = .ok entry) :
    Says (line key shown) (.plain (some entry)) := by
  obtain ⟨raw, spelled, oneLine, read⟩ := says_values keyed all filled
  refine ⟨raw, spelled, oneLine, fun n => ?_⟩
  simp only [read, means]
  rfl

/-- The lines of a text are read one by one, and a line end at the end adds an empty line. -/
theorem ofLine_join {texts : List String} {meanings : List Meaning}
    (all : List.Forall₂ Says texts meanings) (first : Nat) :
    ((Text.splitAt '\n' (String.join texts).toList).mapIdx fun i raw =>
      Entry.ofLine (i + first) raw) =
      (meanings.mapIdx fun i meaning => meaning (i + first)) ++ [.ok none] := by
  induction all generalizing first with
  | nil => rfl
  | @cons text meaning texts meanings head _ ih =>
    obtain ⟨raw, spelled, oneLine, read⟩ := head
    have pieces : Text.splitAt '\n' (String.join (text :: texts)).toList =
        raw :: Text.splitAt '\n' (String.join texts).toList := by
      rw [String.join_cons, String.toList_append, spelled, List.append_assoc,
        List.singleton_append, Text.splitAt_append, Text.splitAt_of_not_mem oneLine]
      rfl
    have shift : ∀ i, i + 1 + first = i + (first + 1) := by
      intro i
      omega
    simp only [pieces, List.mapIdx_cons, shift, ih (first + 1), read, List.cons_append]

theorem readLines_join {texts : List String} {meanings : List Meaning}
    (all : List.Forall₂ Says texts meanings) :
    readLines (String.join texts) =
      (meanings.mapIdx fun i meaning => meaning (i + 1)) ++ [.ok none] :=
  ofLine_join all 1

end Highlighter.Compiled
