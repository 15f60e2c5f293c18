import Highlighter.Proofs.Compiled.Entries
import Highlighter.Proofs.Compiled.Lines

/-! Writing a definition and reading it back. The lines of a compiled definition say one entry
each, and these entries give the definition again: what reading normalizes, sorts and checks is
normal, sorted and free of clashes already. -/
namespace Highlighter.Compiled
open Result

/-- The entry of a line with several values, when there are any. -/
def listed (values : List String) (entry : List String → Entry) : List Entry :=
  if values.isEmpty then [] else [entry values]

/-- The entries that the lines of a compiled definition say before those for keywords. -/
def saidFirst (d : Definition) : List Entry :=
  [.version, .name d.name] ++
  listed d.extensions .extensions ++
  d.lineComment.toList.map .lineComment ++
  d.blockComment.toList.map .blockComment ++
  d.delimiters.map .delimiter ++
  [.charSet .operators d.operators, .charSet .punctuation d.punctuation,
    .charSet .keyStart d.keyStart, .charSet .keyContinue d.keyContinue,
    .charSet .numberContinue d.numberContinue] ++
  listed (d.groups.items.map (·.name)) .groups

/-- The rows that the keywords of a definition are written in. -/
def keywordRows (d : Definition) : List (List Keyword) :=
  rowsAfter keywordsPerLine [] d.keywords.entries

/-- The entries that the lines of a compiled definition say, its heading apart. -/
def saidBy (d : Definition) : List Entry := saidFirst d ++ (keywordRows d).map .keywords

section Rows
variable {α : Type}

theorem flatten_rowsAfter (width : Nat) (row xs : List α) :
    (rowsAfter width row xs).flatten = row.reverse ++ xs := by
  induction xs generalizing row with
  | nil => cases row <;> simp [rowsAfter]
  | cons a rest ih =>
    simp only [rowsAfter]
    split
    · simp [ih]
    · simp [ih]

theorem flatten_keywordRows (d : Definition) : (keywordRows d).flatten = d.keywords.entries :=
  flatten_rowsAfter keywordsPerLine [] d.keywords.entries

theorem ne_nil_of_mem_rowsAfter {width : Nat} {row xs line : List α}
    (member : line ∈ rowsAfter width row xs) :
    line ≠ [] := by
  induction xs generalizing row with
  | nil =>
    cases row with
    | nil => simp [rowsAfter] at member
    | cons a row =>
      have same : line = (a :: row).reverse := by simpa [rowsAfter] using member
      simp [same]
  | cons a rest ih =>
    simp only [rowsAfter] at member
    split at member
    · exact ih member
    · rcases List.mem_cons.mp member with rfl | later
      · simp
      · exact ih later

end Rows

section Lines

theorem shows_toString (n : Nat) : Shows (toString n) (toString n) := by
  have digits : ∀ c ∈ Nat.toDigits 10 n, isBareChar c := by
    intro c member
    have digit := Text.isDigit_of_mem_toDigits c member
    have plain : Text.isControl c = false := by
      rw [Char.isDigit_iff_toNat] at digit
      have low : '0'.toNat = 48 := rfl
      have high : '9'.toNat = 57 := rfl
      simp only [Text.isControl, Bool.or_eq_false_iff, Bool.and_eq_false_iff,
        decide_eq_false_iff_not]
      omega
    refine isBareChar_iff.mpr ⟨Text.isBlank_of_isDigit digit, plain, ?_⟩
    rintro rfl
    exact absurd digit (by decide)
  refine .bare (isBare_iff.mpr ?_)
  rw [Nat.toString_eq_ofList_toDigits, String.toList_ofList]
  exact ⟨Nat.toDigits_ne_nil, digits⟩

theorem says_heading : Says "; tinct compiled language\n" (.plain none) := by
  refine ⟨"; tinct compiled language".toList, by decide, by decide, fun n => ?_⟩
  have trimmed : Text.trim "; tinct compiled language".toList =
      "; tinct compiled language".toList := by decide
  unfold Entry.ofLine
  rw [trimmed]
  rfl

theorem says_delimiterLine (d : Delimiter) :
    Says (delimiterLine d) (.plain (some (.delimiter d))) := by
  have opening : DelimiterPart.char .opening (String.ofList [d.opening]) = .ok d.opening := by
    simp [DelimiterPart.char]
  have closing : DelimiterPart.char .closing (String.ofList [d.closing]) = .ok d.closing := by
    simp [DelimiterPart.char]
  have escape : DelimiterPart.escapeChar (String.ofList d.escape.toList) = .ok d.escape := by
    cases d.escape with
    | none => rfl
    | some c => simp [DelimiterPart.escapeChar, DelimiterPart.char]
  refine says_line (by decide) (.cons (shows_value d.name) (.cons .quoted (.cons .quoted
    (.cons .quoted .nil)))) (by simp) fun n => ?_
  simp only [Entry.ofValues, opening, closing, escape, bind, Except.bind, pure, Except.pure]

theorem says_setLine (name : SetName) (set : CharSet) :
    Says (setLine name set) (.plain (some (.charSet name set))) := by
  refine says_line (by cases name <;> decide) (.cons .quoted .nil) (by simp) fun n => ?_
  cases name <;>
    simp [Entry.ofValues, SetName.key, setOfKey?, single, CharSet.ofString_toString,
      bind, Except.bind, pure, Except.pure]

theorem forall₂_shows_value (texts : List String) : List.Forall₂ Shows texts (texts.map value) :=
  List.forall₂_map_right_iff.mpr (List.forall₂_same.mpr fun text _ => shows_value text)

theorem says_listLine {key : String} {entry : List String → Entry} (texts : List String)
    (keyed : isKey key = true) (means : ∀ n texts, Entry.ofValues n key texts = .ok (entry texts)) :
    List.Forall₂ Says (listLine key texts) ((listed texts entry).map (.plain ∘ some)) := by
  cases texts with
  | nil => exact .nil
  | cons text rest =>
    exact .cons (says_line keyed (forall₂_shows_value _) (by simp) fun n => means n _) .nil

/-- What stands on a line of keywords. -/
def rowTexts (row : List Keyword) : List String := row.flatMap fun k => [k.text, toString k.group]

theorem length_rowTexts (row : List Keyword) : (rowTexts row).length = 2 * row.length := by
  induction row with
  | nil => rfl
  | cons k rest ih =>
    simp only [rowTexts, List.flatMap_cons, List.length_append, List.length_cons,
      List.length_nil] at ih ⊢
    omega

theorem readKeywords_rowTexts {row ks : List Keyword} : readKeywords (rowTexts row) = .ok ks ↔
    ks = row ∧ ∀ k ∈ row, k.group.index < Text.limit32 := by
  induction row generalizing ks with
  | nil => simp [rowTexts, readKeywords, eq_comm]
  | cons k rest ih =>
    have number : Text.decimal? Text.limit32 (toString k.group).toList =
        if k.group.index < Text.limit32 then some k.group.index else none := by
      have spelled : (toString k.group).toList = Nat.toDigits 10 k.group.index :=
        Nat.toList_repr
      rw [spelled, Text.decimal?_toDigits]
    have texts : rowTexts (k :: rest) = k.text :: toString k.group :: rowTexts rest := rfl
    rw [texts, readKeywords, number]
    by_cases small : k.group.index < Text.limit32
    · simp only [small, if_true, map_eq_ok, ih, List.forall_mem_cons, true_and]
      constructor
      · rintro ⟨others, ⟨rfl, numbered⟩, rfl⟩
        exact ⟨rfl, numbered⟩
      · rintro ⟨rfl, numbered⟩
        exact ⟨rest, ⟨rfl, numbered⟩, rfl⟩
    · simp [small]

/-- What a line of keywords means. -/
def rowMeaning (row : List Keyword) : Meaning :=
  fun n => some <$> Entry.ofValues n "Keyword" (rowTexts row)

/-- A line of keywords can be read when the numbers of their groups have 32 bits. -/
theorem rowMeaning_eq_ok {row : List Keyword} {n : Nat} {entry : Option Entry} :
    rowMeaning row n = .ok entry ↔
      entry = some (.keywords row) ∧ ∀ k ∈ row, k.group.index < Text.limit32 := by
  have even : (rowTexts row).length % 2 = 0 := by
    rw [length_rowTexts]
    omega
  simp only [rowMeaning, Entry.ofValues, even, if_true]
  cases reading : readKeywords (rowTexts row) with
  | error fault =>
    have unread : ¬∀ k ∈ row, k.group.index < Text.limit32 := by
      intro numbered
      have read := readKeywords_rowTexts.mpr ⟨rfl, numbered⟩
      rw [reading] at read
      cases read
    simp [bind, Except.bind, Functor.map, Except.map, unread]
  | ok ks =>
    obtain ⟨rfl, numbered⟩ := readKeywords_rowTexts.mp reading
    rw [and_iff_left numbered]
    simp [bind, Except.bind, pure, Except.pure, Functor.map, Except.map, eq_comm]

theorem says_keywordLine {row : List Keyword} (filled : row ≠ []) :
    Says (keywordLine row) (rowMeaning row) := by
  have all : List.Forall₂ Shows (rowTexts row)
      (row.flatMap fun k => [value k.text, toString k.group]) := by
    refine List.rel_flatMap (List.forall₂_same.mpr fun _ _ => rfl) ?_
    rintro k _ rfl
    exact .cons (shows_value k.text) (.cons (shows_toString k.group.index) .nil)
  refine says_values (by decide) all ?_
  cases row with
  | nil => exact absurd rfl filled
  | cons k rest => simp

/-- What the lines of a compiled definition mean. -/
def meanings (d : Definition) : List Meaning :=
  (none :: (saidFirst d).map some).map .plain ++ (keywordRows d).map rowMeaning

theorem says_lines (d : Definition) : List.Forall₂ Says (lines d) (meanings d) := by
  have version : Says (line "Version" [toString formatVersion]) (.plain (some .version)) :=
    says_line (by decide) (.cons (shows_toString formatVersion) .nil) (by simp) fun _ => rfl
  have name : Says (line "Name" [quote d.name]) (.plain (some (.name d.name))) :=
    says_line (by decide) (.cons .quoted .nil) (by simp) fun _ => rfl
  have extensions : List.Forall₂ Says (listLine "Ext" d.extensions)
      ((listed d.extensions .extensions).map (.plain ∘ some)) :=
    says_listLine _ (by decide) fun _ _ => rfl
  have groups : List.Forall₂ Says (listLine "Group" (d.groups.items.map (·.name)))
      ((listed (d.groups.items.map (·.name)) .groups).map (.plain ∘ some)) :=
    says_listLine _ (by decide) fun _ _ => rfl
  have mark : List.Forall₂ Says
      (d.lineComment.map fun mark => line "LineComment" [quote mark]).toList
      ((d.lineComment.toList.map Entry.lineComment).map (.plain ∘ some)) := by
    cases d.lineComment with
    | none => exact .nil
    | some mark =>
      exact .cons (says_line (by decide) (.cons .quoted .nil) (by simp) fun _ => rfl) .nil
  have marks : List.Forall₂ Says (d.blockComment.map fun marks =>
        line "BlockComment" [quote marks.opening, quote marks.closing]).toList
      ((d.blockComment.toList.map Entry.blockComment).map (.plain ∘ some)) := by
    cases d.blockComment with
    | none => exact .nil
    | some marks =>
      exact .cons (says_line (by decide) (.cons .quoted (.cons .quoted .nil)) (by simp)
        fun _ => rfl) .nil
  have delimiters : List.Forall₂ Says (d.delimiters.map delimiterLine)
      ((d.delimiters.map Entry.delimiter).map (.plain ∘ some)) := by
    rw [List.forall₂_map_left_iff, List.forall₂_map_right_iff, List.forall₂_map_right_iff]
    exact List.forall₂_same.mpr fun d _ => says_delimiterLine d
  have keywords : List.Forall₂ Says ((keywordRows d).map keywordLine)
      ((keywordRows d).map rowMeaning) := by
    rw [List.forall₂_map_left_iff, List.forall₂_map_right_iff]
    exact List.forall₂_same.mpr fun row member => says_keywordLine (ne_nil_of_mem_rowsAfter member)
  have sets := List.Forall₂.cons (says_setLine .operators d.operators)
    (.cons (says_setLine .punctuation d.punctuation) (.cons (says_setLine .keyStart d.keyStart)
      (.cons (says_setLine .keyContinue d.keyContinue)
        (.cons (says_setLine .numberContinue d.numberContinue) .nil))))
  have front := List.Forall₂.cons says_heading (.cons version (.cons name .nil))
  have all := List.rel_append (List.rel_append (List.rel_append (List.rel_append
    (List.rel_append (List.rel_append (List.rel_append front extensions) mark) marks) delimiters)
      sets) groups) keywords
  simpa [lines, meanings, saidFirst, keywordRows, Function.comp_def] using all

theorem meanings_eq {d : Definition} (numbered : ∀ k ∈ d.keywords.entries,
    k.group.index < Text.limit32) : meanings d = (none :: (saidBy d).map some).map .plain := by
  have rows : (keywordRows d).map rowMeaning =
      ((keywordRows d).map (some ∘ Entry.keywords)).map .plain := by
    rw [List.map_map]
    refine List.map_congr_left fun row member => ?_
    funext n
    refine rowMeaning_eq_ok.mpr ⟨rfl, fun k inside => numbered k ?_⟩
    exact flatten_keywordRows d ▸ List.mem_flatten_of_mem member inside
  rw [meanings, rows, saidBy]
  simp

end Lines

section Extraction
variable (d : Definition) {α : Type}

@[simp]
theorem flatMap_nothing {β : Type} (l : List α) : l.flatMap (fun _ => ([] : List β)) = [] :=
  List.flatMap_eq_nil_iff.mpr fun _ _ => rfl

theorem flatMap_listed (values : List String) (entry : List String → Entry)
    (f : Entry → List α) :
    (listed values entry).flatMap f = if values = [] then [] else f (entry values) := by
  cases values <;> simp [listed]

/-- What is taken from the entries of a definition, kind by kind. -/
theorem flatMap_saidBy (f : Entry → List α) : (saidBy d).flatMap f =
    f .version ++ f (.name d.name) ++
    (if d.extensions = [] then [] else f (.extensions d.extensions)) ++
    (d.lineComment.toList.flatMap fun mark => f (.lineComment mark)) ++
    (d.blockComment.toList.flatMap fun marks => f (.blockComment marks)) ++
    (d.delimiters.flatMap fun delimiter => f (.delimiter delimiter)) ++
    f (.charSet .operators d.operators) ++ f (.charSet .punctuation d.punctuation) ++
    f (.charSet .keyStart d.keyStart) ++ f (.charSet .keyContinue d.keyContinue) ++
    f (.charSet .numberContinue d.numberContinue) ++
    (if d.groups.items.map (·.name) = [] then [] else f (.groups (d.groups.items.map (·.name)))) ++
    (keywordRows d).flatMap fun row => f (.keywords row) := by
  simp only [saidBy, saidFirst, List.flatMap_append, List.flatMap_map, flatMap_listed,
    List.flatMap_cons, List.flatMap_nil, List.append_nil, List.append_assoc]

theorem filterMap_saidBy (f : Entry → Option α) :
    (saidBy d).filterMap f = (saidBy d).flatMap fun e => (f e).toList :=
  List.filterMap_eq_flatMap_toList f (saidBy d)

theorem extensionsOf_saidBy : extensionsOf (saidBy d) = d.extensions := by
  simp [extensionsOf, flatMap_saidBy]

theorem groupNamesOf_saidBy : groupNamesOf (saidBy d) = d.groups.items.map (·.name) := by
  simp [groupNamesOf, flatMap_saidBy]

theorem keywordsOf_saidBy : keywordsOf (saidBy d) = d.keywords.entries := by
  simp [keywordsOf, flatMap_saidBy, flatten_keywordRows]

theorem nameOf?_saidBy : nameOf? (saidBy d) = some d.name := by
  simp [nameOf?, filterMap_saidBy, flatMap_saidBy]

theorem lineCommentOf?_saidBy : lineCommentOf? (saidBy d) = d.lineComment := by
  cases said : d.lineComment <;> simp [lineCommentOf?, filterMap_saidBy, flatMap_saidBy, said]

theorem blockCommentOf?_saidBy : blockCommentOf? (saidBy d) = d.blockComment := by
  cases said : d.blockComment <;> simp [blockCommentOf?, filterMap_saidBy, flatMap_saidBy, said]

theorem delimitersOf_saidBy : delimitersOf (saidBy d) = d.delimiters := by
  simp [delimitersOf, filterMap_saidBy, flatMap_saidBy]

theorem setOf_saidBy (name : SetName) : setOf name (saidBy d) = match name with
    | .operators => d.operators
    | .punctuation => d.punctuation
    | .keyStart => d.keyStart
    | .keyContinue => d.keyContinue
    | .numberContinue => d.numberContinue := by
  cases name <;> simp [setOf, filterMap_saidBy, flatMap_saidBy]

end Extraction

/-- The entries that a definition is written as give it again. -/
theorem same_assemble {d : Definition} (coherent : d.Coherent) :
    d.Same (assemble (saidBy d) d.name) where
  groups := by
    simp only [assemble, groupNamesOf_saidBy, keywordsOf_saidBy]
    exact coherent.groups
  rest := by
    have extensions := Extension.collect_eq_self coherent.extensions
    have mark := Definition.markOf_eq_self coherent.lineComment
    have marks := Definition.marksOf_eq_self coherent.blockComment
    simp only [assemble, extensionsOf_saidBy, extensions, keywordsOf_saidBy,
      KeywordTable.ofList_entries, setOf_saidBy, lineCommentOf?_saidBy, mark,
      blockCommentOf?_saidBy, marks, delimitersOf_saidBy, ← coherent.ruled]

theorem readLines_render (d : Definition) : readLines (render d) =
    ((meanings d).mapIdx fun i meaning => meaning (i + 1)) ++ [.ok none] :=
  readLines_join (says_lines d)

theorem parse_render {d : Definition} (coherent : d.Coherent)
    (numbered : ∀ k ∈ d.keywords.entries, k.group.index < Text.limit32) :
    parse (render d) = .ok (assemble (saidBy d) d.name) := by
  have read : readLines (render d) = ((none :: (saidBy d).map some) ++ [none]).map .ok := by
    rw [readLines_render, meanings_eq numbered, mapIdx_plain, List.map_append]
    rfl
  refine parse_eq_ok_iff.mpr ⟨_, read, ofEntries_eq_ok_iff.mpr ?_⟩
  have spoken : ((none :: (saidBy d).map some) ++ [none]).filterMap id = saidBy d := by
    simp [List.filterMap_map]
  rw [spoken]
  refine ⟨d.name, nameOf?_saidBy d, ?_, ?_, rfl⟩
  · simpa [keywordsOf_saidBy, groupNamesOf_saidBy, GroupTable.size] using coherent.grouped
  · rw [keywordsOf_saidBy, KeywordTable.ofList_entries]
    intro k member
    simp only [clash?_eq_none_iff, setOf_saidBy]
    exact ⟨coherent.starts k member, coherent.continues k member, coherent.apart k member⟩

/-- A compiled definition can be read only if the numbers of its groups have 32 bits. -/
theorem index_lt_of_parse_render {d e : Definition} (read : parse (render d) = .ok e) :
    ∀ k ∈ d.keywords.entries, k.group.index < Text.limit32 := by
  intro k member
  obtain ⟨entries, lines, _⟩ := parse_eq_ok_iff.mp read
  rw [← flatten_keywordRows d] at member
  obtain ⟨row, listed, inside⟩ := List.mem_flatten.mp member
  have meant : rowMeaning row ∈ meanings d :=
    List.mem_append_right _ (List.mem_map_of_mem listed)
  obtain ⟨i, bound, at_i⟩ := List.getElem_of_mem meant
  have result : rowMeaning row (i + 1) ∈ readLines (render d) := by
    rw [readLines_render]
    refine List.mem_append_left _ (List.mem_mapIdx.mpr ⟨i, bound, ?_⟩)
    rw [at_i]
  rw [lines] at result
  obtain ⟨entry, _, said⟩ := List.mem_map.mp result
  exact (rowMeaning_eq_ok.mp said.symm).2 k inside

/-- What is read from a compiled definition is this definition. -/
theorem same_of_parse_render {d e : Definition} (coherent : d.Coherent)
    (read : parse (render d) = .ok e) : d.Same e := by
  have written := parse_render coherent (index_lt_of_parse_render read)
  rw [read] at written
  cases written
  exact same_assemble coherent

/-- Definitions that differ in the order of words inside groups are written alike. -/
theorem render_eq_of_same {d e : Definition} (same : d.Same e) : render d = render e := by
  have names : d.groups.items.map (·.name) = e.groups.items.map (·.name) := by
    have groups := same.groups
    generalize d.groups.items = gs at groups
    generalize e.groups.items = hs at groups
    induction groups with
    | nil => rfl
    | cons head _ ih => rw [List.map_cons, List.map_cons, head.name, ih]
  have rest := same.rest
  simp only [Definition.mk.injEq, true_and] at rest
  simp only [render, lines, names, rest]

theorem restored_of_coherent {d : Definition} (coherent : d.Coherent)
    (numbered : ∀ k ∈ d.keywords.entries, k.group.index < Text.limit32) :
    ∃ e, parse (render d) = .ok e ∧ d.Same e ∧ render e = render d := by
  have same := same_assemble coherent
  exact ⟨_, parse_render coherent numbered, same, (render_eq_of_same same).symm⟩

/-- The definitions there are: those built from a declaration whose groups all have numbers, and
those read from a compiled text. -/
inductive Made : Definition → Prop
  | built (declared : Declaration)
      (numbered : ∀ i < declared.groups.length, (GroupId.ofIndex? i).isSome) :
      Made (Definition.build declared)
  | read {text : String} {d : Definition} (accepted : parse text = .ok d) : Made d

theorem Made.coherent {d : Definition} (made : Made d) :
    d.Coherent ∧ ∀ k ∈ d.keywords.entries, k.group.index < Text.limit32 := by
  cases made with
  | built declared numbered =>
    refine ⟨Definition.build_coherent declared, fun k member => ?_⟩
    have declaredWord := KeywordTable.declared_of_mem_ofList member
    have number := numbered _ (Declaration.index_lt_of_mem_keywords declaredWord)
    unfold GroupId.ofIndex? at number
    split at number
    · assumption
    · cases number
  | read accepted => exact parse_coherent accepted

/-- A definition comes back from its compiled text, which is written in the same way again. -/
theorem made_definition_restored {d : Definition} (made : Made d) :
    ∃ e, parse (render d) = .ok e ∧ d.Same e ∧ render e = render d :=
  restored_of_coherent made.coherent.1 made.coherent.2

theorem odd_definitions_restored :
    (∃ e, parse (render (Definition.build
        { name := "a \"b\"\\;=\r\n\u00e9", extensions := [".RS", "rs", " x y "]
          lineComment := some "", blockComment := some ⟨"=\t", ";"⟩, numberContinue := "\"\\ "
          groups := [⟨"", ["=", "if", ""]⟩, ⟨"two words", ["if", "a\u0001b", " "]⟩] })) = .ok e) ∧
    ∃ d, parse "Version=1\nGroup = a \"b c\"\nName = \"\"\nKeyStart = \"=\"\nKeyword = = 1" =
        .ok d ∧
      ∃ e, parse (render d) = .ok e ∧ d.Same e ∧ render e = render d := by
  constructor
  · exact (made_definition_restored (.built _ (by decide))).imp fun _ restored => restored.1
  · obtain ⟨d, accepted⟩ : ∃ d, parse
        "Version=1\nGroup = a \"b c\"\nName = \"\"\nKeyStart = \"=\"\nKeyword = = 1" = .ok d :=
      Result.eq_ok_of_isOk (by decide +kernel)
    exact ⟨d, accepted, made_definition_restored (.read accepted)⟩

end Highlighter.Compiled
