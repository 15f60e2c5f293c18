import Highlighter.Proofs.Compiled.FirstFault
import Mathlib.Logic.Relation

/-! The layout of a compiled text makes no difference. Each part of a definition is read off the
lines of one key, so lines of different keys can change places, and lines that say nothing about a
definition can stand anywhere; how lines are ended is not seen at all. -/
namespace Highlighter.Compiled
open Result

/-- The key of the line that says an entry. -/
def Entry.key : Entry → String
  | .version => "Version"
  | .name _ => "Name"
  | .extensions _ => "Ext"
  | .lineComment _ => "LineComment"
  | .blockComment _ => "BlockComment"
  | .delimiter _ => "Delimiter"
  | .charSet set _ => set.key
  | .groups _ => "Group"
  | .keywords _ => "Keyword"
  | .unknown key => key

theorem Means.key_eq {key : String} {values : List String} {entry : Entry}
    (means : Means key values entry) : entry.key = key := by
  cases means <;> rfl

/-- The key of a line; a blank line and a comment have none. -/
def keyOf? (raw : List Char) : Option String :=
  let text := Text.trim raw
  if text.head? = some ';' then none
  else (Text.cut? '=' text).map fun (key, _) => String.ofList (Text.trim key)

theorem Reads.keyOf? {raw : List Char} {entry : Entry} (reads : Reads raw (some entry)) :
    keyOf? raw = some entry.key := by
  cases reads with
  | entry uncommented cut _ means =>
    rw [Compiled.keyOf?, if_neg uncommented, cut, Option.map_some, means.key_eq]

section Entries
variable {α : Type} {entries others : List Entry}

/-- Two lists have the same entries of each key that has a meaning, in the same order. -/
def SameByKey (entries others : List Entry) : Prop :=
  ∀ key ∈ keys, entries.filter (·.key = key) = others.filter (·.key = key)

/-- What is read off the entries of one key is the same. -/
theorem SameByKey.flatMap_eq (same : SameByKey entries others) {f : Entry → List α} (key : String)
    (known : key ∈ keys) (keyed : ∀ entry, f entry ≠ [] → entry.key = key) :
    entries.flatMap f = others.flatMap f := by
  have restricted : ∀ listed : List Entry,
      (listed.filter (·.key = key)).flatMap f = listed.flatMap f := by
    intro listed
    induction listed with
    | nil => rfl
    | cons entry rest ih =>
      by_cases here : entry.key = key
      · simp only [List.filter_cons, here, decide_true, if_true, List.flatMap_cons, ih]
      · have silent : f entry = [] := by
          by_contra speaking
          exact here (keyed entry speaking)
        simp only [List.filter_cons, here, decide_false, Bool.false_eq_true, if_false,
          List.flatMap_cons, silent, List.nil_append, ih]
  rw [← restricted entries, ← restricted others, same key known]

theorem SameByKey.filterMap_eq (same : SameByKey entries others) {f : Entry → Option α}
    (key : String) (known : key ∈ keys) (keyed : ∀ entry, f entry ≠ none → entry.key = key) :
    entries.filterMap f = others.filterMap f := by
  rw [List.filterMap_eq_flatMap_toList, List.filterMap_eq_flatMap_toList]
  refine same.flatMap_eq key known fun entry speaking => keyed entry fun silent => speaking ?_
  rw [silent]
  rfl

theorem SameByKey.setOf_eq (same : SameByKey entries others) (name : SetName) :
    setOf name entries = setOf name others := by
  have known : name.key ∈ keys := by cases name <;> decide
  unfold setOf
  rw [same.filterMap_eq name.key known]
  intro entry
  cases entry with
  | charSet other set =>
    simp only [ne_eq, ite_eq_right_iff, reduceCtorEq, imp_false, not_not]
    rintro rfl
    rfl
  | _ => exact fun speaking => absurd rfl speaking

theorem SameByKey.nameOf?_eq (same : SameByKey entries others) :
    nameOf? entries = nameOf? others := by
  refine congrArg List.getLast? (same.filterMap_eq "Name" (by decide) fun entry => ?_)
  cases entry <;> simp [Entry.key]

theorem SameByKey.groupNamesOf_eq (same : SameByKey entries others) :
    groupNamesOf entries = groupNamesOf others := by
  refine same.flatMap_eq "Group" (by decide) fun entry => ?_
  cases entry <;> simp [Entry.key]

theorem SameByKey.keywordsOf_eq (same : SameByKey entries others) :
    keywordsOf entries = keywordsOf others := by
  refine same.flatMap_eq "Keyword" (by decide) fun entry => ?_
  cases entry <;> simp [Entry.key]

theorem SameByKey.assemble_eq (same : SameByKey entries others) (name : String) :
    assemble entries name = assemble others name := by
  have extensions : extensionsOf entries = extensionsOf others := by
    refine same.flatMap_eq "Ext" (by decide) fun entry => ?_
    cases entry <;> simp [Entry.key]
  have lineComment : lineCommentOf? entries = lineCommentOf? others := by
    refine congrArg List.getLast? (same.filterMap_eq "LineComment" (by decide) fun entry => ?_)
    cases entry <;> simp [Entry.key]
  have blockComment : blockCommentOf? entries = blockCommentOf? others := by
    refine congrArg List.getLast? (same.filterMap_eq "BlockComment" (by decide) fun entry => ?_)
    cases entry <;> simp [Entry.key]
  have delimiters : delimitersOf entries = delimitersOf others := by
    refine same.filterMap_eq "Delimiter" (by decide) fun entry => ?_
    cases entry <;> simp [Entry.key]
  simp only [assemble, extensions, lineComment, blockComment, delimiters, same.setOf_eq,
    same.groupNamesOf_eq, same.keywordsOf_eq]

theorem SameByKey.clash?_eq (same : SameByKey entries others) (k : Keyword) :
    clash? entries k = clash? others k := by
  simp only [clash?, clashOf?, same.setOf_eq]

/-- Entries give the same definition in any order that keeps those of each key in order. -/
theorem SameByKey.ofEntries_eq_ok (same : SameByKey entries others) {d : Definition}
    (given : ofEntries entries = .ok d) : ofEntries others = .ok d := by
  obtain ⟨name, named, grouped, clean, rfl⟩ := ofEntries_eq_ok_iff.mp given
  rw [same.keywordsOf_eq] at grouped clean
  rw [same.groupNamesOf_eq] at grouped
  refine ofEntries_eq_ok_iff.mpr ⟨name, same.nameOf?_eq ▸ named, grouped, ?_, same.assemble_eq name⟩
  exact fun k member => same.clash?_eq k ▸ clean k member

end Entries

/-- A line that says nothing about a definition: a blank line, a comment, or a line with a key that
has no meaning, whose values can be read. -/
inductive PassedOver (raw : List Char) : Prop
  | blank (nothing : Text.trim raw = [])
  | comment (marked : (Text.trim raw).head? = some ';')
  | unknownKey {key rest : List Char} {values : List String}
      (cut : Text.cut? '=' (Text.trim raw) = some (key, rest)) (formed : split rest = .ok values)
      (unknown : String.ofList (Text.trim key) ∉ keys)

/-- A change of the layout of a text. -/
inductive Rearranged : String → String → Prop
  /-- The lines change places, and those of each key stay in order. -/
  | reordered {text other : String} (perm : (Text.lines other).Perm (Text.lines text))
      (kept : ∀ key : String, (Text.lines other).filter (keyOf? · = some key) =
        (Text.lines text).filter (keyOf? · = some key)) : Rearranged text other
  /-- A line that says nothing is put between the lines. -/
  | inserted {text other : String} {before after : List (List Char)} {raw : List Char}
      (passed : PassedOver raw) (whole : Text.lines text = before ++ after)
      (longer : Text.lines other = before ++ raw :: after) : Rearranged text other
  /-- A line feed gets a carriage return before it. -/
  | returned (before after : String) :
      Rearranged (before ++ "\n" ++ after) (before ++ "\r\n" ++ after)

theorem reads_of_said? {raw : List Char} {entry : Entry} (said : said? raw = some entry) :
    Reads raw (some entry) := by
  cases read : Entry.ofLine 0 raw with
  | error error =>
    rw [said?, read] at said
    cases said
  | ok result =>
    rw [said?, read] at said
    change result = some entry at said
    exact ofLine_eq_ok_iff.mp (said ▸ read)

/-- The entries of a key are those of the lines with this key. -/
theorem filter_filterMap_said? (ls : List (List Char)) (key : String) :
    (ls.filterMap said?).filter (·.key = key) =
      (ls.filter (keyOf? · = some key)).filterMap said? := by
  rw [List.filter_filterMap, List.filterMap_filter]
  refine List.filterMap_congr fun raw _ => ?_
  cases said : said? raw with
  | none => simp
  | some entry =>
    rw [(reads_of_said? said).keyOf?]
    simp [Option.filter]

/-- A line that is passed over can be read, and says nothing that has a meaning. -/
theorem PassedOver.reads {raw : List Char} (passed : PassedOver raw) :
    ∃ said, Reads raw said ∧ ∀ entry, said = some entry → entry.key ∉ keys := by
  have silent : ∀ entry : Entry, none = some entry → entry.key ∉ keys := fun _ said => nomatch said
  cases passed with
  | blank nothing => exact ⟨none, .blank nothing, silent⟩
  | comment marked => exact ⟨none, .comment marked, silent⟩
  | unknownKey cut formed unknown =>
    by_cases marked : (Text.trim raw).head? = some ';'
    · exact ⟨none, .comment marked, silent⟩
    · refine ⟨_, .entry marked cut formed (.unknown unknown _), ?_⟩
      rintro entry ⟨⟩
      exact unknown

/-- A line that is passed over adds no entry to those of a key that has a meaning. -/
theorem PassedOver.sameByKey {raw : List Char} (passed : PassedOver raw)
    (before after : List (List Char)) :
    SameByKey ((before ++ after).filterMap said?) ((before ++ raw :: after).filterMap said?) := by
  obtain ⟨said, reads, meaningless⟩ := passed.reads
  intro key known
  rw [List.filterMap_append, List.filterMap_append, List.filterMap_cons, reads.said?]
  cases said with
  | none => rfl
  | some entry =>
    have other : entry.key ≠ key := fun here => meaningless entry rfl (here ▸ known)
    simp [other]

/-- A text is accepted when all its lines can be read and their entries give a definition. -/
theorem parse_eq_ok_iff_readable {text : String} {d : Definition} : parse text = .ok d ↔
    (∀ raw ∈ Text.lines text, isReadable raw = true) ∧
      ofEntries ((Text.lines text).filterMap said?) = .ok d := by
  constructor
  · intro accepted
    rcases readable_or_firstFault (Text.lines text) with readable | ⟨_, _, first⟩
    · exact ⟨readable, parse_of_readable readable ▸ accepted⟩
    · rw [parse_of_firstFault first] at accepted
      cases accepted
  · rintro ⟨readable, given⟩
    rw [parse_of_readable readable, given]

theorem Rearranged.parse_eq_ok {text other : String} (rearranged : Rearranged text other)
    {d : Definition} (accepted : parse text = .ok d) : parse other = .ok d := by
  cases rearranged with
  | reordered perm kept =>
    obtain ⟨readable, given⟩ := parse_eq_ok_iff_readable.mp accepted
    have still : ∀ raw ∈ Text.lines other, isReadable raw = true :=
      fun raw member => readable raw (perm.mem_iff.mp member)
    have same : SameByKey ((Text.lines text).filterMap said?)
        ((Text.lines other).filterMap said?) := by
      intro key _
      rw [filter_filterMap_said?, filter_filterMap_said?, kept key]
    exact parse_eq_ok_iff_readable.mpr ⟨still, same.ofEntries_eq_ok given⟩
  | @inserted _ _ before after raw passed whole longer =>
    obtain ⟨said, reads, _⟩ := passed.reads
    obtain ⟨readable, given⟩ := parse_eq_ok_iff_readable.mp accepted
    rw [whole] at readable given
    refine parse_eq_ok_iff_readable.mpr
      ⟨?_, longer ▸ (passed.sameByKey before after).ofEntries_eq_ok given⟩
    rw [longer]
    intro line member
    rcases List.mem_append.mp member with early | late
    · exact readable line (List.mem_append_left _ early)
    · rcases List.mem_cons.mp late with rfl | later
      · exact reads.isReadable
      · exact readable line (List.mem_append_right _ later)
  | returned before after =>
    have lines : readLines (before ++ "\r\n" ++ after) = readLines (before ++ "\n" ++ after) := by
      have spelled := Text.map_trim_splitAt_return before.toList after.toList
      refine results_congr ?_
      simpa using spelled
    rw [parse, lines]
    exact accepted

/-- However often a text is rearranged, it gives the same definition. -/
theorem layout_changes_no_definition {text other : String} {d : Definition}
    (rearranged : Relation.ReflTransGen Rearranged text other) (accepted : parse text = .ok d) :
    parse other = .ok d := by
  induction rearranged with
  | refl => exact accepted
  | tail _ step ih => exact step.parse_eq_ok ih

/-- Two neighbours of different keys change places. -/
theorem Rearranged.swapped {text other : String} {before after : List (List Char)}
    {a b : List Char} (apart : keyOf? a ≠ keyOf? b)
    (whole : Text.lines text = before ++ a :: b :: after)
    (turned : Text.lines other = before ++ b :: a :: after) : Rearranged text other := by
  refine .reordered ?_ fun key => ?_
  · rw [whole, turned]
    exact (List.Perm.swap a b after).append_left before
  · rw [whole, turned, List.filter_append, List.filter_append]
    congr 1
    by_cases here : keyOf? a = some key
    · have there : keyOf? b ≠ some key := fun same => apart (here.trans same.symm)
      simp [here, there]
    · simp [List.filter_cons, here]

theorem operators_moved_between_comments :
    ∃ d, parse "Name = X\nOperators = +\nName = Y" = .ok d ∧
      Relation.ReflTransGen Rearranged "Name = X\nOperators = +\nName = Y"
        "Operators = +\r\n\t; = \"\nName = X\nColour = \"red\" 1\nName = Y" ∧
      parse "Operators = +\r\n\t; = \"\nName = X\nColour = \"red\" 1\nName = Y" = .ok d := by
  obtain ⟨d, accepted⟩ : ∃ d, parse "Name = X\nOperators = +\nName = Y" = .ok d :=
    eq_ok_of_isOk (by decide +kernel)
  have swapped : Rearranged "Name = X\nOperators = +\nName = Y"
      "Operators = +\nName = X\nName = Y" := by
    have apart : keyOf? "Name = X".toList ≠ keyOf? "Operators = +".toList := by decide +kernel
    have whole : Text.lines "Name = X\nOperators = +\nName = Y" =
        [] ++ "Name = X".toList :: "Operators = +".toList :: ["Name = Y".toList] := by decide +kernel
    have turned : Text.lines "Operators = +\nName = X\nName = Y" =
        [] ++ "Operators = +".toList :: "Name = X".toList :: ["Name = Y".toList] := by decide +kernel
    exact .swapped apart whole turned
  have commented : Rearranged "Operators = +\nName = X\nName = Y"
      "Operators = +\n\t; = \"\nName = X\nName = Y" := by
    have marked : (Text.trim "\t; = \"".toList).head? = some ';' := by decide +kernel
    have whole : Text.lines "Operators = +\nName = X\nName = Y" =
        ["Operators = +".toList] ++ ["Name = X".toList, "Name = Y".toList] := by decide +kernel
    have longer : Text.lines "Operators = +\n\t; = \"\nName = X\nName = Y" =
        ["Operators = +".toList] ++ "\t; = \"".toList :: ["Name = X".toList, "Name = Y".toList] := by
      decide +kernel
    exact .inserted (.comment marked) whole longer
  have coloured : Rearranged "Operators = +\n\t; = \"\nName = X\nName = Y"
      "Operators = +\n\t; = \"\nName = X\nColour = \"red\" 1\nName = Y" := by
    have cut : Text.cut? '=' (Text.trim "Colour = \"red\" 1".toList) =
        some ("Colour ".toList, " \"red\" 1".toList) := by decide +kernel
    have formed : split " \"red\" 1".toList = .ok ["red", "1"] := by decide +kernel
    have unknown : String.ofList (Text.trim "Colour ".toList) ∉ keys := by decide +kernel
    have whole : Text.lines "Operators = +\n\t; = \"\nName = X\nName = Y" =
        ["Operators = +".toList, "\t; = \"".toList, "Name = X".toList] ++ ["Name = Y".toList] := by
      decide +kernel
    have longer : Text.lines "Operators = +\n\t; = \"\nName = X\nColour = \"red\" 1\nName = Y" =
        ["Operators = +".toList, "\t; = \"".toList, "Name = X".toList] ++
          "Colour = \"red\" 1".toList :: ["Name = Y".toList] := by decide +kernel
    exact .inserted (.unknownKey cut formed unknown) whole longer
  have returned : Rearranged "Operators = +\n\t; = \"\nName = X\nColour = \"red\" 1\nName = Y"
      "Operators = +\r\n\t; = \"\nName = X\nColour = \"red\" 1\nName = Y" :=
    .returned "Operators = +" "\t; = \"\nName = X\nColour = \"red\" 1\nName = Y"
  have rearranged := (((Relation.ReflTransGen.single swapped).tail commented).tail coloured).tail
    returned
  exact ⟨d, accepted, rearranged, layout_changes_no_definition rearranged accepted⟩

end Highlighter.Compiled
