import Highlighter.Proofs.Compiled.LineJudgment
import Highlighter.Proofs.Language.Definition
import Highlighter.Proofs.Text.Number

/-! What the entries of a compiled text give. They give a definition when they name it, when every
keyword belongs to a group, and when no keyword character clashes with a set; such a definition
fits together. -/
namespace Highlighter.Compiled
open Result

def extensionsOf (entries : List Entry) : List String :=
  entries.flatMap fun | .extensions texts => texts | _ => []

def lineCommentOf? (entries : List Entry) : Option String :=
  (entries.filterMap fun | .lineComment mark => some mark | _ => none).getLast?

def blockCommentOf? (entries : List Entry) : Option BlockComment :=
  (entries.filterMap fun | .blockComment marks => some marks | _ => none).getLast?

def delimitersOf (entries : List Entry) : List Delimiter :=
  entries.filterMap fun | .delimiter d => some d | _ => none

/-- The definition that entries give when nothing is wrong with them. -/
def assemble (entries : List Entry) (name : String) : Definition :=
  { name
    extensions := Extension.collect (extensionsOf entries)
    groups := Group.ofKeywords (groupNamesOf entries) (keywordsOf entries)
    keywords := KeywordTable.ofList (keywordsOf entries)
    keyStart := setOf .keyStart entries
    keyContinue := setOf .keyContinue entries
    operators := setOf .operators entries
    punctuation := setOf .punctuation entries
    numberContinue := setOf .numberContinue entries
    lineComment := Definition.markOf (lineCommentOf? entries)
    blockComment := Definition.marksOf (blockCommentOf? entries)
    delimiters := delimitersOf entries
    plain := false }

theorem ofEntries_eq_ok_iff {entries : List Entry} {d : Definition} :
    ofEntries entries = .ok d ↔ ∃ name, nameOf? entries = some name ∧
      (∀ k ∈ keywordsOf entries, k.group.index < (groupNamesOf entries).length) ∧
      (∀ k ∈ (KeywordTable.ofList (keywordsOf entries)).entries, clash? entries k = none) ∧
      d = assemble entries name := by
  unfold ofEntries
  cases named : nameOf? entries with
  | none => simp [throw, throwThe, MonadExceptOf.throw]
  | some name =>
    cases ungrouped : (keywordsOf entries).find?
        (·.group.index ≥ (groupNamesOf entries).length) with
    | some k =>
      have outside := List.find?_some ungrouped
      have member := List.mem_of_find?_eq_some ungrouped
      simp only [ge_iff_le, decide_eq_true_eq] at outside
      simp only [ungrouped, throw, throwThe, MonadExceptOf.throw, bind, Except.bind, reduceCtorEq,
        false_iff, not_exists, not_and]
      intro _ _ grouped
      exact absurd (grouped k member) (by omega)
    | none =>
      have grouped : ∀ k ∈ keywordsOf entries,
          k.group.index < (groupNamesOf entries).length := by
        simpa using List.find?_eq_none.mp ungrouped
      cases clash : (KeywordTable.ofList (keywordsOf entries)).entries.findSome?
          (clash? entries) with
      | some error =>
        obtain ⟨k, member, clashes⟩ := List.exists_of_findSome?_eq_some clash
        simp only [ungrouped, clash, throw, throwThe, MonadExceptOf.throw, bind, Except.bind,
          reduceCtorEq, false_iff, not_exists, not_and]
        intro _ _ _ clean
        rw [clean k member] at clashes
        contradiction
      | none =>
        have clean := List.findSome?_eq_none_iff.mp clash
        simp only [ungrouped, clash, pure, Except.pure, Except.ok.injEq, Option.some.injEq]
        constructor
        · rintro rfl
          exact ⟨name, rfl, grouped, clean, rfl⟩
        · rintro ⟨_, rfl, _, _, rfl⟩
          rfl

theorem clashOf?_eq_none_iff {entries : List Entry} {wanted : SetName} {c : Char} :
    clashOf? entries wanted c = none ↔ c ∈ setOf wanted entries ∧
      c ∉ setOf .operators entries ∧ c ∉ setOf .punctuation entries := by
  unfold clashOf?
  simp only [← CharSet.contains_iff]
  cases (setOf wanted entries).contains c <;> cases (setOf .operators entries).contains c <;>
    cases (setOf .punctuation entries).contains c <;> simp

/-- A keyword clashes with no set when its first character and its other ones are in the sets for
them, and none is an operator or punctuation. -/
theorem clash?_eq_none_iff {entries : List Entry} {k : Keyword} :
    clash? entries k = none ↔
      (∀ c ∈ k.text.toList.take 1, c ∈ setOf .keyStart entries) ∧
      (∀ c ∈ k.text.toList.drop 1, c ∈ setOf .keyContinue entries) ∧
      ∀ c ∈ k.text.toList, c ∉ setOf .operators entries ∧ c ∉ setOf .punctuation entries := by
  unfold clash?
  cases k.text.toList with
  | nil => simp
  | cons first later =>
    simp only [List.findSome?_eq_none_iff, List.forall_mem_cons, List.mem_map,
      forall_exists_index, and_imp, forall_apply_eq_imp_iff₂, Option.map_eq_none_iff,
      clashOf?_eq_none_iff, List.take_succ_cons, List.take_zero, List.drop_succ_cons,
      List.drop_zero, List.not_mem_nil, false_implies, implies_true, and_true]
    constructor
    · rintro ⟨⟨start, apart⟩, others⟩
      exact ⟨start, fun c member => (others c member).1, apart, fun c member => (others c member).2⟩
    · rintro ⟨start, continues, apart, others⟩
      exact ⟨⟨start, apart⟩, fun c member => ⟨continues c member, others c member⟩⟩

theorem assemble_coherent {entries : List Entry} {name : String}
    (grouped : ∀ k ∈ keywordsOf entries, k.group.index < (groupNamesOf entries).length)
    (clean : ∀ k ∈ (KeywordTable.ofList (keywordsOf entries)).entries, clash? entries k = none) :
    (assemble entries name).Coherent where
  ruled := rfl
  extensions := Extension.collected_collect _
  groups := by
    have perm : (Keyword.firsts (keywordsOf entries)).Perm
        (Keyword.firsts (KeywordTable.ofList (keywordsOf entries)).entries) := by
      rw [KeywordTable.firsts_entries]
      exact (KeywordTable.ofList_perm _).symm
    simp only [assemble, Group.names_ofKeywords]
    exact Group.same_ofKeywords perm
  grouped := by
    intro k member
    simpa [assemble, Group.size_ofKeywords] using
      grouped k (KeywordTable.declared_of_mem_ofList member)
  starts := fun k member => (clash?_eq_none_iff.mp (clean k member)).1
  continues := fun k member => (clash?_eq_none_iff.mp (clean k member)).2.1
  apart := fun k member => (clash?_eq_none_iff.mp (clean k member)).2.2
  lineComment := Definition.markOf_ne_empty _
  blockComment := fun _ => Definition.of_mem_marksOf

theorem readKeywords_lt {values : List String} {ks : List Keyword}
    (read : readKeywords values = .ok ks) : ∀ k ∈ ks, k.group.index < Text.limit32 := by
  induction values using readKeywords.induct generalizing ks with
  | case1 word id rest n number ih =>
    simp only [readKeywords, number] at read
    cases following : readKeywords rest with
    | error fault => simp [following] at read
    | ok others =>
      have whole : ks = ⟨word, ⟨n⟩⟩ :: others := by
        simpa [following] using read.symm
      rw [whole, List.forall_mem_cons]
      exact ⟨Text.decimal?_lt number, ih following⟩
  | case2 word id rest number =>
    simp [readKeywords, number] at read
  | case3 values short =>
    cases values with
    | nil =>
      cases read
      simp
    | cons word rest =>
      cases rest with
      | nil =>
        cases read
        simp
      | cons id rest => exact absurd rfl (short word id rest)

theorem Means.readKeywords {key : String} {values : List String} {ks : List Keyword}
    (means : Means key values (.keywords ks)) : readKeywords values = .ok ks := by
  cases means with
  | keywords _ read => exact read

theorem ofLine_keywords {n : Nat} {raw : List Char} {ks : List Keyword}
    (read : Entry.ofLine n raw = .ok (some (.keywords ks))) :
    ∀ k ∈ ks, k.group.index < Text.limit32 := by
  cases ofLine_eq_ok_iff.mp read with
  | entry _ _ _ means => exact readKeywords_lt means.readKeywords

/-- A text is accepted when its lines can be read and their entries give a definition. -/
theorem parse_eq_ok_iff {text : String} {d : Definition} : parse text = .ok d ↔
    ∃ entries : List (Option Entry), readLines text = entries.map .ok ∧
      ofEntries (entries.filterMap id) = .ok d := by
  simp only [parse, bind_eq_ok, mapM_id_eq_ok]

theorem index_lt_of_readLines {text : String} {entries : List (Option Entry)}
    (read : readLines text = entries.map .ok) {k : Keyword}
    (member : k ∈ keywordsOf (entries.filterMap id)) : k.group.index < Text.limit32 := by
  obtain ⟨entry, included, inside⟩ := List.mem_flatMap.mp member
  split at inside
  · rename_i ks
    have listed : some (Entry.keywords ks) ∈ entries := by simpa using included
    have result : Except.ok (some (Entry.keywords ks)) ∈ readLines text :=
      read ▸ List.mem_map_of_mem listed
    obtain ⟨i, bound, said⟩ := List.mem_mapIdx.mp result
    exact ofLine_keywords said k inside
  · exact absurd inside List.not_mem_nil

/-- Every definition that is read fits together, and its groups have numbers of 32 bits. -/
theorem parse_coherent {text : String} {d : Definition} (read : parse text = .ok d) :
    d.Coherent ∧ ∀ k ∈ d.keywords.entries, k.group.index < Text.limit32 := by
  obtain ⟨entries, lines, given⟩ := parse_eq_ok_iff.mp read
  obtain ⟨name, _, grouped, clean, rfl⟩ := ofEntries_eq_ok_iff.mp given
  refine ⟨assemble_coherent grouped clean, fun k member => ?_⟩
  exact index_lt_of_readLines lines (KeywordTable.declared_of_mem_ofList member)

end Highlighter.Compiled
