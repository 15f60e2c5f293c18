import Highlighter.Proofs.Compiled.Entries

/-! What may be relied on in a definition, whichever way it was made. A definition is built from the
words of a language, or read from a text that gives its words, its groups and its character sets on
lines of their own; either way its parts fit together, and everything that is said here follows from
how they do. -/
namespace Highlighter

namespace Group

/-- The words of a group, each with the number of the group. -/
def keywords (group : Group) : List Keyword := group.words.map (Keyword.mk · group.id)

theorem mem_keywords {group : Group} {k : Keyword} :
    k ∈ group.keywords ↔ k.text ∈ group.words ∧ k.group = group.id := by
  rw [keywords, List.mem_map]
  constructor
  · rintro ⟨word, member, rfl⟩
    exact ⟨member, rfl⟩
  · rintro ⟨member, same⟩
    exact ⟨k.text, member, by rw [← same]⟩

theorem Same.keywords_perm {g h : Group} (same : g.Same h) : g.keywords.Perm h.keywords := by
  rw [keywords, keywords, same.id]
  exact same.words.map _

theorem flatMap_keywords_perm {gs hs : List Group} (same : List.Forall₂ Same gs hs) :
    (gs.flatMap keywords).Perm (hs.flatMap keywords) := by
  induction same with
  | nil => exact .refl _
  | cons first _ ih => exact first.keywords_perm.append ih

/-- Keywords that are sorted into groups by their numbers are the same keywords. -/
theorem perm_by_number {ks : List Keyword} {n : Nat} (bounded : ∀ k ∈ ks, k.group.index < n) :
    ((List.range n).flatMap fun i => ks.filter (·.group.index = i)).Perm ks := by
  induction n generalizing ks with
  | zero =>
    cases ks with
    | nil => exact .refl _
    | cons k ks => exact absurd (bounded k List.mem_cons_self) (Nat.not_lt_zero _)
  | succ n ih =>
    have below : ∀ k ∈ ks.filter (·.group.index < n), k.group.index < n := by
      intro k member
      simpa using (List.mem_filter.mp member).2
    have earlier : ((List.range n).flatMap fun i => ks.filter (·.group.index = i)) =
        (List.range n).flatMap fun i => (ks.filter (·.group.index < n)).filter
          (·.group.index = i) := by
      refine List.flatMap_congr fun i member => ?_
      rw [List.filter_filter]
      refine List.filter_congr fun k _ => ?_
      have inside := List.mem_range.mp member
      grind
    have last : ks.filter (·.group.index = n) =
        ks.filter (fun k => !decide (k.group.index < n)) := by
      refine List.filter_congr fun k member => ?_
      have bound := bounded k member
      grind
    rw [List.range_succ, List.flatMap_append, List.flatMap_singleton, earlier, last]
    exact ((ih below).append_right _).trans (List.filter_append_perm _ ks)

section OfKeywords
variable {names : List String} {t : KeywordTable}

theorem keywords_ofKeywords : (ofKeywords names t.entries).items.map keywords =
    (List.range names.length).map fun i => t.entries.filter (·.group.index = i) := by
  apply List.ext_getElem
  · simp [ofKeywords]
  · intro i _ _
    have rebuilt : ∀ k ∈ t.entries.filter (·.group.index = i), Keyword.mk k.text ⟨i⟩ = k := by
      intro k member
      have number : k.group.index = i := by simpa using (List.mem_filter.mp member).2
      rw [← number]
    simp only [ofKeywords, keywords, KeywordTable.firsts_entries, List.getElem_map,
      List.getElem_mapIdx, List.map_map, List.getElem_range]
    exact (List.map_congr_left rebuilt).trans (List.map_id _)

theorem flatMap_ofKeywords (grouped : ∀ k ∈ t.entries, k.group.index < names.length) :
    ((ofKeywords names t.entries).items.flatMap keywords).Perm t.entries := by
  rw [List.flatMap_def, keywords_ofKeywords, ← List.flatMap_def]
  exact perm_by_number grouped

theorem id_of_same {gs : List Group} {ks : List Keyword} {group : Group} {i : Nat}
    (same : List.Forall₂ Same gs (ofKeywords names ks).items) (here : gs[i]? = some group) :
    group.id = ⟨i⟩ := by
  obtain ⟨bound, rfl⟩ := List.getElem?_eq_some_iff.mp here
  have pair := same.get bound (same.length_eq ▸ bound)
  rw [List.get_eq_getElem] at pair
  rw [pair.id]
  simp [ofKeywords]

end OfKeywords

end Group

namespace Definition
variable {d : Definition}

/-- What may be relied on in a definition. -/
structure Consistent (d : Definition) : Prop where
  ascending : d.keywords.entries.Pairwise (·.text < ·.text)
  found : ∀ word id, d.lookup word = some id ↔ ⟨word, id⟩ ∈ d.keywords.entries
  /-- Searching the table by halves misses no keyword. -/
  halved : ∀ word, d.keywords.bisect word = d.lookup word
  numbered : ∀ (i : Nat) (group : Group), d.groups.items[i]? = some group → group.id = ⟨i⟩
  grouped : ∀ word id, (∃ group, d.group? id = some group ∧ word ∈ group.words) ↔
    ⟨word, id⟩ ∈ d.keywords.entries
  /-- The words of all groups are the keywords of the table, each of them once. -/
  partition : (d.groups.items.flatMap Group.keywords).Perm d.keywords.entries
  starts : ∀ k ∈ d.keywords.entries, ∀ c ∈ k.text.toList.head?, c ∈ d.keyStart
  continues : ∀ k ∈ d.keywords.entries, ∀ c ∈ k.text.toList.tail, c ∈ d.keyContinue
  apart : ∀ k ∈ d.keywords.entries, ∀ c ∈ k.text.toList, c ∉ d.operators ∧ c ∉ d.punctuation
  extensionsDistinct : d.extensions.Nodup
  extensionsNormal : ∀ text ∈ d.extensions, text ≠ "" ∧ Extension.normalize text = text
  lineComment : ∀ mark ∈ d.lineComment, mark ≠ ""
  blockComment : ∀ marks ∈ d.blockComment, marks.opening ≠ "" ∧ marks.closing ≠ ""

theorem Coherent.id_of_getElem? (coherent : d.Coherent) {i : Nat} {group : Group}
    (here : d.groups.items[i]? = some group) : group.id = ⟨i⟩ :=
  Group.id_of_same coherent.groups here

theorem Coherent.keywords_perm (coherent : d.Coherent) :
    (d.groups.items.flatMap Group.keywords).Perm d.keywords.entries := by
  refine (Group.flatMap_keywords_perm coherent.groups).trans (Group.flatMap_ofKeywords ?_)
  intro k member
  rw [List.length_map]
  exact coherent.grouped k member

/-- A word is a word of a group when the table has it with the number of this group. -/
theorem Coherent.mem_words_iff (coherent : d.Coherent) {word : String} {id : GroupId} :
    (∃ group, d.group? id = some group ∧ word ∈ group.words) ↔
      ⟨word, id⟩ ∈ d.keywords.entries := by
  rw [← coherent.keywords_perm.mem_iff, List.mem_flatMap]
  constructor
  · rintro ⟨group, here, member⟩
    refine ⟨group, List.mem_of_getElem? here, Group.mem_keywords.mpr ⟨member, ?_⟩⟩
    exact (coherent.id_of_getElem? here).symm
  · rintro ⟨group, listed, member⟩
    obtain ⟨inside, same⟩ := Group.mem_keywords.mp member
    obtain ⟨i, here⟩ := List.getElem?_of_mem listed
    have number : id = ⟨i⟩ := same.trans (coherent.id_of_getElem? here)
    exact ⟨group, number ▸ here, inside⟩

theorem Coherent.consistent (coherent : d.Coherent) : d.Consistent where
  ascending := d.keywords.ascending
  found := fun _ _ => KeywordTable.lookup_eq_some_iff
  halved := d.keywords.bisect_eq_lookup
  numbered := fun _ _ => coherent.id_of_getElem?
  grouped := fun _ _ => coherent.mem_words_iff
  partition := coherent.keywords_perm
  starts := by
    intro k member c first
    apply coherent.starts k member c
    rw [List.take_one]
    exact Option.mem_toList.mpr first
  continues := by
    intro k member c later
    rw [← List.drop_one] at later
    exact coherent.continues k member c later
  apart := coherent.apart
  extensionsDistinct := coherent.extensions.distinct
  extensionsNormal := coherent.extensions.normal
  lineComment := by
    intro mark given empty
    exact coherent.lineComment (empty ▸ given)
  blockComment := coherent.blockComment

/-- Every definition that is built, and every one that is read from a text, is consistent. -/
theorem definitions_are_consistent :
    (∀ declared, (build declared).Consistent) ∧
    ∀ text d, Compiled.parse text = .ok d → d.Consistent := by
  constructor
  · intro declared
    exact (build_coherent declared).consistent
  · intro text d read
    exact (Compiled.parse_coherent read).1.consistent

/-- Lines that come twice, contradict each other, and stand in no order. -/
def conflictingLines : String := "\n".intercalate
  ["Keyword = if 1 \"\" 0", "Group = x", "Name = a", "KeyStart = -", "KeyStart = i", "Operators = -",
    "KeyContinue = f", "Group = y", "Keyword = if 0", "Ext = .A a"]

theorem conflicting_parts_are_consistent :
    (build { name := "a", extensions := [".A", "a", " "], lineComment := some ""
             groups := [⟨"x", ["if", "", "if"]⟩, ⟨"y", ["if", "->"]⟩] }).Consistent ∧
    ∃ d, Compiled.parse conflictingLines = .ok d ∧ d.Consistent := by
  obtain ⟨built, read⟩ := definitions_are_consistent
  refine ⟨built _, ?_⟩
  obtain ⟨d, accepted⟩ : ∃ d, Compiled.parse conflictingLines = .ok d :=
    Result.eq_ok_of_isOk (by decide +kernel)
  exact ⟨d, accepted, read _ d accepted⟩

end Definition
end Highlighter
