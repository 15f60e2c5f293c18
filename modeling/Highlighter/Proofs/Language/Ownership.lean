import Highlighter.Proofs.Language.Consistency
import Mathlib.Data.Set.Basic
import Mathlib.Order.Nat

/-! A word belongs to the first group that declares it. The declarations of a group stand behind
those of the groups before it, which hide them, and in front of those of later groups, which they
hide; so what is left of a group does not depend on the groups after it. -/
namespace Highlighter

/-- The words of a group that are left to it by the groups before it, each where it is declared
first; empty words are nobody's. -/
def GroupDeclaration.owned (earlier : List GroupDeclaration) (group : GroupDeclaration) :
    List String :=
  (group.words.filter fun word => word ≠ "" ∧ ∀ other ∈ earlier, word ∉ other.words).eraseDups

/-- The numbers of the groups that declare a word. -/
def Declaration.declaring (d : Declaration) (word : String) : Set Nat :=
  {i | ∃ group, d.groups[i]? = some group ∧ word ∈ group.words}

namespace GroupDeclaration

theorem mem_owned {earlier : List GroupDeclaration} {group : GroupDeclaration} {word : String} :
    word ∈ group.owned earlier ↔
      word ∈ group.words ∧ word ≠ "" ∧ ∀ other ∈ earlier, word ∉ other.words := by
  rw [owned, List.mem_eraseDups, List.mem_filter, decide_eq_true_eq]

/-- The keywords that a group with this number declares. -/
def declarations (i : Nat) (group : GroupDeclaration) : List Keyword :=
  (group.words.filter (· != "")).map fun word => ⟨word, ⟨i⟩⟩

theorem texts_declarations (i : Nat) (group : GroupDeclaration) :
    (group.declarations i).map (·.text) = group.words.filter (· != "") := by
  rw [declarations, List.map_map]
  exact List.map_id _

theorem index_of_mem_declarations {i : Nat} {group : GroupDeclaration} {k : Keyword}
    (member : k ∈ group.declarations i) : k.group.index = i := by
  obtain ⟨word, _, rfl⟩ := List.mem_map.mp member
  rfl

end GroupDeclaration

namespace Declaration
open GroupDeclaration
variable {d : Declaration}

/-- The declarations of a list of groups that are numbered from `first` on. -/
def rows (first : Nat) (groups : List GroupDeclaration) : List Keyword :=
  (groups.mapIdx fun i group => group.declarations (first + i)).flatten

theorem mem_rows {first : Nat} {groups : List GroupDeclaration} {k : Keyword}
    (member : k ∈ rows first groups) :
    first ≤ k.group.index ∧ k.group.index < first + groups.length := by
  obtain ⟨row, listed, inside⟩ := List.mem_flatten.mp member
  obtain ⟨i, bound, rfl⟩ := List.mem_mapIdx.mp listed
  rw [index_of_mem_declarations inside]
  omega

theorem mem_texts_rows {first : Nat} {groups : List GroupDeclaration} {word : String} :
    word ∈ (rows first groups).map (·.text) ↔
      word ≠ "" ∧ ∃ group ∈ groups, word ∈ group.words := by
  constructor
  · intro member
    obtain ⟨k, inside, rfl⟩ := List.mem_map.mp member
    obtain ⟨row, listed, inRow⟩ := List.mem_flatten.mp inside
    obtain ⟨i, bound, rfl⟩ := List.mem_mapIdx.mp listed
    have text := List.mem_map_of_mem (f := (·.text)) inRow
    rw [texts_declarations, List.mem_filter, bne_iff_ne] at text
    exact ⟨text.2, groups[i], List.getElem_mem bound, text.1⟩
  · rintro ⟨filled, group, listed, declared⟩
    obtain ⟨i, bound, rfl⟩ := List.getElem_of_mem listed
    have inRow : ⟨word, ⟨first + i⟩⟩ ∈ groups[i].declarations (first + i) :=
      List.mem_map_of_mem (List.mem_filter.mpr ⟨declared, bne_iff_ne.mpr filled⟩)
    have inside : ⟨word, ⟨first + i⟩⟩ ∈ rows first groups :=
      List.mem_flatten_of_mem (List.mem_mapIdx.mpr ⟨i, bound, rfl⟩) inRow
    exact List.mem_map_of_mem inside

theorem rows_append (first : Nat) (groups others : List GroupDeclaration) :
    rows first (groups ++ others) = rows first groups ++ rows (first + groups.length) others := by
  have shifted : ∀ i, first + (i + groups.length) = first + groups.length + i := by
    intro i
    omega
  simp only [rows, List.mapIdx_append, List.flatten_append, shifted]

theorem rows_singleton (first : Nat) (group : GroupDeclaration) :
    rows first [group] = group.declarations first := by
  simp [rows]

theorem keywords_eq (d : Declaration) : d.keywords = rows 0 d.groups := by
  simp only [keywords, rows, Nat.zero_add]
  rfl

/-- Groups with other numbers contribute nothing to a group. -/
theorem firstAfter_rows_elsewhere {i first : Nat} (groups : List GroupDeclaration)
    (elsewhere : i < first ∨ first + groups.length ≤ i) (seen : List String) :
    (Keyword.firstAfter seen (rows first groups)).filter (·.group.index = i) = [] := by
  rw [List.filter_eq_nil_iff]
  intro k member
  have bounds := mem_rows (KeywordTable.mem_of_mem_firstAfter member)
  simp only [decide_eq_true_eq]
  omega

theorem firstAfter_declarations_own (i : Nat) (group : GroupDeclaration) (seen : List String) :
    (Keyword.firstAfter seen (group.declarations i)).filter (·.group.index = i) =
      Keyword.firstAfter seen (group.declarations i) := by
  rw [List.filter_eq_self]
  intro k member
  exact decide_eq_true (index_of_mem_declarations (KeywordTable.mem_of_mem_firstAfter member))

/-- The words that count and are declared in a group are those that are left to it. -/
theorem texts_of_split {earlier later : List GroupDeclaration} {group : GroupDeclaration}
    (whole : d.groups = earlier ++ group :: later) :
    ((Keyword.firsts d.keywords).filter (·.group.index = earlier.length)).map (·.text) =
      group.owned earlier := by
  have split : d.keywords = rows 0 earlier ++
      (group.declarations earlier.length ++ rows (earlier.length + 1) later) := by
    rw [keywords_eq, whole, rows_append, ← List.singleton_append, rows_append, rows_singleton,
      Nat.zero_add, List.length_singleton]
  have before := firstAfter_rows_elsewhere earlier (.inr (Nat.le_of_eq (Nat.zero_add _)))
  have after := firstAfter_rows_elsewhere later (.inl (Nat.lt_succ_self earlier.length))
  rw [Keyword.firsts, split, Keyword.firstAfter_append, Keyword.firstAfter_append,
    List.filter_append, List.filter_append, before, after, firstAfter_declarations_own,
    List.nil_append, List.append_nil, Keyword.texts_firstAfter, texts_declarations,
    List.filter_filter, GroupDeclaration.owned]
  congr 1
  apply List.filter_congr
  intro word _
  rw [Bool.eq_iff_iff, Bool.and_eq_true, decide_eq_true_eq, decide_eq_true_eq, bne_iff_ne,
    List.append_nil, mem_texts_rows]
  constructor
  · rintro ⟨undeclared, filled⟩
    refine ⟨filled, ?_⟩
    intro other listed declared
    exact undeclared ⟨filled, other, listed, declared⟩
  · rintro ⟨filled, undeclared⟩
    refine ⟨?_, filled⟩
    rintro ⟨_, other, listed, declared⟩
    exact undeclared other listed declared

theorem split_at {i : Nat} {group : GroupDeclaration} (here : d.groups[i]? = some group) :
    d.groups = d.groups.take i ++ group :: d.groups.drop (i + 1) ∧
      (d.groups.take i).length = i := by
  obtain ⟨bound, rfl⟩ := List.getElem?_eq_some_iff.mp here
  constructor
  · rw [← List.drop_eq_getElem_cons, List.take_append_drop]
  · exact List.length_take_of_le (Nat.le_of_lt bound)

end Declaration

namespace Definition
open Declaration
variable {d : Declaration}

/-- Every declared group keeps its place and its name, and has the words that are left to it. -/
theorem groups_build (d : Declaration) : (build d).groups.items =
    d.groups.mapIdx fun i group => ⟨⟨i⟩, group.name, group.owned (d.groups.take i)⟩ := by
  apply List.ext_getElem?
  intro i
  simp only [build, Group.ofKeywords, List.getElem?_mapIdx, List.getElem?_map, Option.map_map]
  cases here : d.groups[i]? with
  | none => rfl
  | some group =>
    obtain ⟨whole, length⟩ := split_at here
    have words := texts_of_split whole
    rw [length] at words
    simp only [Option.map_some, Function.comp_apply, words]

theorem lookup_build_eq_some_iff {word : String} {id : GroupId} :
    (build d).lookup word = some id ↔
      ∃ group, d.groups[id.index]? = some group ∧ word ∈ group.owned (d.groups.take id.index) := by
  rw [Definition.lookup, KeywordTable.lookup_eq_some_iff, ← (build_coherent d).mem_words_iff]
  rw [Definition.group?, GroupTable.get?, groups_build, List.getElem?_mapIdx]
  constructor
  · rintro ⟨built, here, member⟩
    obtain ⟨group, found, rfl⟩ := Option.map_eq_some_iff.mp here
    exact ⟨group, found, member⟩
  · rintro ⟨group, found, member⟩
    exact ⟨_, Option.map_eq_some_iff.mpr ⟨group, found, rfl⟩, member⟩

/-- A group is left a word when it is the first one that declares it. -/
theorem owned_iff_isLeast {word : String} {i : Nat} :
    (∃ group, d.groups[i]? = some group ∧ word ∈ group.owned (d.groups.take i)) ↔
      word ≠ "" ∧ IsLeast (d.declaring word) i := by
  constructor
  · rintro ⟨group, here, member⟩
    obtain ⟨declared, filled, hidden⟩ := GroupDeclaration.mem_owned.mp member
    refine ⟨filled, ⟨group, here, declared⟩, ?_⟩
    rintro j ⟨other, there, also⟩
    by_contra before
    have earlier : (d.groups.take i)[j]? = some other := by
      rw [List.getElem?_take_of_lt (Nat.lt_of_not_le before), there]
    exact hidden other (List.mem_of_getElem? earlier) also
  · rintro ⟨filled, ⟨group, here, declared⟩, least⟩
    refine ⟨group, here, GroupDeclaration.mem_owned.mpr ⟨declared, filled, ?_⟩⟩
    intro other listed also
    obtain ⟨j, bound, rfl⟩ := List.getElem_of_mem listed
    rw [List.length_take] at bound
    have there : d.groups[j]? = some (d.groups.take i)[j] := by
      rw [List.getElem_take, List.getElem?_eq_getElem]
    have above := least ⟨_, there, also⟩
    omega

/-- A word is found in the first group that declares it, and in no other; every group keeps its place
and its name, and has the words that no earlier group declares, each where it is declared first. -/
theorem first_group_owns_word (d : Declaration) :
    (∀ word id, (build d).lookup word = some id ↔
      word ≠ "" ∧ IsLeast (d.declaring word) id.index) ∧
    (∀ word, (build d).lookup word = none ↔ word = "" ∨ d.declaring word = ∅) ∧
    (build d).groups.items =
      d.groups.mapIdx fun i group => ⟨⟨i⟩, group.name, group.owned (d.groups.take i)⟩ := by
  have found : ∀ word id, (build d).lookup word = some id ↔
      word ≠ "" ∧ IsLeast (d.declaring word) id.index := by
    intro word id
    rw [lookup_build_eq_some_iff, owned_iff_isLeast]
  refine ⟨found, ?_, groups_build d⟩
  intro word
  rw [Option.eq_none_iff_forall_ne_some]
  constructor
  · intro absent
    by_contra declared
    obtain ⟨filled, nonempty⟩ := not_or.mp declared
    classical
    have least := (Set.nonempty_iff_ne_empty.mpr nonempty).isLeast_natFind
    exact absent _ ((found word ⟨_⟩).mpr ⟨filled, least⟩)
  · rintro (rfl | undeclared) id same
    · exact ((found "" id).mp same).1 rfl
    · have declares := ((found word id).mp same).2.1
      rw [undeclared] at declares
      exact declares

/-- A repeated word stands once, an empty one nowhere, and a word of an earlier group is not given to
a later one. -/
example : (build { name := "G", groups :=
      [⟨"a", ["y", "", "x", "y"]⟩, ⟨"b", ["x"]⟩, ⟨"c", ["x", "z"]⟩] }).groups.items.map (·.words) =
    [["y", "x"], [], ["z"]] := by
  decide +kernel

end Definition
end Highlighter
